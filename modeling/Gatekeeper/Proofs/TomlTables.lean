/-
This file proves that what is read of a written text is what was written. A written text is a row of
parts: a header each, and the plain values under it. The tables are put together part by part, and
every part finds its place where the part before has left it. So it is enough to follow one table:
whatever path it stands at, adding its parts there adds the table.
-/
import Gatekeeper.Proofs.TomlLines

namespace Gatekeeper

namespace Toml

/-! ### Parts -/

/-- A header of a written text, and the plain values under it. -/
structure Part where
  path : List String
  scalars : List (String × Scalar)

namespace Part

def characters (part : Part) : List Char :=
  Outline.headerText part.path ++ part.scalars.flatMap Outline.pairText

/-- The part in a table at the end of another path. -/
def under (path : List String) (part : Part) : Part :=
  ⟨path ++ part.path, part.scalars⟩

/-- What the part says under its header. -/
def pairs (part : Part) : List (List String × Document) :=
  part.scalars.map fun pair => ([pair.1], pair.2.document)

/-- Adds what a part says. -/
def addTo (part : Part) (entries : Entries) : Option Entries :=
  entries.addTable part.path part.pairs

end Part

namespace Outline

/-- Whether a table needs no header of its own. -/
def isImplied (scalars : List (String × Scalar)) (tables : List (String × Outline)) : Bool :=
  scalars.isEmpty && !tables.isEmpty

mutual

/-- The parts of a table: its own, if it has a header, and those of the tables in it. -/
def parts (path : List String) : Outline → List Part
  | table scalars tables =>
    (if isImplied scalars tables then [] else [⟨path, scalars⟩]) ++ tableParts path tables

def tableParts (path : List String) : List (String × Outline) → List Part
  | [] => []
  | (key, outline) :: tables => parts (path ++ [key]) outline ++ tableParts path tables

end

mutual

/-- How deep the tables in a table stand in one another. -/
def height : Outline → Nat
  | table _ tables => tablesHeight tables

def tablesHeight : List (String × Outline) → Nat
  | [] => 0
  | (_, outline) :: tables => max (height outline + 1) (tablesHeight tables)

end

mutual

/-- No key is used twice in the same table. -/
def Distinct : Outline → Prop
  | table scalars tables =>
    (scalars.map Prod.fst ++ tables.map Prod.fst).Nodup ∧ TablesDistinct tables

def TablesDistinct : List (String × Outline) → Prop
  | [] => True
  | (_, outline) :: tables => Distinct outline ∧ TablesDistinct tables

end

theorem tablesHeight_le {tables : List (String × Outline)} {bound : Nat}
    (low : ∀ entry ∈ tables, entry.2.height < bound) : tablesHeight tables ≤ bound := by
  induction tables with
  | nil => exact Nat.zero_le bound
  | cons entry tables inductionHypothesis =>
    exact Nat.max_le.mpr ⟨low entry List.mem_cons_self,
      inductionHypothesis fun other member => low other (List.mem_cons_of_mem _ member)⟩

theorem tablesDistinct_of_forall {tables : List (String × Outline)}
    (distinct : ∀ entry ∈ tables, entry.2.Distinct) : TablesDistinct tables := by
  induction tables with
  | nil => exact trivial
  | cons entry tables inductionHypothesis =>
    exact ⟨distinct entry List.mem_cons_self,
      inductionHypothesis fun other member => distinct other (List.mem_cons_of_mem _ member)⟩

theorem allWritable_eq_all (tables : List (String × Outline)) :
    allWritable tables = tables.all fun entry => entry.2.isWritable := by
  induction tables with
  | nil => rfl
  | cons entry tables inductionHypothesis => rw [allWritable, inductionHypothesis, List.all_cons]

theorem eq_nil_of_isImplied {scalars : List (String × Scalar)} {tables : List (String × Outline)}
    (implied : isImplied scalars tables = true) : scalars = [] ∧ tables ≠ [] := by
  simpa [isImplied] using implied

mutual

/-- The parts of a table are written one behind the other. -/
theorem characters_eq (path : List String) (outline : Outline) :
    outline.characters path = (outline.parts path).flatMap Part.characters := by
  obtain ⟨scalars, tables⟩ := outline
  rw [characters, parts, List.flatMap_append, ← tablesText_eq path tables]
  change (if isImplied scalars tables then [] else headerText path) ++ _ ++ _ = _
  cases implied : isImplied scalars tables with
  | true =>
    rw [(eq_nil_of_isImplied implied).1]
    rfl
  | false => simp [Part.characters]

theorem tablesText_eq (path : List String) (tables : List (String × Outline)) :
    tablesText path tables = (tableParts path tables).flatMap Part.characters := by
  match tables with
  | [] => rfl
  | (key, outline) :: tables =>
    rw [tablesText, tableParts, List.flatMap_append, characters_eq, tablesText_eq path tables]

end

mutual

theorem isWritable_eq (path : List String) (outline : Outline) :
    outline.isWritable =
      (outline.parts path).all fun part => part.scalars.all fun pair => pair.2.isWritable := by
  obtain ⟨scalars, tables⟩ := outline
  rw [isWritable, parts, List.all_append, ← allWritable_eq path tables]
  cases implied : isImplied scalars tables with
  | true =>
    rw [(eq_nil_of_isImplied implied).1]
    rfl
  | false => simp

theorem allWritable_eq (path : List String) (tables : List (String × Outline)) :
    allWritable tables =
      (tableParts path tables).all fun part => part.scalars.all fun pair => pair.2.isWritable := by
  match tables with
  | [] => rfl
  | (key, outline) :: tables =>
    rw [allWritable, tableParts, List.all_append, isWritable_eq (path ++ [key]),
      allWritable_eq path tables]

end

mutual

theorem parts_append (path later : List String) (outline : Outline) :
    outline.parts (path ++ later) = (outline.parts later).map (Part.under path) := by
  obtain ⟨scalars, tables⟩ := outline
  rw [parts, parts, List.map_append, tableParts_append path later tables]
  cases isImplied scalars tables <;> rfl

/-- The parts of a table are the same at every path, but for the path. -/
theorem tableParts_append (path later : List String) (tables : List (String × Outline)) :
    tableParts (path ++ later) tables = (tableParts later tables).map (Part.under path) := by
  match tables with
  | [] => rfl
  | (key, outline) :: tables =>
    rw [tableParts, tableParts, List.map_append, List.append_assoc, parts_append,
      tableParts_append path later tables]

end

mutual

/-- A header has a path, and that is not longer than the table is high. -/
theorem length_path_of_mem_parts {path : List String} (notEmpty : path ≠ []) {outline : Outline}
    {part : Part} (member : part ∈ outline.parts path) :
    part.path ≠ [] ∧ part.path.length ≤ path.length + outline.height := by
  obtain ⟨scalars, tables⟩ := outline
  rw [parts, List.mem_append] at member
  rw [height]
  obtain own | inner := member
  · cases implied : isImplied scalars tables with
    | true => simp [implied] at own
    | false =>
      obtain rfl : part = ⟨path, scalars⟩ := by simpa [implied] using own
      exact ⟨notEmpty, Nat.le_add_right _ _⟩
  · exact length_path_of_mem_tableParts inner

theorem length_path_of_mem_tableParts {path : List String} {tables : List (String × Outline)}
    {part : Part} (member : part ∈ tableParts path tables) :
    part.path ≠ [] ∧ part.path.length ≤ path.length + tablesHeight tables := by
  match tables with
  | [] => cases member
  | (key, outline) :: tables =>
    rw [tableParts, List.mem_append] at member
    rw [tablesHeight]
    obtain here | later := member
    · have found := length_path_of_mem_parts (by simp) here
      rw [List.length_append, List.length_singleton] at found
      exact ⟨found.1, by omega⟩
    · have found := length_path_of_mem_tableParts later
      exact ⟨found.1, by omega⟩

end

/-- A table has a part, since without a header of its own it has a table in it. -/
theorem parts_ne_nil (path : List String) (outline : Outline) : outline.parts path ≠ [] := by
  match outline with
  | table scalars tables =>
    rw [parts]
    cases implied : isImplied scalars tables with
    | false => exact List.cons_ne_nil _ _
    | true =>
      match tables with
      | [] => exact absurd rfl (eq_nil_of_isImplied implied).2
      | (key, outline) :: tables =>
        rw [tableParts]
        exact List.append_ne_nil_of_left_ne_nil (parts_ne_nil (path ++ [key]) outline) _

end Outline

/-! ### Lines -/

namespace Part

def lines (part : Part) : List Line :=
  .table part.path :: part.pairs.map fun pair => .pair pair.1 pair.2

def toSection (part : Part) : Section :=
  ⟨false, part.path, part.pairs⟩

end Part

namespace Says

theorem pairs {rest : List Char} {later : List Line} (reads : Says rest later)
    {scalars : List (String × Scalar)} (writable : ∀ pair ∈ scalars, pair.2.isWritable = true) :
    Says (scalars.flatMap Outline.pairText ++ rest)
      (scalars.map (fun pair => .pair [pair.1] pair.2.document) ++ later) := by
  induction scalars with
  | nil => exact reads
  | cons pair scalars inductionHypothesis =>
    rw [List.flatMap_cons, List.append_assoc]
    exact (inductionHypothesis fun other member =>
      writable other (List.mem_cons_of_mem _ member)).pair (writable pair List.mem_cons_self)

/-- The parts of a text are read one behind the other. -/
theorem parts {parts : List Part}
    (deep : ∀ part ∈ parts, part.path ≠ [] ∧ part.path.length ≤ longestPath)
    (writable : ∀ part ∈ parts, ∀ pair ∈ part.scalars, pair.2.isWritable = true) :
    Says (parts.flatMap Part.characters) (parts.flatMap Part.lines) := by
  induction parts with
  | nil => exact nil
  | cons part parts inductionHypothesis =>
    have later := inductionHypothesis
      (fun other member => deep other (List.mem_cons_of_mem _ member))
      fun other member => writable other (List.mem_cons_of_mem _ member)
    obtain ⟨notEmpty, shallow⟩ := deep part List.mem_cons_self
    have read := (later.pairs (writable part List.mem_cons_self)).header notEmpty shallow
    rw [List.flatMap_cons, List.flatMap_cons, Part.characters, Part.lines, Part.pairs, List.map_map,
      List.append_assoc]
    exact read

end Says

theorem sections_pairs (pairs : List (List String × Document)) {lines : List Line}
    {later : List Section} (read : sections lines = ([], later)) :
    sections (pairs.map (fun pair => .pair pair.1 pair.2) ++ lines) = (pairs, later) := by
  induction pairs with
  | nil => exact read
  | cons pair pairs inductionHypothesis =>
    rw [List.map_cons, List.cons_append, sections, inductionHypothesis]

/-- The lines of the parts of a text fall into these parts. -/
theorem sections_parts (parts : List Part) :
    sections (parts.flatMap Part.lines) = ([], parts.map Part.toSection) := by
  induction parts with
  | nil => rfl
  | cons part parts inductionHypothesis =>
    rw [List.flatMap_cons, Part.lines, List.cons_append, sections,
      sections_pairs part.pairs inductionHypothesis]
    rfl

/-! ### Changing a table in its place -/

namespace Entries

theorem find?_cons (entry : String × Node) (entries : Entries) (key : String) :
    find? (entry :: entries) key =
      if entry.1 == key then some entry.2 else entries.find? key := by
  rw [find?, List.find?_cons]
  cases entry.1 == key <;> rfl

theorem find?_eq_none_iff {entries : Entries} {key : String} :
    entries.find? key = none ↔ key ∉ entries.map Prod.fst := by
  rw [find?, Option.map_eq_none_iff, List.find?_eq_none]
  constructor
  · intro apart member
    obtain ⟨entry, inside, same⟩ := List.mem_map.mp member
    exact apart entry inside (beq_iff_eq.mpr same)
  · intro absent entry inside same
    exact absent (List.mem_map.mpr ⟨entry, inside, beq_iff_eq.mp same⟩)

theorem find?_append_of_absent {entries : Entries} {key : String}
    (absent : key ∉ entries.map Prod.fst) (node : Node) :
    find? (entries ++ [(key, node)]) key = some node := by
  have none := find?_eq_none_iff.mpr absent
  rw [find?, Option.map_eq_none_iff] at none
  rw [find?, List.find?_append, none, List.find?_singleton, beq_self_eq_true]
  rfl

theorem replace_append_of_absent {entries : Entries} {key : String}
    (absent : key ∉ entries.map Prod.fst) (node other : Node) :
    replace (entries ++ [(key, node)]) key other = entries ++ [(key, other)] := by
  have kept : ∀ entry ∈ entries, (if entry.1 == key then (key, other) else entry) = entry := by
    intro entry inside
    refine if_neg fun same => absent (List.mem_map.mpr ⟨entry, inside, beq_iff_eq.mp same⟩)
  rw [replace, List.map_append, List.map_congr_left kept, List.map_id', List.map_singleton,
    if_pos (beq_self_eq_true key)]

theorem find?_replace {entries : Entries} {key : String} {node : Node}
    (found : entries.find? key = some node) (other : Node) :
    (entries.replace key other).find? key = some other := by
  induction entries with
  | nil => cases found
  | cons entry entries inductionHypothesis =>
    rw [replace, List.map_cons]
    rw [find?_cons] at found
    by_cases same : entry.1 == key
    · rw [if_pos same, find?_cons, if_pos (beq_self_eq_true key)]
    · rw [if_neg same] at found ⊢
      rw [find?_cons, if_neg same]
      exact inductionHypothesis found

theorem replace_replace (entries : Entries) (key : String) (first second : Node) :
    (entries.replace key first).replace key second = entries.replace key second := by
  rw [replace, replace, replace, List.map_map]
  refine List.map_congr_left fun entry _ => ?_
  rw [Function.comp_apply]
  cases same : entry.1 == key with
  | true => simp only [if_true, beq_self_eq_true]
  | false => simp only [Bool.false_eq_true, if_false, same]

/-- Two changes at the end of the same path are one. -/
theorem changeAt_changeAt (first second : Origin → Entries → Option Entries) (origin : Origin)
    (entries : Entries) (path : List String) :
    ((changeAt false first origin entries path).bind fun changed =>
        changeAt false second origin changed path) =
      changeAt false (fun origin inner => (first origin inner).bind (second origin)) origin entries
        path := by
  induction path generalizing origin entries with
  | nil => rfl
  | cons key path inductionHypothesis =>
    rw [changeAt, changeAt]
    cases found : entries.find? key with
    | none =>
      have later := inductionHypothesis .implied []
      simp only [if_neg Bool.false_ne_true, ← later]
      cases changeAt false first .implied [] path with
      | none => rfl
      | some inner =>
        have absent := find?_eq_none_iff.mp found
        rw [Option.map_some, Option.bind_some, Option.bind_some, changeAt,
          find?_append_of_absent absent]
        simp only [replace_append_of_absent absent, Bool.false_eq_true, false_and, if_false]
    | some node =>
      cases node with
      | value document => rfl
      | table origin inner =>
        have later := inductionHypothesis origin inner
        simp only [Bool.false_eq_true, false_and, if_false, ← later]
        cases changeAt false first origin inner path with
        | none => rfl
        | some changed =>
          rw [Option.map_some, Option.bind_some, Option.bind_some, changeAt, find?_replace found]
          simp only [Bool.false_eq_true, false_and, if_false, replace_replace]
      | tables elements =>
        cases last : elements.getLast? with
        | none => simp only [last, Option.bind_none]
        | some element =>
          have later := inductionHypothesis .header element
          simp only [last, ← later]
          cases changeAt false first .header element path with
          | none => rfl
          | some changed =>
            rw [Option.map_some, Option.bind_some, Option.bind_some, changeAt, find?_replace found]
            simp only [List.getLast?_append, List.getLast?_singleton, Option.some_or,
              List.dropLast_concat, replace_replace]

/-- A change at the end of a path is a change at the end of the rest of it, in the table where the
first part of it ends. -/
theorem changeAt_append (dotted : Bool) (change : Origin → Entries → Option Entries)
    (origin : Origin) (entries : Entries) (path later : List String) :
    changeAt dotted change origin entries (path ++ later) =
      changeAt dotted (fun origin inner => changeAt dotted change origin inner later) origin entries
        path := by
  induction path generalizing origin entries with
  | nil => rfl
  | cons key path inductionHypothesis =>
    rw [List.cons_append, changeAt, changeAt]
    simp only [inductionHypothesis]

/-- A change that is not told how its table has come about does not ask where it starts either. -/
theorem changeAt_origin (dotted : Bool) (change : Entries → Option Entries)
    (origin other : Origin) (entries : Entries) (path : List String) :
    changeAt dotted (fun _ inner => change inner) origin entries path =
      changeAt dotted (fun _ inner => change inner) other entries path := by
  cases path <;> rfl

/-- A table further down a path is added in the table where the first part of the path ends. -/
theorem addTable_append (entries : Entries) (path : List String) {later : List String}
    (notEmpty : later ≠ []) (pairs : List (List String × Document)) :
    entries.addTable (path ++ later) pairs =
      changeAt false (fun _ inner => inner.addTable later pairs) .header entries path := by
  obtain ⟨key, last⟩ : ∃ key, later.getLast? = some key :=
    ⟨_, List.getLast?_eq_some_getLast notEmpty⟩
  have lastOfAll : (path ++ later).getLast? = some key := by
    rw [List.getLast?_append, last]
    rfl
  unfold addTable
  simp only [last, lastOfAll]
  rw [List.dropLast_append_of_ne_nil notEmpty, changeAt_append]
  refine congrArg (changeAt false · .header entries path)
    (funext fun origin => funext fun inner => ?_)
  exact changeAt_origin false _ origin .header inner later.dropLast

/-! ### Adding plain values -/

/-- The plain values of a table, as entries. -/
def ofScalars (scalars : List (String × Scalar)) : Entries :=
  scalars.map fun pair => (pair.1, .value pair.2.document)

theorem keys_ofScalars (scalars : List (String × Scalar)) :
    (ofScalars scalars).map Prod.fst = scalars.map Prod.fst := by
  rw [ofScalars, List.map_map]
  rfl

theorem documents_ofScalars_append (scalars : List (String × Scalar)) (entries : Entries) :
    Node.documents (ofScalars scalars ++ entries) =
      scalars.map (fun pair => (pair.1, pair.2.document)) ++ Node.documents entries := by
  induction scalars with
  | nil => rfl
  | cons pair scalars inductionHypothesis =>
    rw [ofScalars, List.map_cons, List.cons_append, Node.documents, Node.document]
    exact congrArg ((pair.1, pair.2.document) :: ·) inductionHypothesis

theorem set_singleton {entries : Entries} {key : String} (absent : key ∉ entries.map Prod.fst)
    (document : Document) :
    entries.set [key] document = some (entries ++ [(key, .value document)]) := by
  show (if [key].length = 1 ∨ Origin.header = .dotted then entries.add key document else none) = _
  rw [if_pos (.inl rfl), add, find?_eq_none_iff.mpr absent]

/-- A table whose key is free is added with what stands under its header. -/
theorem addTable_singleton {entries : Entries} {key : String} (absent : key ∉ entries.map Prod.fst)
    {pairs : List (List String × Document)} {content : Entries}
    (set : setAll [] pairs = some content) :
    entries.addTable [key] pairs = some (entries ++ [(key, .table .header content)]) := by
  have free := find?_eq_none_iff.mpr absent
  simp only [addTable, List.getLast?_singleton, List.dropLast_singleton, changeAt, free, set,
    Option.map_some]

/-- Plain values with keys of their own are added one behind the other. -/
theorem setAll_scalars {entries : Entries} {scalars : List (String × Scalar)}
    (distinct : (entries.map Prod.fst ++ scalars.map Prod.fst).Nodup) :
    entries.setAll (scalars.map fun pair => ([pair.1], pair.2.document)) =
      some (entries ++ ofScalars scalars) := by
  induction scalars generalizing entries with
  | nil => simp [setAll, ofScalars]
  | cons pair scalars inductionHypothesis =>
    have absent : pair.1 ∉ entries.map Prod.fst := by
      intro inside
      exact (List.nodup_append.mp distinct).2.2 _ inside _ List.mem_cons_self rfl
    have later := @inductionHypothesis (entries ++ [(pair.1, .value pair.2.document)])
      (by simpa using distinct)
    rw [setAll] at later ⊢
    rw [List.map_cons, List.foldlM_cons, set_singleton absent]
    refine later.trans ?_
    simp [ofScalars]

end Entries

namespace Outline

mutual

/-- What a table has become once all its parts have been added. -/
def node : Outline → Node
  | table scalars tables =>
    .table (if isImplied scalars tables then .implied else .header)
      (Entries.ofScalars scalars ++ tableNodes tables)

def tableNodes : List (String × Outline) → Entries
  | [] => []
  | (key, outline) :: tables => (key, node outline) :: tableNodes tables

end

mutual

/-- What a table says. -/
def value : Outline → Document
  | table scalars tables =>
    .table (scalars.map (fun pair => (pair.1, pair.2.document)) ++ tableValues tables) .closed

def tableValues : List (String × Outline) → List (String × Document)
  | [] => []
  | (key, outline) :: tables => (key, value outline) :: tableValues tables

end

theorem tableValues_eq_map (tables : List (String × Outline)) :
    tableValues tables = tables.map fun entry => (entry.1, entry.2.value) := by
  induction tables with
  | nil => rfl
  | cons entry tables inductionHypothesis => rw [tableValues, inductionHypothesis, List.map_cons]

end Outline

/-- Parts in a table are added in that table. -/
theorem foldlM_addTo_under (path : List String) {parts : List Part} (notEmpty : parts ≠ [])
    (headed : ∀ part ∈ parts, part.path ≠ []) (entries : Entries) :
    (parts.map (Part.under path)).foldlM (fun entries part => part.addTo entries) entries =
      Entries.changeAt false
        (fun _ inner => parts.foldlM (fun inner part => part.addTo inner) inner) .header entries
        path := by
  induction parts generalizing entries with
  | nil => exact absurd rfl notEmpty
  | cons part parts inductionHypothesis =>
    have added := entries.addTable_append path (headed part List.mem_cons_self) part.pairs
    have later := fun notEmpty => inductionHypothesis notEmpty fun other member =>
      headed other (List.mem_cons_of_mem _ member)
    rw [List.map_cons, List.foldlM_cons]
    rw [show (part.under path).addTo entries = _ from added]
    cases parts with
    | nil =>
      simp only [List.map_nil, List.foldlM_nil, List.foldlM_cons, bind_pure]
      rfl
    | cons next parts =>
      simp only [later (List.cons_ne_nil _ _)]
      exact Entries.changeAt_changeAt _ _ .header entries path

namespace Outline

theorem tableParts_ne_nil (path : List String) {tables : List (String × Outline)}
    (notEmpty : tables ≠ []) : tableParts path tables ≠ [] := by
  obtain ⟨⟨key, outline⟩, tables, rfl⟩ := List.exists_cons_of_ne_nil notEmpty
  rw [tableParts]
  exact List.append_ne_nil_of_left_ne_nil (parts_ne_nil _ outline) _

/-- The parts of the tables in a table are added where that table is. -/
theorem foldlM_tableParts_under (key : String) {tables : List (String × Outline)}
    (notEmpty : tables ≠ []) (entries : Entries) :
    (tableParts [key] tables).foldlM (fun entries part => part.addTo entries) entries =
      Entries.changeAt false
        (fun _ inner =>
          (tableParts [] tables).foldlM (fun inner part => part.addTo inner) inner)
        .header entries [key] := by
  have moved : tableParts [key] tables = (tableParts [] tables).map (Part.under [key]) :=
    tableParts_append [key] [] tables
  rw [moved]
  exact foldlM_addTo_under [key] (tableParts_ne_nil [] notEmpty)
    (fun _ member => (length_path_of_mem_tableParts member).1) entries

section Growing

variable {entries content : Entries} {key : String} {tables : List (String × Outline)}

/-- If the tables in a table can be added to its content, their parts can be added where it is. -/
theorem foldlM_tableParts_grow (absent : key ∉ entries.map Prod.fst) (origin : Origin)
    (grows : (tableParts [] tables).foldlM (fun inner part => part.addTo inner) content =
      some (content ++ tableNodes tables)) :
    (tableParts [key] tables).foldlM (fun entries part => part.addTo entries)
        (entries ++ [(key, .table origin content)]) =
      some (entries ++ [(key, .table origin (content ++ tableNodes tables))]) := by
  by_cases empty : tables = []
  · subst empty
    simp [tableParts, tableNodes]
  · rw [foldlM_tableParts_under key empty, Entries.changeAt,
      Entries.find?_append_of_absent absent]
    simp only [Bool.false_eq_true, false_and, if_false, Entries.changeAt, grows, Option.map_some,
      Entries.replace_append_of_absent absent]

/-- They can also be added where there is no table yet, which makes one. -/
theorem foldlM_tableParts_make (absent : key ∉ entries.map Prod.fst) (notEmpty : tables ≠ [])
    (grows : (tableParts [] tables).foldlM (fun inner part => part.addTo inner) [] =
      some (tableNodes tables)) :
    (tableParts [key] tables).foldlM (fun entries part => part.addTo entries) entries =
      some (entries ++ [(key, .table .implied (tableNodes tables))]) := by
  rw [foldlM_tableParts_under key notEmpty, Entries.changeAt, Entries.find?_eq_none_iff.mpr absent]
  simp only [Bool.false_eq_true, if_false, Entries.changeAt, grows, Option.map_some]

end Growing

mutual

/-- Adding the parts of a table at a key that is free adds the table there. -/
theorem foldlM_parts (outline : Outline) (distinct : outline.Distinct) {entries : Entries}
    {key : String} (absent : key ∉ entries.map Prod.fst) :
    (outline.parts [key]).foldlM (fun entries part => part.addTo entries) entries =
      some (entries ++ [(key, outline.node)]) := by
  obtain ⟨scalars, tables⟩ := outline
  obtain ⟨distinctKeys, distinctTables⟩ := distinct
  rw [parts, node]
  cases implied : isImplied scalars tables with
  | true =>
    obtain ⟨rfl, notEmpty⟩ := eq_nil_of_isImplied implied
    exact foldlM_tableParts_make absent notEmpty
      (foldlM_tableParts tables distinctTables (by simpa using distinctKeys))
  | false =>
    have set : Entries.setAll [] (Part.pairs ⟨[key], scalars⟩) =
        some (Entries.ofScalars scalars) :=
      Entries.setAll_scalars (by simpa using (List.nodup_append.mp distinctKeys).1)
    have own : Part.addTo ⟨[key], scalars⟩ entries =
        some (entries ++ [(key, .table .header (Entries.ofScalars scalars))]) :=
      Entries.addTable_singleton absent set
    rw [if_neg Bool.false_ne_true, if_neg Bool.false_ne_true, List.singleton_append,
      List.foldlM_cons, own]
    refine foldlM_tableParts_grow absent .header (foldlM_tableParts tables distinctTables ?_)
    rw [Entries.keys_ofScalars]
    exact distinctKeys

theorem foldlM_tableParts (tables : List (String × Outline)) (distinct : TablesDistinct tables)
    {entries : Entries} (apart : (entries.map Prod.fst ++ tables.map Prod.fst).Nodup) :
    (tableParts [] tables).foldlM (fun entries part => part.addTo entries) entries =
      some (entries ++ tableNodes tables) := by
  match tables with
  | [] => simp [tableParts, tableNodes]
  | (key, outline) :: tables =>
    have absent : key ∉ entries.map Prod.fst := by
      intro inside
      exact (List.nodup_append.mp apart).2.2 _ inside _ List.mem_cons_self rfl
    have here := foldlM_parts outline distinct.1 absent
    have later := @foldlM_tableParts tables distinct.2 (entries ++ [(key, outline.node)])
      (by simpa using apart)
    rw [tableParts, List.nil_append, List.foldlM_append, here]
    refine later.trans ?_
    rw [tableNodes, List.append_assoc]
    rfl

end

mutual

/-- A finished table says what the outline says. -/
theorem document_node (outline : Outline) : outline.node.document = outline.value := by
  obtain ⟨scalars, tables⟩ := outline
  rw [node, Node.document, value, Entries.documents_ofScalars_append, documents_tableNodes tables]

theorem documents_tableNodes (tables : List (String × Outline)) :
    Node.documents (tableNodes tables) = tableValues tables := by
  match tables with
  | [] => rfl
  | (key, outline) :: tables =>
    rw [tableNodes, Node.documents, tableValues, document_node, documents_tableNodes tables]

end

end Outline

/-! ### Whole documents -/

theorem skipMark_eq {text : List Char} (unmarked : text.head? ≠ some '\uFEFF') :
    skipMark text = text := by
  unfold skipMark
  split
  · exact absurd rfl unmarked
  · rfl

section Documents

variable {scalars : List (String × Scalar)} {tables : List (String × Outline)}

theorem document_eq (scalars : List (String × Scalar)) (tables : List (String × Outline)) :
    (Outline.table scalars tables).document =
      scalars.flatMap Outline.pairText ++
        (Outline.tableParts [] tables).flatMap Part.characters := by
  rw [Outline.document, Outline.tablesText_eq]

/-- A document starts with a key or with an empty line. -/
theorem head?_document_ne (scalars : List (String × Scalar)) (tables : List (String × Outline)) :
    (Outline.table scalars tables).document.head? ≠ some '\uFEFF' := by
  rw [document_eq]
  cases scalars with
  | nil =>
    cases Outline.tableParts [] tables with
    | nil => nofun
    | cons part parts => exact fun same => absurd (Option.some.inj same) (by decide)
  | cons pair scalars =>
    obtain ⟨first, later, written, starts⟩ := keyText_head pair.1
    rw [List.flatMap_cons, Outline.pairText, written]
    exact fun same => ne_of_startsKey starts (by decide) (Option.some.inj same)

/-- The lines of a document are those of its plain values and its parts. -/
theorem says_document (writable : (Outline.table scalars tables).isWritable = true)
    (shallow : (Outline.table scalars tables).height ≤ longestPath) :
    Says (Outline.table scalars tables).document
      (scalars.map (fun pair => .pair [pair.1] pair.2.document) ++
        (Outline.tableParts [] tables).flatMap Part.lines) := by
  rw [Outline.isWritable, Bool.and_eq_true, Outline.allWritable_eq [] tables] at writable
  rw [document_eq]
  refine (Says.parts (fun part member => ?_) fun part member => ?_).pairs
    (List.all_eq_true.mp writable.1)
  · obtain ⟨notEmpty, short⟩ := Outline.length_path_of_mem_tableParts member
    rw [List.length_nil, Nat.zero_add] at short
    exact ⟨notEmpty, Nat.le_trans short shallow⟩
  · exact List.all_eq_true.mp (List.all_eq_true.mp writable.2 part member)

/-- The lines of a document are put together to what it says. -/
theorem assemble?_document (distinct : (Outline.table scalars tables).Distinct) :
    assemble? (scalars.map (fun pair => .pair [pair.1] pair.2.document) ++
        (Outline.tableParts [] tables).flatMap Part.lines) =
      some (Outline.table scalars tables).value := by
  obtain ⟨distinctKeys, distinctTables⟩ := distinct
  have fallen : sections (scalars.map (fun pair => .pair [pair.1] pair.2.document) ++
      (Outline.tableParts [] tables).flatMap Part.lines) =
        (scalars.map fun pair => ([pair.1], pair.2.document),
          (Outline.tableParts [] tables).map Part.toSection) := by
    have read := sections_pairs (scalars.map fun pair => ([pair.1], pair.2.document))
      (sections_parts (Outline.tableParts [] tables))
    rw [List.map_map] at read
    exact read
  have set : Entries.setAll [] (scalars.map fun pair => ([pair.1], pair.2.document)) =
      some (Entries.ofScalars scalars) :=
    Entries.setAll_scalars (by simpa using (List.nodup_append.mp distinctKeys).1)
  have added : (Outline.tableParts [] tables).foldlM (fun entries part => part.addTo entries)
      (Entries.ofScalars scalars) =
        some (Entries.ofScalars scalars ++ Outline.tableNodes tables) := by
    refine Outline.foldlM_tableParts tables distinctTables ?_
    rw [Entries.keys_ofScalars]
    exact distinctKeys
  have said := Outline.document_node (.table scalars tables)
  rw [Outline.node, Node.document] at said
  rw [assemble?, fallen]
  refine (bind_of_eq_some set _).trans ?_
  rw [List.foldlM_map]
  refine (bind_of_eq_some added _).trans ?_
  rw [said]
  rfl

/-- What is read of a written document is what was written: its plain values, and behind them its
tables in order. -/
theorem document?_document (writable : (Outline.table scalars tables).isWritable = true)
    (distinct : (Outline.table scalars tables).Distinct)
    (shallow : (Outline.table scalars tables).height ≤ longestPath) :
    document? (String.ofList (Outline.table scalars tables).document) =
      some (Outline.table scalars tables).value := by
  rw [document?, String.toList_ofList, skipMark_eq (head?_document_ne scalars tables),
    says_document writable shallow _ (Nat.lt_succ_self _), Option.bind_some,
    assemble?_document distinct]

end Documents

end Toml

end Gatekeeper
