/-
This file says what a record says, in whichever form it comes. A table gives a value to each field
that is among its keys, in any order and among any keys that are no field; a list gives values to
the first fields. Either way a record reads as the values that it gives, taken in the order of its
fields, because no field has anything to do with another.
-/
import Gatekeeper.Proofs.Records

namespace Gatekeeper

variable {α β ε ρ : Type}

theorem bind_eq_ok_iff {first : Except ε α} {next : α → Except ε β} {result : β} :
    first >>= next = .ok result ↔ ∃ value, first = .ok value ∧ next value = .ok result := by
  cases first with
  | error error => exact ⟨nofun, nofun⟩
  | ok value =>
    constructor
    · exact fun ended => ⟨value, rfl, ended⟩
    · rintro ⟨_, ⟨⟩, ended⟩
      exact ended

theorem map_eq_ok_iff {first : Except ε α} {change : α → β} {result : β} :
    first.map change = .ok result ↔ ∃ value, first = .ok value ∧ result = change value := by
  cases first with
  | error error => exact iff_of_false nofun (by rintro ⟨_, ⟨⟩, _⟩)
  | ok value => simp only [Except.map, Except.ok.injEq, exists_eq_left', eq_comm]

namespace Document

/-- The value that a document gives to one of these fields. -/
def field? (names : List String) (document : Document) (name : String) : Option Document :=
  match document with
  | list items _ => (names.zip items).lookup name
  | _ => document.entries?.bind fun table => table.1.lookup name

/-- The names among the keys of a table, in the order of its entries. -/
def givenNames (names : List String) (entries : List (String × Document)) : List String :=
  (entries.map Prod.fst).filter fun key => names.contains key

/-- The document has the form of a record with these fields. A table gives none of them twice, and
a list gives no more values than there are fields, where that matters. -/
def IsRecord (dialect : Dialect) (names : List String) (document : Document) : Prop :=
  match document with
  | list items ending => ending = .closed ∧ (dialect = .json → items.length ≤ names.length)
  | _ => ∃ entries, document.entries? = some (entries, .closed) ∧
      (givenNames names entries).Nodup ∧
      ∀ entry ∈ entries, entry.1 ∉ names → entry.2.isPassable = true

end Document

/-! ### Fields -/

/-- It does not matter which of two fields is read first. -/
def Field.Commutes (first second : Field ρ) : Prop :=
  ∀ value other record result, first.read value record >>= second.read other = .ok result ↔
    second.read other record >>= first.read value = .ok result

theorem Field.commutes_optional (name other : String) {read : Document → Except ReadError α}
    {readOther : Document → Except ReadError β} {set : α → ρ → ρ} {setOther : β → ρ → ρ}
    (apart : ∀ value otherValue record,
      setOther otherValue (set value record) = set value (setOther otherValue record)) :
    (Field.optional name read set).Commutes (.optional other readOther setOther) := by
  intro value otherValue record result
  dsimp only [optional]
  cases read value with
  | error error => cases readOther otherValue <;> exact iff_of_false nofun nofun
  | ok found =>
    cases readOther otherValue with
    | error error => exact iff_of_false nofun nofun
    | ok otherFound =>
      simp only [Except.map, bind_eq_ok_iff, Except.ok.injEq, exists_eq_left', apart]

namespace RecordShape

def names (shape : RecordShape ρ) : List String :=
  shape.fields.map Field.name

/-- The fields have names of their own, and nothing to do with each other. -/
structure Orderly (shape : RecordShape ρ) : Prop where
  distinct : shape.names.Nodup
  commute : shape.fields.Pairwise Field.Commutes

/-- Reads the values that are given, in the order of the fields. -/
def readGiven (given : String → Option Document) : List (Field ρ) → ρ → Except ReadError ρ
  | [], record => .ok record
  | field :: fields, record =>
    match given field.name with
    | some value => field.read value record >>= readGiven given fields
    | none => readGiven given fields record

theorem readGiven_congr {given other : String → Option Document} {fields : List (Field ρ)}
    (agree : ∀ field ∈ fields, given field.name = other field.name) :
    readGiven given fields = readGiven other fields := by
  induction fields with
  | nil => rfl
  | cons field fields inductionHypothesis =>
    obtain ⟨here, later⟩ := List.forall_mem_cons.mp agree
    funext record
    rw [readGiven, readGiven, here, inductionHypothesis later]

theorem readGiven_of_none {given : String → Option Document} {field : Field ρ}
    (absent : given field.name = none) (fields : List (Field ρ)) :
    readGiven given (field :: fields) = readGiven given fields := by
  funext record
  rw [readGiven, absent]

/-- A value that is given besides might as well be read before all others. -/
theorem readGiven_first {given with' : String → Option Document} {fields : List (Field ρ)}
    (distinct : (fields.map Field.name).Nodup) (commute : fields.Pairwise Field.Commutes)
    {field : Field ρ} (member : field ∈ fields) {value : Document}
    (absent : given field.name = none) (present : with' field.name = some value)
    (others : ∀ name, name ≠ field.name → with' name = given name) (record result : ρ) :
    readGiven with' fields record = .ok result ↔
      field.read value record >>= readGiven given fields = .ok result := by
  induction fields generalizing record with
  | nil => cases member
  | cons first fields inductionHypothesis =>
    obtain ⟨alone, distinct⟩ := List.nodup_cons.mp distinct
    obtain ⟨apart, commute⟩ := List.pairwise_cons.mp commute
    obtain rfl | later := List.mem_cons.mp member
    · have agree : ∀ other ∈ fields, with' other.name = given other.name := by
        intro other inside
        refine others _ fun same => alone ?_
        exact List.mem_map.mpr ⟨other, inside, same⟩
      rw [readGiven, present, readGiven_of_none absent, readGiven_congr agree]
    · have different : first.name ≠ field.name := by
        intro same
        exact alone (List.mem_map.mpr ⟨field, later, same.symm⟩)
      have step := inductionHypothesis distinct commute later
      cases here : given first.name with
      | none =>
        rw [readGiven_of_none ((others _ different).trans here), readGiven_of_none here]
        exact step record
      | some firstValue =>
        have swap := apart field later firstValue value record
        calc
          readGiven with' (first :: fields) record = .ok result
          ↔ ∃ read, first.read firstValue record = .ok read ∧
              field.read value read >>= readGiven given fields = .ok result := by
            rw [readGiven, (others _ different).trans here, bind_eq_ok_iff]
            exact exists_congr fun read => and_congr_right fun _ => step read
          _ ↔ ∃ read, first.read firstValue record >>= field.read value = .ok read ∧
              readGiven given fields read = .ok result := by
            rw [← bind_eq_ok_iff, ← bind_eq_ok_iff, bind_assoc]
          _ ↔ ∃ read, field.read value record >>= first.read firstValue = .ok read ∧
              readGiven given fields read = .ok result :=
            exists_congr fun read => and_congr_left fun _ => swap read
          _ ↔ field.read value record >>= readGiven given (first :: fields) = .ok result := by
            rw [← bind_eq_ok_iff, bind_assoc]
            simp only [readGiven, here]

theorem readGiven_nothing (fields : List (Field ρ)) (record : ρ) :
    readGiven (fun _ => none) fields record = .ok record := by
  induction fields with
  | nil => rfl
  | cons field fields inductionHypothesis => exact inductionHypothesis

/-! ### Tables -/

section Tables

variable {shape : RecordShape ρ}

theorem find?_eq_none_of_unknown {key : String} (unknown : key ∉ shape.names) :
    (shape.fields.find? fun field => field.name == key) = none := by
  rw [List.find?_eq_none]
  intro field member named
  exact unknown (List.mem_map.mpr ⟨field, member, eq_of_beq named⟩)

theorem lookup_eq_none_of_not_mem {entries : List (String × Document)} {key : String}
    (absent : key ∉ entries.map Prod.fst) : entries.lookup key = none := by
  rw [List.lookup_eq_none_iff]
  intro entry member
  rw [bne_iff_ne]
  rintro rfl
  exact absent (List.mem_map_of_mem member)

/-- A key that is no field gives nothing. -/
theorem readGiven_unknown {key : String} (unknown : key ∉ shape.names) (value : Document)
    (entries : List (String × Document)) :
    readGiven (fun name => ((key, value) :: entries).lookup name) shape.fields =
      readGiven (fun name => entries.lookup name) shape.fields := by
  refine readGiven_congr fun field member => ?_
  have apart : field.name ≠ key := by
    rintro rfl
    exact unknown (List.mem_map_of_mem member)
  rw [List.lookup_cons, beq_eq_false_iff_ne.mpr apart]

/-- An entry for a field that no other entry is for might as well be read first. -/
theorem readGiven_known (orderly : shape.Orderly) {field : Field ρ} (member : field ∈ shape.fields)
    {entries : List (String × Document)} (absent : field.name ∉ entries.map Prod.fst)
    (value : Document) (record result : ρ) :
    readGiven (fun name => ((field.name, value) :: entries).lookup name) shape.fields record =
        .ok result ↔
      field.read value record >>= readGiven (fun name => entries.lookup name) shape.fields =
        .ok result := by
  refine readGiven_first orderly.distinct orderly.commute member
    (lookup_eq_none_of_not_mem absent) ?_ ?_ record result
  · exact List.lookup_cons_self
  · intro name apart
    rw [List.lookup_cons, beq_eq_false_iff_ne.mpr apart]

/-- An entry for a field is read if no entry for the field has been read before. -/
theorem readEntry_known (orderly : shape.Orderly) {field : Field ρ} (member : field ∈ shape.fields)
    (value : Document) (record : ρ) (used : List String) (state : ρ × List String) :
    shape.readEntry (record, used) (field.name, value) = .ok state ↔
      field.name ∉ used ∧ ∃ next, field.read value record = .ok next ∧
        state = (next, field.name :: used) := by
  rw [readEntry, find?_name orderly.distinct member]
  dsimp only
  by_cases before : field.name ∈ used
  · rw [if_pos (List.contains_iff_mem.mpr before)]
    refine iff_of_false ?_ fun entered => entered.1 before
    rintro ⟨⟩
  · rw [if_neg fun inside => before (List.contains_iff_mem.mp inside)]
    exact map_eq_ok_iff.trans (and_iff_right before).symm

/-- An entry whose key is no field is passed over. -/
theorem readEntry_unknown {key : String} (unknown : key ∉ shape.names) (value : Document)
    (state next : ρ × List String) :
    shape.readEntry state (key, value) = .ok next ↔ value.isPassable = true ∧ next = state := by
  rw [readEntry, find?_eq_none_of_unknown unknown]
  cases value.isPassable with
  | false => simp
  | true => simp [eq_comm]

theorem reverse_givenNames_append {entries : List (String × Document)} {key : String}
    (known : key ∈ shape.names) (value : Document) (used : List String) :
    (Document.givenNames shape.names ((key, value) :: entries)).reverse ++ used =
      (Document.givenNames shape.names entries).reverse ++ key :: used := by
  simp [Document.givenNames, known]

theorem givenNames_unknown {entries : List (String × Document)} {key : String}
    (unknown : key ∉ shape.names) (value : Document) :
    Document.givenNames shape.names ((key, value) :: entries) =
      Document.givenNames shape.names entries := by
  simp [Document.givenNames, unknown]

/-- What has been given cannot be given later. -/
theorem not_mem_of_nodup_givenNames {entries : List (String × Document)} {key : String}
    (known : key ∈ shape.names) {used : List String}
    (distinct : ((Document.givenNames shape.names entries).reverse ++ key :: used).Nodup) :
    key ∉ used ∧ key ∉ entries.map Prod.fst := by
  obtain ⟨_, later, apart⟩ := List.nodup_append.mp distinct
  refine ⟨(List.nodup_cons.mp later).1, fun inside => ?_⟩
  refine apart key ?_ key List.mem_cons_self rfl
  exact List.mem_reverse.mpr (List.mem_filter.mpr ⟨inside, List.contains_iff_mem.mpr known⟩)

/-- Entries are read one by one, and it does not matter in which order they come. The induction is
on the entries still to come; no field may have been given before. -/
theorem foldlM_readEntry_eq_ok_iff (orderly : shape.Orderly) (entries : List (String × Document))
    {used : List String} (once : used.Nodup) (record result : ρ) (given : List String) :
    entries.foldlM shape.readEntry (record, used) = .ok (result, given) ↔
      given = (Document.givenNames shape.names entries).reverse ++ used ∧ given.Nodup ∧
        (∀ entry ∈ entries, entry.1 ∉ shape.names → entry.2.isPassable = true) ∧
        readGiven (fun name => entries.lookup name) shape.fields record = .ok result := by
  induction entries generalizing used record with
  | nil =>
    have nothing := readGiven_nothing shape.fields record
    constructor
    · rintro ⟨⟩
      exact ⟨rfl, once, nofun, nothing⟩
    · rintro ⟨rfl, _, _, read⟩
      cases nothing.symm.trans read
      rfl
  | cons entry rest inductionHypothesis =>
    obtain ⟨key, value⟩ := entry
    rw [List.foldlM_cons, bind_eq_ok_iff, List.forall_mem_cons]
    by_cases known : key ∈ shape.names
    · obtain ⟨field, member, rfl⟩ := List.mem_map.mp known
      rw [reverse_givenNames_append known]
      constructor
      · rintro ⟨_, entered, read⟩
        obtain ⟨before, next, reads, rfl⟩ := (readEntry_known orderly member _ _ _ _).mp entered
        obtain ⟨rfl, distinct, passable, ends⟩ :=
          (inductionHypothesis (List.nodup_cons.mpr ⟨before, once⟩) next).mp read
        refine ⟨rfl, distinct, ⟨fun unknown => absurd known unknown, passable⟩, ?_⟩
        rw [readGiven_known orderly member (not_mem_of_nodup_givenNames known distinct).2, reads]
        exact ends
      · rintro ⟨rfl, distinct, ⟨_, passable⟩, ends⟩
        obtain ⟨before, absent⟩ := not_mem_of_nodup_givenNames known distinct
        rw [readGiven_known orderly member absent, bind_eq_ok_iff] at ends
        obtain ⟨next, reads, ends⟩ := ends
        refine ⟨_, (readEntry_known orderly member _ _ _ _).mpr ⟨before, next, reads, rfl⟩, ?_⟩
        exact (inductionHypothesis (List.nodup_cons.mpr ⟨before, once⟩) next).mpr
          ⟨rfl, distinct, passable, ends⟩
    · rw [givenNames_unknown known, readGiven_unknown known]
      simp only [readEntry_unknown known]
      constructor
      · rintro ⟨_, ⟨passes, rfl⟩, read⟩
        obtain ⟨all, distinct, passable, ends⟩ := (inductionHypothesis once record).mp read
        exact ⟨all, distinct, ⟨fun _ => passes, passable⟩, ends⟩
      · rintro ⟨all, distinct, ⟨passes, passable⟩, ends⟩
        exact ⟨_, ⟨passes known, rfl⟩,
          (inductionHypothesis once record).mpr ⟨all, distinct, passable, ends⟩⟩

/-- A table is read as the values that it gives, if it gives each field that has to be there. -/
theorem readTable_eq_ok_iff (orderly : shape.Orderly) (entries : List (String × Document))
    (ending : Ending) (record : ρ) :
    shape.readTable entries ending = .ok record ↔
      ending = .closed ∧ (Document.givenNames shape.names entries).Nodup ∧
        (∀ entry ∈ entries, entry.1 ∉ shape.names → entry.2.isPassable = true) ∧
        (∀ field ∈ shape.fields, field.required = true → (entries.lookup field.name).isSome) ∧
        readGiven (fun name => entries.lookup name) shape.fields shape.start = .ok record := by
  have complete_iff : (shape.fields.find? fun field => field.required &&
      !((Document.givenNames shape.names entries).reverse ++ []).contains field.name) = none ↔
        ∀ field ∈ shape.fields, field.required = true → (entries.lookup field.name).isSome := by
    rw [List.find?_eq_none]
    refine forall₂_congr fun field member => ?_
    have known : field.name ∈ shape.names := List.mem_map_of_mem member
    simp [Document.givenNames, known]
  have entered := foldlM_readEntry_eq_ok_iff orderly entries List.nodup_nil shape.start
  rw [readTable, bind_eq_ok_iff]
  constructor
  · rintro ⟨⟨read, given⟩, folded, ended⟩
    obtain ⟨rfl, distinct, passable, reads⟩ := (entered read given).mp folded
    dsimp only at ended
    split at ended
    · cases ended
    · next closed =>
      split at ended
      · cases ended
      · next complete =>
        cases ended
        rw [List.append_nil, (List.reverse_perm _).nodup_iff] at distinct
        exact ⟨Decidable.not_not.mp closed, distinct, passable, complete_iff.mp complete, reads⟩
  · rintro ⟨rfl, distinct, passable, complete, reads⟩
    rw [← (List.reverse_perm _).nodup_iff, ← List.append_nil (List.reverse _)] at distinct
    refine ⟨(record, _), (entered record _).mpr ⟨rfl, distinct, passable, reads⟩, ?_⟩
    dsimp only
    rw [if_neg fun unclosed => unclosed rfl, complete_iff.mpr complete]
    rfl

end Tables

/-! ### Lists -/

section Lists

theorem lookup_zip_cons_of_ne {name other : String} (apart : other ≠ name) (names : List String)
    (item : Document) (items : List Document) :
    ((name :: names).zip (item :: items)).lookup other = (names.zip items).lookup other := by
  rw [List.zip_cons_cons, List.lookup_cons, beq_eq_false_iff_ne.mpr apart]

theorem readFields_eq_readGiven {fields : List (Field ρ)}
    (distinct : (fields.map Field.name).Nodup) (items : List Document) (record : ρ) :
    readFields fields items record =
      readGiven (fun name => ((fields.map Field.name).zip items).lookup name) fields record := by
  induction fields generalizing items record with
  | nil => rfl
  | cons field fields inductionHypothesis =>
    cases items with
    | nil => exact (readGiven_nothing (field :: fields) record).symm
    | cons item items =>
      obtain ⟨alone, others⟩ := List.nodup_cons.mp distinct
      have agree : readGiven (fun name => (((field :: fields).map Field.name).zip
          (item :: items)).lookup name) fields =
            readGiven (fun name => ((fields.map Field.name).zip items).lookup name) fields :=
        readGiven_congr fun other member => lookup_zip_cons_of_ne
          (fun same => alone (List.mem_map.mpr ⟨other, member, same⟩)) _ _ _
      have first : (((field :: fields).map Field.name).zip (item :: items)).lookup field.name =
          some item := List.lookup_cons_self
      rw [readGiven, first, agree]
      exact congrArg (field.read item record >>= ·) (funext (inductionHypothesis others items))

/-- The fields that a list does not come to are those that it does not give. -/
theorem wanting_iff {fields : List (Field ρ)} (distinct : (fields.map Field.name).Nodup)
    (items : List Document) :
    (fields.drop items.length).any Field.required = false ↔
      ∀ field ∈ fields, field.required = true →
        (((fields.map Field.name).zip items).lookup field.name).isSome := by
  induction fields generalizing items with
  | nil => simp
  | cons field fields inductionHypothesis =>
    cases items with
    | nil => simp
    | cons item items =>
      obtain ⟨alone, others⟩ := List.nodup_cons.mp distinct
      have first : (((field :: fields).map Field.name).zip (item :: items)).lookup field.name =
          some item := List.lookup_cons_self
      rw [List.length_cons, List.drop_succ_cons, inductionHypothesis others, List.forall_mem_cons,
        first]
      refine Iff.trans (forall₂_congr fun other member => ?_) (and_iff_right fun _ => rfl).symm
      rw [List.map_cons, lookup_zip_cons_of_ne]
      exact fun same => alone (List.mem_map.mpr ⟨other, member, same⟩)

end Lists

variable {shape : RecordShape ρ}

/-- A list is read as the values that it gives, if it gives each field that has to be there. -/
theorem readItems_eq_ok_iff (orderly : shape.Orderly) (dialect : Dialect) (items : List Document)
    (ending : Ending) (record : ρ) :
    shape.readItems dialect items ending = .ok record ↔
      (ending = .closed ∧ (dialect = .json → items.length ≤ shape.names.length)) ∧
        (∀ field ∈ shape.fields, field.required = true →
          ((shape.names.zip items).lookup field.name).isSome) ∧
        readGiven (fun name => (shape.names.zip items).lookup name) shape.fields shape.start =
          .ok record := by
  have fields := readFields_eq_readGiven orderly.distinct items shape.start
  unfold readFields at fields
  have proper_iff : (decide (ending ≠ .closed) ||
      (decide (dialect = .json) && decide (shape.fields.length < items.length)) ||
        (shape.fields.drop items.length).any Field.required) = false ↔
      (ending = .closed ∧ (dialect = .json → items.length ≤ shape.names.length)) ∧
        ∀ field ∈ shape.fields, field.required = true →
          ((shape.names.zip items).lookup field.name).isSome := by
    rw [Bool.or_eq_false_iff, wanting_iff orderly.distinct]
    simp [names]
  rw [readItems, fields, ← and_assoc, ← proper_iff, bind_eq_ok_iff]
  dsimp only
  constructor
  · rintro ⟨read, reads, ended⟩
    split at ended
    · cases ended
    · next proper =>
      cases ended
      exact ⟨(Bool.not_eq_true _).mp proper, reads⟩
  · rintro ⟨proper, reads⟩
    refine ⟨record, reads, ?_⟩
    rw [proper]
    rfl

/-- A document is read as a record exactly when it has the form of one, gives each field that has to
be there, and gives values that can be read; in which order it gives them does not matter. -/
theorem read_eq_ok_iff (orderly : shape.Orderly) (dialect : Dialect) (document : Document)
    (record : ρ) :
    shape.read dialect document = .ok record ↔
      document.IsRecord dialect shape.names ∧
        (∀ field ∈ shape.fields, field.required = true →
          (document.field? shape.names field.name).isSome) ∧
        readGiven (document.field? shape.names) shape.fields shape.start = .ok record := by
  cases document with
  | list items ending => exact readItems_eq_ok_iff orderly dialect items ending record
  | table entries ending =>
    refine (readTable_eq_ok_iff orderly entries ending record).trans ⟨?_, ?_⟩
    · rintro ⟨rfl, distinct, passable, gives⟩
      exact ⟨⟨entries, rfl, distinct, passable⟩, gives⟩
    · rintro ⟨⟨_, ⟨⟩, distinct, passable⟩, gives⟩
      exact ⟨rfl, distinct, passable, gives⟩
  | date =>
    refine (readTable_eq_ok_iff orderly [(Document.dateKey, .valueless)] .closed record).trans
      ⟨?_, ?_⟩
    · rintro ⟨_, distinct, passable, gives⟩
      exact ⟨⟨_, rfl, distinct, passable⟩, gives⟩
    · rintro ⟨⟨_, ⟨⟩, distinct, passable⟩, gives⟩
      exact ⟨rfl, distinct, passable, gives⟩
  | _ =>
    refine iff_of_false nofun ?_
    rintro ⟨⟨_, ⟨⟩, _⟩, _⟩

end RecordShape

end Gatekeeper
