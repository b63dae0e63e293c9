/-
This file says how values are read out of documents that give them as expected. A record in the form
of a table that gives its first fields in order reads just like the list of their values, as long as
the fields it leaves out may be left out; lists and maps read like their items one by one.
-/
import Gatekeeper.Document.Decode

namespace Gatekeeper

variable {α κ ν ρ : Type}

/-! ### Records -/

namespace RecordShape

/-- A table that gives these values for the first fields. -/
def entriesOf (fields : List (Field ρ)) (values : List Document) : List (String × Document) :=
  List.zipWith (fun field value => (field.name, value)) fields values

/-- Reads values into a record, each into its field. -/
def readFields (fields : List (Field ρ)) (values : List Document) (record : ρ) :
    Except ReadError ρ :=
  (fields.zip values).foldlM
    (fun record (given : Field ρ × Document) => given.1.read given.2 record) record

/-- Among fields with names of their own, a name leads to its field. -/
theorem find?_name {fields : List (Field ρ)} (distinct : (fields.map Field.name).Nodup)
    {field : Field ρ} (member : field ∈ fields) :
    (fields.find? fun other => other.name == field.name) = some field := by
  induction fields with
  | nil => cases member
  | cons first fields inductionHypothesis =>
    obtain ⟨absent, others⟩ := List.nodup_cons.mp distinct
    rw [List.find?_cons]
    obtain rfl | later := List.mem_cons.mp member
    · rw [beq_self_eq_true]
    · have apart : first.name ≠ field.name := by
        intro same
        exact absent (List.mem_map.mpr ⟨field, later, same.symm⟩)
      rw [beq_eq_false_iff_ne.mpr apart]
      exact inductionHypothesis others later

/-- Entries that give fields in order are read in order. The induction is on the fields still to
come; none of their names has been given. -/
theorem foldlM_readEntry (shape : RecordShape ρ) (distinct : (shape.fields.map Field.name).Nodup)
    {fields : List (Field ρ)} (listed : ∀ field ∈ fields, field ∈ shape.fields)
    {given : List String} (apart : (given ++ fields.map Field.name).Nodup) (values : List Document)
    (record : ρ) :
    (entriesOf fields values).foldlM shape.readEntry (record, given) =
      (readFields fields values record).map fun record =>
        (record, ((fields.take values.length).map Field.name).reverse ++ given) := by
  induction fields generalizing given values record with
  | nil => cases values <;> rfl
  | cons field fields inductionHypothesis =>
    cases values with
    | nil => rfl
    | cons value values =>
      have found := find?_name distinct (listed field List.mem_cons_self)
      have moved : (field.name :: given ++ fields.map Field.name).Nodup :=
        List.perm_middle.nodup_iff.mp apart
      have absent : given.contains field.name = false := by
        simpa using fun inside => (List.nodup_cons.mp moved).1 (List.mem_append_left _ inside)
      have later := fun record => inductionHypothesis
        (fun other member => listed other (List.mem_cons_of_mem _ member)) moved values record
      have step : shape.readEntry (record, given) (field.name, value) =
          (field.read value record).map fun record => (record, field.name :: given) := by
        rw [readEntry, found]
        exact if_neg (by rw [absent]; decide)
      show shape.readEntry (record, given) (field.name, value) >>=
          (entriesOf fields values).foldlM shape.readEntry =
        (field.read value record >>= readFields fields values).map _
      rw [step]
      cases field.read value record with
      | error error => rfl
      | ok record =>
        refine (later record).trans ?_
        simp only [List.length_cons, List.take_succ_cons, List.map_cons, List.reverse_cons,
          List.append_assoc, List.singleton_append]
        rfl

/-- A table that gives the first fields of a record in order reads like the list of their values. -/
theorem readTable_entriesOf (shape : RecordShape ρ)
    (distinct : (shape.fields.map Field.name).Nodup) (values : List Document)
    (optional : ∀ field ∈ shape.fields.drop values.length, field.required = false) :
    shape.readTable (entriesOf shape.fields values) .closed =
      readFields shape.fields values shape.start := by
  have entries := shape.foldlM_readEntry distinct (fun _ member => member)
    (show ([] ++ shape.fields.map Field.name).Nodup from distinct) values shape.start
  rw [readTable, entries]
  cases readFields shape.fields values shape.start with
  | error error => rfl
  | ok record =>
    have complete : (shape.fields.find? fun field => field.required &&
        !(((shape.fields.take values.length).map Field.name).reverse ++ []).contains
          field.name) = none := by
      rw [List.find?_eq_none]
      intro field member wanting
      rw [← List.take_append_drop values.length shape.fields, List.mem_append] at member
      obtain given | left := member
      · have named : field.name ∈
            ((shape.fields.take values.length).map Field.name).reverse ++ [] :=
          List.mem_append_left _ (List.mem_reverse.mpr (List.mem_map.mpr ⟨field, given, rfl⟩))
        rw [List.contains_iff_mem.mpr named, Bool.not_true, Bool.and_false] at wanting
        cases wanting
      · rw [optional field left, Bool.false_and] at wanting
        cases wanting
    simp only [Except.map, bind, Except.bind, complete, ne_eq, not_true_eq_false, if_false]
    rfl

/-- A document that gives the first fields of a record in order is read field by field. -/
theorem read_of_gives (shape : RecordShape ρ) (dialect : Dialect) {document : Document}
    {values : List Document} (gives : document = .table (entriesOf shape.fields values) .closed)
    (distinct : (shape.fields.map Field.name).Nodup)
    (optional : (shape.fields.drop values.length).all fun field => !field.required) :
    shape.read dialect document = readFields shape.fields values shape.start := by
  subst gives
  refine shape.readTable_entriesOf distinct values fun field left => ?_
  exact (Bool.not_eq_true' _).mp (List.all_eq_true.mp optional field left)

section Reading

variable {name : String} {read : Document → Except ReadError α} {set : α → ρ → ρ}
  {value : Document} {result : α}

theorem readFields_optional (reads : read value = .ok result) (fields : List (Field ρ))
    (values : List Document) (record : ρ) :
    readFields (.optional name read set :: fields) (value :: values) record =
      readFields fields values (set result record) := by
  show Except.map _ (read value) >>= readFields fields values = _
  rw [reads]
  rfl

theorem readFields_mandatory (reads : read value = .ok result) (fields : List (Field ρ))
    (values : List Document) (record : ρ) :
    readFields (.mandatory name read set :: fields) (value :: values) record =
      readFields fields values (set result record) :=
  @readFields_optional α ρ name read set value result reads fields values record

end Reading

end RecordShape

/-! ### Values -/

theorem mapM_of_read {β ε : Type} {read : β → Except ε α} {say : α → β}
    (reads : ∀ value, read (say value) = .ok value) (values : List α) :
    (values.map say).mapM read = .ok values := by
  induction values with
  | nil => rfl
  | cons value values inductionHypothesis =>
    rw [List.map_cons, List.mapM_cons, reads, inductionHypothesis]
    rfl

namespace Document

theorem readBoolean_boolean (value : Bool) : readBoolean (.boolean value) = .ok value := rfl

theorem readText_text (value : String) : readText (.text value) = .ok value := rfl

theorem readList_of_read {read : Document → Except ReadError α} {say : α → Document}
    (reads : ∀ value, read (say value) = .ok value) (values : List α) :
    readList read (.list (values.map say) .closed) = .ok values := by
  rw [readList, mapM_of_read reads]
  rfl

theorem readEntries_of_read {readKey : String → Except ReadError κ}
    {readValue : Document → Except ReadError ν} {name : κ → String} {say : ν → Document}
    (readsKey : ∀ key, readKey (name key) = .ok key)
    (readsValue : ∀ value, readValue (say value) = .ok value) (entries : List (κ × ν)) :
    readEntries readKey readValue
        (.table (entries.map fun entry => (name entry.1, say entry.2)) .closed) =
      .ok entries := by
  have reads : ∀ entry : κ × ν,
      (do return (← readKey (name entry.1), ← readValue (say entry.2))) = Except.ok entry := by
    intro entry
    rw [readsKey, readsValue]
    rfl
  rw [readEntries, entries?]
  dsimp only
  rw [mapM_of_read reads]
  rfl

theorem readOptional_of_read {read : Document → Except ReadError α} {document : Document}
    {value : α} (present : document ≠ .null) (reads : read document = .ok value) :
    readOptional read document = .ok (some value) := by
  cases document with
  | null => exact absurd rfl present
  | _ => exact congrArg (Except.map some) reads

theorem readBelow_of_lt {bound number : Nat} (below : number < bound) :
    readBelow bound (.integer number) = .ok number := by
  rw [readBelow, if_pos ⟨Int.natCast_nonneg _, Int.ofNat_lt.mpr below⟩]
  rfl

theorem readWord32_toNat (word : UInt32) : readWord32 (.integer word.toNat) = .ok word := by
  rw [readWord32, readBelow_of_lt word.toNat_lt]
  exact congrArg Except.ok (UInt32.ofNat_toNat)

theorem readWord64_toNat (word : UInt64) : readWord64 (.integer word.toNat) = .ok word := by
  rw [readWord64, readBelow_of_lt word.toNat_lt]
  exact congrArg Except.ok (UInt64.ofNat_toNat)

end Document

end Gatekeeper
