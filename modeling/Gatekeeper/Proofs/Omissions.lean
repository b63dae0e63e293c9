/-
This file holds what it is to leave parts out of a document, and proves what becomes of reading it.
What may be left out of a document is put together from what may be left out of its parts, and so
is the proof that reading withstands it: what is left out of a record has no effect on its other
fields, and what is left out of a map none on its other keys.
-/
import Gatekeeper.Proofs.RecordForms
import Gatekeeper.Proofs.SortedMaps
import Mathlib.Data.List.Forall2
import Mathlib.Tactic.Common

namespace Gatekeeper

variable {α κ ν ρ : Type}

/-! ### Leaving things out -/

/-- The sections and fields that are left out, by their paths. -/
abbrev Omission := List String → Bool

/-- What is left out of the section of this name. -/
def Omission.below (omitted : Omission) (name : String) : Omission :=
  fun path => omitted (name :: path)

/-- How something can be left out of a document. -/
structure Omittable where
  /-- The second document is the first one without what is left out. -/
  reduces : Omission → Document → Document → Prop
  /-- What is left out of the document need not be there. -/
  stands : Omission → Document → Prop

namespace Omittable

/-- When something is left out of a document that can be read, what remains can be read exactly if
the document stands it, and then says what the document says without it. -/
def Withstood (omittable : Omittable) (read : Document → Except ReadError α)
    (without : Omission → α → α) : Prop :=
  ∀ ⦃omitted before after value⦄, read before = .ok value → omittable.reduces omitted before after →
    ∀ other, read after = .ok other ↔
      omittable.stands omitted before ∧ other = without omitted value

/-- There is nothing to be left out. -/
def whole : Omittable where
  reduces _ before after := after = before
  stands _ _ := True

@[simp]
theorem reduces_whole_iff (omitted : Omission) (before after : Document) :
    whole.reduces omitted before after ↔ after = before := Iff.rfl

@[simp]
theorem stands_whole (omitted : Omission) (document : Document) :
    whole.stands omitted document := trivial

theorem whole_withstood (read : Document → Except ReadError α) :
    whole.Withstood read fun _ value => value := by
  rintro omitted before _ value reads rfl other
  rw [reads, Except.ok.injEq, eq_comm]
  exact (and_iff_right trivial).symm

/-! ### Records -/

/-- A field of a record: whether it has to be there, and what can be left out of its value. -/
structure Slot where
  name : String
  required : Bool
  content : Omittable

/-- What becomes of the value of a field, if it has one. -/
def Slot.Reduces (slot : Slot) (omitted : Omission) (before after : Option Document) : Prop :=
  if omitted [slot.name] then after = none
  else Option.Rel (slot.content.reduces (omitted.below slot.name)) before after

/-- If a field stays, its value stands what is left out of it. -/
def Slot.Stands (slot : Slot) (omitted : Omission) (before : Option Document) : Prop :=
  omitted [slot.name] = false → ∀ value, before = some value →
    slot.content.stands (omitted.below slot.name) value

/-- A record gives what it gave, except for the fields that are left out. It may give them in any
order and in either form, and among any keys that are no field. -/
@[mk_iff]
structure Reduced (dialect : Dialect) (slots : List Slot) (omitted : Omission)
    (before after : Document) : Prop where
  formed : after.IsRecord dialect (slots.map Slot.name)
  given : ∀ slot ∈ slots, slot.Reduces omitted (before.field? (slots.map Slot.name) slot.name)
    (after.field? (slots.map Slot.name) slot.name)

/-- No field is left out that has to be there, nor anything that has to be there within a field. -/
def Stands (slots : List Slot) (omitted : Omission) (document : Document) : Prop :=
  ∀ slot ∈ slots, (omitted [slot.name] = true → slot.required = false) ∧
    slot.Stands omitted (document.field? (slots.map Slot.name) slot.name)

def record (dialect : Dialect) (slots : List Slot) : Omittable where
  reduces := Reduced dialect slots
  stands := Stands slots

@[simp]
theorem reduces_record_iff (dialect : Dialect) (slots : List Slot) (omitted : Omission)
    (before after : Document) :
    (record dialect slots).reduces omitted before after ↔
      after.IsRecord dialect (slots.map Slot.name) ∧ ∀ slot ∈ slots,
        if omitted [slot.name] then after.field? (slots.map Slot.name) slot.name = none
        else Option.Rel (slot.content.reduces (omitted.below slot.name))
          (before.field? (slots.map Slot.name) slot.name)
          (after.field? (slots.map Slot.name) slot.name) :=
  reduced_iff dialect slots omitted before after

@[simp]
theorem stands_record_iff (dialect : Dialect) (slots : List Slot) (omitted : Omission)
    (document : Document) :
    (record dialect slots).stands omitted document ↔ ∀ slot ∈ slots,
      (omitted [slot.name] = true → slot.required = false) ∧
        (omitted [slot.name] = false → ∀ value,
          document.field? (slots.map Slot.name) slot.name = some value →
            slot.content.stands (omitted.below slot.name) value) := Iff.rfl

/-- What leaving something out of a field does to its record. -/
structure Slot.Withstood (slot : Slot) (field : Field ρ) (without : Omission → ρ → ρ) :
    Prop where
  name : slot.name = field.name
  required : slot.required = field.required
  leaves : ∀ ⦃omitted value record result⦄, field.read value record = .ok result →
    omitted [slot.name] = true → without omitted result = without omitted record
  keeps : ∀ ⦃omitted value record result⦄, field.read value record = .ok result →
    omitted [slot.name] = false → ∀ ⦃reduced⦄,
      slot.content.reduces (omitted.below slot.name) value reduced → ∀ other,
        field.read reduced (without omitted record) = .ok other ↔
          slot.content.stands (omitted.below slot.name) value ∧ other = without omitted result

section Fields

variable {without : Omission → ρ → ρ} {omitted : Omission}
  {given reduced : String → Option Document}

/-- A field that had to be there still is exactly if it has not been left out. -/
theorem Slot.required_iff {slot : Slot} {before after : Option Document}
    (reduces : slot.Reduces omitted before after)
    (complete : slot.required = true → before.isSome) :
    (slot.required = true → after.isSome) ↔
      (omitted [slot.name] = true → slot.required = false) := by
  rw [Slot.Reduces] at reduces
  split at reduces
  · next omits =>
    rw [reduces, omits, ← Bool.not_eq_true]
    constructor
    · intro present _ required
      cases present required
    · exact fun need required => absurd required (need rfl)
  · next kept =>
    refine iff_of_true (fun required => ?_) fun omits => absurd omits kept
    have there := complete required
    cases reduces with
    | none => exact there
    | some => rfl

theorem Slot.stands_of_omitted {slot : Slot} (omits : omitted [slot.name] = true)
    (before : Option Document) : slot.Stands omitted before := by
  intro kept
  rw [omits] at kept
  cases kept

theorem Slot.stands_none (slot : Slot) (omitted : Omission) : slot.Stands omitted none := by
  rintro _ _ ⟨⟩

theorem Slot.stands_some_iff {slot : Slot} (kept : omitted [slot.name] = false)
    (value : Document) :
    slot.Stands omitted (some value) ↔ slot.content.stands (omitted.below slot.name) value := by
  constructor
  · exact fun stands => stands kept value rfl
  · rintro stands _ _ ⟨⟩
    exact stands

/-- The values that are given are read side by side with what is left of them. The induction is on
the fields; the one record is always the other without what is left out. -/
theorem readGiven_reduced {slots : List Slot} {fields : List (Field ρ)}
    (withstood : List.Forall₂ (fun slot field => slot.Withstood field without) slots fields)
    (left : ∀ slot ∈ slots, slot.Reduces omitted (given slot.name) (reduced slot.name))
    {record result : ρ} (reads : RecordShape.readGiven given fields record = .ok result)
    (other : ρ) :
    RecordShape.readGiven reduced fields (without omitted record) = .ok other ↔
      (∀ slot ∈ slots, slot.Stands omitted (given slot.name)) ∧
        other = without omitted result := by
  induction withstood generalizing record with
  | nil =>
    cases reads
    rw [RecordShape.readGiven, Except.ok.injEq, eq_comm]
    exact (and_iff_right (List.forall_mem_nil _)).symm
  | @cons slot field slots fields withstands _ inductionHypothesis =>
    obtain ⟨here, later⟩ := List.forall_mem_cons.mp left
    rw [List.forall_mem_cons, and_assoc]
    rw [RecordShape.readGiven, ← withstands.name] at reads ⊢
    rw [Slot.Reduces] at here
    generalize given slot.name = gives at reads here ⊢
    generalize reduced slot.name = remains at here ⊢
    cases omits : omitted [slot.name] with
    | true =>
      rw [if_pos omits] at here
      refine Iff.trans ?_ (and_iff_right (Slot.stands_of_omitted omits gives)).symm
      cases here
      cases gives with
      | none => exact inductionHypothesis later reads
      | some value =>
        obtain ⟨next, read, reads⟩ := bind_eq_ok_iff.mp reads
        rw [← withstands.leaves read omits]
        exact inductionHypothesis later reads
    | false =>
      rw [omits, if_neg Bool.false_ne_true] at here
      cases here with
      | none =>
        exact (inductionHypothesis later reads).trans
          (and_iff_right (slot.stands_none omitted)).symm
      | @some value remaining reduces =>
        obtain ⟨next, read, reads⟩ := bind_eq_ok_iff.mp reads
        have kept := withstands.keeps read omits reduces
        have continued := inductionHypothesis later reads
        rw [Slot.stands_some_iff omits]
        simp only [bind_eq_ok_iff, kept]
        constructor
        · rintro ⟨_, ⟨stands, rfl⟩, ended⟩
          exact ⟨stands, continued.mp ended⟩
        · rintro ⟨stands, ended⟩
          exact ⟨_, ⟨stands, rfl⟩, continued.mpr ended⟩

/-- Slots and fields are the same as far as names go, and what has to be there. -/
theorem forall_fields_iff {slots : List Slot} {fields : List (Field ρ)}
    (withstood : List.Forall₂ (fun slot field => slot.Withstood field without) slots fields)
    (holds : String → Bool → Prop) :
    (∀ field ∈ fields, holds field.name field.required) ↔
      ∀ slot ∈ slots, holds slot.name slot.required := by
  induction withstood with
  | nil => simp
  | cons withstands _ inductionHypothesis =>
    rw [List.forall_mem_cons, List.forall_mem_cons, inductionHypothesis, withstands.name,
      withstands.required]

theorem names_eq {slots : List Slot} {fields : List (Field ρ)}
    (withstood : List.Forall₂ (fun slot field => slot.Withstood field without) slots fields) :
    slots.map Slot.name = fields.map Field.name := by
  rw [← List.forall₂_eq_eq_eq, List.forall₂_map_left_iff, List.forall₂_map_right_iff]
  exact withstood.imp fun _ _ withstands => withstands.name

/-- A record withstands what its fields withstand, as long as each field that has to be there is. -/
theorem record_withstood {shape : RecordShape ρ} (orderly : shape.Orderly) (dialect : Dialect)
    {slots : List Slot}
    (withstood : List.Forall₂ (fun slot field => slot.Withstood field without) slots shape.fields)
    (unaffected : ∀ omitted, without omitted shape.start = shape.start) :
    (record dialect slots).Withstood (shape.read dialect) without := by
  intro omitted before after value reads reduces other
  have names : slots.map Slot.name = shape.names := names_eq withstood
  have complete_iff := fun document : Document => forall_fields_iff withstood fun name required =>
    required = true → (document.field? shape.names name).isSome
  obtain ⟨formed, given⟩ := reduces
  rw [names] at formed given
  rw [RecordShape.read_eq_ok_iff orderly, complete_iff] at reads ⊢
  obtain ⟨_, complete, reads⟩ := reads
  have required_iff := forall₂_congr fun slot member =>
    Slot.required_iff (given slot member) (complete slot member)
  rw [← unaffected omitted, readGiven_reduced withstood given reads, required_iff,
    and_iff_right formed, ← and_assoc, ← forall₂_and]
  dsimp only [record, Stands]
  rw [names]

theorem read_optional (name : String) {read : Document → Except ReadError α} {set : α → ρ → ρ}
    {value : Document} {record result : ρ} :
    (Field.optional name read set).read value record = .ok result ↔
      ∃ found, read value = .ok found ∧ result = set found record :=
  map_eq_ok_iff

/-- A field withstands what its value withstands, if leaving out the field and changing it have to
do with no other. -/
theorem Slot.Withstood.of_content {content : Omittable} {read : Document → Except ReadError α}
    {change : Omission → α → α} (withstood : content.Withstood read change) {name : String}
    {set : α → ρ → ρ}
    (leaves : ∀ omitted value record, omitted [name] = true →
      without omitted (set value record) = without omitted record)
    (keeps : ∀ omitted value record, omitted [name] = false →
      without omitted (set value record) =
        set (change (omitted.below name) value) (without omitted record)) (required : Bool) :
    (Slot.mk name required content).Withstood
      { Field.optional name read set with required := required } without where
  name := rfl
  required := rfl
  leaves := by
    intro omitted value record result reads omits
    obtain ⟨found, _, rfl⟩ := (read_optional name).mp reads
    exact leaves omitted found record omits
  keeps := by
    intro omitted value record result reads kept reduced reduces other
    obtain ⟨found, readsFound, rfl⟩ := (read_optional name).mp reads
    have settled := withstood readsFound reduces
    rw [keeps omitted found record kept]
    refine Iff.trans (read_optional name) ?_
    constructor
    · rintro ⟨changed, readsChanged, rfl⟩
      obtain ⟨stands, rfl⟩ := (settled changed).mp readsChanged
      exact ⟨stands, rfl⟩
    · rintro ⟨stands, rfl⟩
      exact ⟨_, (settled _).mpr ⟨stands, rfl⟩, rfl⟩

theorem Slot.Withstood.whole {name : String} {read : Document → Except ReadError α}
    {set : α → ρ → ρ}
    (leaves : ∀ omitted value record, omitted [name] = true →
      without omitted (set value record) = without omitted record)
    (keeps : ∀ omitted value record, omitted [name] = false →
      without omitted (set value record) = set value (without omitted record)) (required : Bool) :
    (Slot.mk name required .whole).Withstood
      { Field.optional name read set with required := required } without :=
  .of_content (whole_withstood read) leaves keeps required

end Fields

/-! ### Maps -/

section Maps

/-- The values of a key, in the order of their entries. -/
def values [DecidableEq κ] (key : κ) (entries : List (κ × ν)) : List ν :=
  entries.filterMap fun entry => if key == entry.1 then some entry.2 else none

/-- A map gives what it gave for each key, without what is left out of it. The keys may come in any
order. -/
def map (entry : Omittable) : Omittable where
  reduces omitted before after :=
    ∃ first second, before.entries? = some (first, .closed) ∧
      after.entries? = some (second, .closed) ∧
      ∀ key, List.Forall₂ (entry.reduces (omitted.below key)) (values key first)
        (values key second)
  stands omitted document :=
    ∀ entries ending, document.entries? = some (entries, ending) →
      ∀ pair ∈ entries, entry.stands (omitted.below pair.1) pair.2

@[simp]
theorem stands_map_iff (entry : Omittable) (omitted : Omission) (document : Document) :
    entry.map.stands omitted document ↔ ∀ entries ending,
      document.entries? = some (entries, ending) →
        ∀ pair ∈ entries, entry.stands (omitted.below pair.1) pair.2 := Iff.rfl

theorem mem_values [DecidableEq κ] {key : κ} {value : ν} {entries : List (κ × ν)} :
    value ∈ values key entries ↔ (key, value) ∈ entries := by
  rw [values, List.mem_filterMap]
  constructor
  · rintro ⟨⟨other, value⟩, member, found⟩
    split at found
    · next same =>
      cases eq_of_beq same
      cases found
      exact member
    · cases found
  · exact fun member => ⟨_, member, if_pos (beq_self_eq_true key)⟩

theorem get?_ofList_eq_getLast? [Ord κ] [Std.LawfulEqOrd κ] [Std.TransOrd κ] [DecidableEq κ]
    (key : κ) (entries : List (κ × ν)) :
    (SortedMap.ofList entries).get? key = (values key entries).getLast? := by
  rw [SortedMap.get?_ofList, List.lookup_eq_findSome?, values, List.getLast?_filterMap]

theorem exists_of_mem {related : α → ν → Prop} {items : List α} {others : List ν}
    (all : List.Forall₂ related items others) {item : α} (member : item ∈ items) :
    ∃ other ∈ others, related item other := by
  induction all with
  | nil => cases member
  | cons first _ inductionHypothesis =>
    obtain rfl | later := List.mem_cons.mp member
    · exact ⟨_, List.mem_cons_self, first⟩
    · obtain ⟨other, inside, here⟩ := inductionHypothesis later
      exact ⟨other, List.mem_cons_of_mem _ inside, here⟩

theorem exists_forall₂ {related : α → ν → Prop} {items : List α}
    (each : ∀ item ∈ items, ∃ other, related item other) :
    ∃ others, List.Forall₂ related items others := by
  induction items with
  | nil => exact ⟨[], .nil⟩
  | cons item items inductionHypothesis =>
    obtain ⟨here, later⟩ := List.forall_mem_cons.mp each
    obtain ⟨other, first⟩ := here
    obtain ⟨others, rest⟩ := inductionHypothesis later
    exact ⟨other :: others, .cons first rest⟩

theorem mapM_eq_ok_iff {ε : Type} {read : α → Except ε ν} {items : List α} {found : List ν} :
    items.mapM read = .ok found ↔
      List.Forall₂ (fun item value => read item = .ok value) items found := by
  induction items generalizing found with
  | nil =>
    rw [List.mapM_nil, List.forall₂_nil_left_iff, eq_comm]
    exact iff_of_eq (Except.ok.injEq _ _)
  | cons item items inductionHypothesis =>
    rw [List.mapM_cons, bind_eq_ok_iff, List.forall₂_cons_left_iff]
    simp only [bind_eq_ok_iff, inductionHypothesis]
    constructor
    · rintro ⟨value, reads, values, later, ⟨⟩⟩
      exact ⟨value, values, reads, later, rfl⟩
    · rintro ⟨value, values, reads, later, rfl⟩
      exact ⟨value, reads, values, later, rfl⟩

variable {readKey : String → Except ReadError κ} {readValue : Document → Except ReadError ν}

/-- What it is for the entries of a map to be read as these. -/
def EntriesRead (readKey : String → Except ReadError κ) (readValue : Document → Except ReadError ν)
    (entries : List (String × Document)) (found : List (κ × ν)) : Prop :=
  List.Forall₂ (fun entry pair => readKey entry.1 = .ok pair.1 ∧ readValue entry.2 = .ok pair.2)
    entries found

theorem readEntries_eq_ok_iff {document : Document} {found : List (κ × ν)} :
    document.readEntries readKey readValue = .ok found ↔
      ∃ entries, document.entries? = some (entries, .closed) ∧
        EntriesRead readKey readValue entries found := by
  have pair_iff : ∀ (entry : String × Document) (pair : κ × ν),
      (do return (← readKey entry.1, ← readValue entry.2)) = Except.ok (ε := ReadError) pair ↔
        readKey entry.1 = .ok pair.1 ∧ readValue entry.2 = .ok pair.2 := by
    rintro entry ⟨key, value⟩
    simp only [bind_eq_ok_iff]
    constructor
    · rintro ⟨_, readsKey, _, readsValue, ⟨⟩⟩
      exact ⟨readsKey, readsValue⟩
    · rintro ⟨readsKey, readsValue⟩
      exact ⟨key, readsKey, value, readsValue, rfl⟩
  rw [Document.readEntries]
  cases document.entries? with
  | none =>
    refine iff_of_false ?_ ?_
    · rintro ⟨⟩
    · rintro ⟨_, ⟨⟩, _⟩
  | some table =>
    obtain ⟨entries, ending⟩ := table
    dsimp only
    simp only [bind_eq_ok_iff, mapM_eq_ok_iff, pair_iff]
    constructor
    · rintro ⟨found, reads, ended⟩
      split at ended
      · next closed =>
        cases ended
        rw [closed]
        exact ⟨entries, rfl, reads⟩
      · cases ended
    · rintro ⟨_, ⟨⟩, reads⟩
      exact ⟨found, reads, rfl⟩

theorem readMap_eq_ok_iff [Ord κ] [Std.LawfulEqOrd κ] [Std.TransOrd κ] {document : Document}
    {map : SortedMap κ ν} :
    (document.readEntries readKey readValue).map SortedMap.ofList = .ok map ↔
      ∃ entries found, document.entries? = some (entries, .closed) ∧
        EntriesRead readKey readValue entries found ∧ map = SortedMap.ofList found := by
  simp only [map_eq_ok_iff, readEntries_eq_ok_iff]
  constructor
  · rintro ⟨found, ⟨entries, given, reads⟩, rfl⟩
    exact ⟨entries, found, given, reads, rfl⟩
  · rintro ⟨entries, found, given, reads, rfl⟩
    exact ⟨found, ⟨entries, given, reads⟩, rfl⟩

variable {name : κ → String} {entries : List (String × Document)} {found : List (κ × ν)}

theorem exists_key_of_mem (named : ∀ text key, readKey text = .ok key ↔ text = name key)
    (reads : EntriesRead readKey readValue entries found) {text : String} {document : Document}
    (member : (text, document) ∈ entries) : ∃ key, text = name key := by
  obtain ⟨pair, _, readsKey, _⟩ := exists_of_mem reads member
  exact ⟨pair.1, (named _ _).mp readsKey⟩

variable [DecidableEq κ]

/-- The values of a key are read from the values of its name. -/
theorem values_read (named : ∀ text key, readKey text = .ok key ↔ text = name key)
    (reads : EntriesRead readKey readValue entries found) (key : κ) :
    List.Forall₂ (fun document value => readValue document = .ok value) (values (name key) entries)
      (values key found) := by
  refine List.rel_filterMap ?_ reads
  rintro ⟨text, document⟩ ⟨other, value⟩ ⟨readsKey, readsValue⟩
  obtain rfl := (named text other).mp readsKey
  dsimp only
  by_cases same : key = other
  · rw [same, beq_self_eq_true, beq_self_eq_true]
    exact .some readsValue
  · have apart : name key ≠ name other := by
      intro sameName
      have again := (named (name other) key).mpr sameName.symm
      rw [readsKey] at again
      cases again
      exact same rfl
    rw [beq_false_of_ne apart, beq_false_of_ne same]
    exact .none

/-- Values withstand one by one. -/
theorem forall₂_withstood {entry : Omittable} {change : Omission → ν → ν}
    (withstood : entry.Withstood readValue change) {omitted : Omission}
    {before after : List Document} {values : List ν}
    (reads : List.Forall₂ (fun document value => readValue document = .ok value) before values)
    (reduces : List.Forall₂ (entry.reduces omitted) before after) (others : List ν) :
    List.Forall₂ (fun document value => readValue document = .ok value) after others ↔
      (∀ document ∈ before, entry.stands omitted document) ∧
        others = values.map (change omitted) := by
  induction reads generalizing after others with
  | nil =>
    cases reduces
    rw [List.forall₂_nil_left_iff]
    exact (and_iff_right (List.forall_mem_nil _)).symm
  | cons readsFirst _ inductionHypothesis =>
    cases reduces with
    | cons reducesFirst reducesLater =>
      rw [List.forall₂_cons_left_iff, List.forall_mem_cons]
      simp only [withstood readsFirst reducesFirst, inductionHypothesis reducesLater]
      constructor
      · rintro ⟨_, _, ⟨first, rfl⟩, ⟨later, rfl⟩, rfl⟩
        exact ⟨⟨first, later⟩, rfl⟩
      · rintro ⟨⟨first, later⟩, rfl⟩
        exact ⟨_, _, ⟨first, rfl⟩, ⟨later, rfl⟩, rfl⟩

section Rest

variable [Ord κ] [Std.LawfulEqOrd κ] [Std.TransOrd κ] {entry : Omittable}
  {change : Omission → ν → ν} {omitted : Omission} {rest : List (String × Document)}

/-- What is read from the rest of a map is the map without what is left out of it. -/
theorem ofList_rest (withstood : entry.Withstood readValue change)
    (named : ∀ text key, readKey text = .ok key ↔ text = name key)
    (reads : EntriesRead readKey readValue entries found)
    (reduces : ∀ key, List.Forall₂ (entry.reduces (omitted.below key)) (values key entries)
      (values key rest))
    {others : List (κ × ν)} (readsRest : EntriesRead readKey readValue rest others) :
    (∀ pair ∈ entries, entry.stands (omitted.below pair.1) pair.2) ∧
      SortedMap.ofList others = (SortedMap.ofList found).mapValues
        fun key => change (omitted.below (name key)) := by
  have each := fun key => (forall₂_withstood withstood (values_read named reads key)
    (reduces (name key)) _).mp (values_read named readsRest key)
  refine ⟨fun pair member => ?_, SortedMap.ext_get? fun key => ?_⟩
  · obtain ⟨key, isKey⟩ := exists_key_of_mem named reads member
    rw [isKey]
    exact (each key).1 pair.2 (mem_values.mpr (isKey ▸ member))
  · rw [get?_ofList_eq_getLast?, (each key).2, SortedMap.get?_mapValues, get?_ofList_eq_getLast?,
      List.getLast?_map]

omit [Ord κ] [Std.LawfulEqOrd κ] [Std.TransOrd κ] in
/-- The rest of a map can be read if all its values stand what is left out of them. A key of the
rest is a key of the map, because it has a value there. -/
theorem exists_entriesRead_rest (withstood : entry.Withstood readValue change)
    (named : ∀ text key, readKey text = .ok key ↔ text = name key)
    (reads : EntriesRead readKey readValue entries found)
    (reduces : ∀ key, List.Forall₂ (entry.reduces (omitted.below key)) (values key entries)
      (values key rest))
    (stands : ∀ pair ∈ entries, entry.stands (omitted.below pair.1) pair.2) :
    ∃ others, EntriesRead readKey readValue rest others := by
  refine exists_forall₂ fun item member => ?_
  have remains : item.2 ∈ values item.1 rest := mem_values.mpr member
  obtain ⟨document, was, _⟩ := exists_of_mem (reduces item.1).flip remains
  obtain ⟨key, isKey⟩ := exists_key_of_mem named reads (mem_values.mp was)
  rw [isKey] at remains
  have standing : ∀ document ∈ values (name key) entries,
      entry.stands (omitted.below (name key)) document :=
    fun document inside => stands (name key, document) (mem_values.mp inside)
  have readsValues := (forall₂_withstood withstood (values_read named reads key)
    (reduces (name key)) _).mpr ⟨standing, rfl⟩
  obtain ⟨value, _, readsValue⟩ := exists_of_mem readsValues remains
  exact ⟨(key, value), (named _ _).mpr isKey, readsValue⟩

/-- A map withstands what its values withstand. -/
theorem map_withstood (withstood : entry.Withstood readValue change)
    (named : ∀ text key, readKey text = .ok key ↔ text = name key) :
    entry.map.Withstood
      (fun document => (document.readEntries readKey readValue).map SortedMap.ofList)
      fun omitted map => map.mapValues fun key => change (omitted.below (name key)) := by
  rintro omitted before after value reads ⟨entries, rest, given, left, reduces⟩ other
  obtain ⟨_, found, again, reads, rfl⟩ := readMap_eq_ok_iff.mp reads
  cases given.symm.trans again
  constructor
  · intro readsAfter
    obtain ⟨_, others, again, readsRest, rfl⟩ := readMap_eq_ok_iff.mp readsAfter
    cases left.symm.trans again
    obtain ⟨stands, same⟩ := ofList_rest withstood named reads reduces readsRest
    refine ⟨fun entries ending again => ?_, same⟩
    cases given.symm.trans again
    exact stands
  · rintro ⟨stands, rfl⟩
    obtain ⟨others, readsRest⟩ := exists_entriesRead_rest withstood named reads reduces
      (stands entries .closed given)
    have same := (ofList_rest withstood named reads reduces readsRest).2
    exact readMap_eq_ok_iff.mpr ⟨rest, others, left, readsRest, same.symm⟩

end Rest

end Maps

end Omittable

end Gatekeeper
