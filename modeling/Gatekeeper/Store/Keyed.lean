/-
This file holds the store that everything with a key lives in: at most one value a key, in no order
that shows. `get?` is the view of a store; the lemma beside each operation says what the operation
does to that view, and one on `size` where a caller can see the count.
-/

namespace Gatekeeper

/-- A store with at most one value for each key. -/
structure KeyedStore (κ ν : Type) where
  entries : List (κ × ν)
  distinct : (entries.map Prod.fst).Nodup

namespace KeyedStore

variable {κ ν : Type}

/-! ### Looking -/

def empty : KeyedStore κ ν := ⟨[], .nil⟩

/-- How many keys have a value. -/
def size (store : KeyedStore κ ν) : Nat :=
  store.entries.length

def isEmpty (store : KeyedStore κ ν) : Bool :=
  store.entries.isEmpty

/-- Keeps the values that satisfy a test. -/
def filter (store : KeyedStore κ ν) (keep : κ → ν → Bool) : KeyedStore κ ν :=
  ⟨store.entries.filter fun entry => keep entry.1 entry.2,
    store.distinct.sublist (List.filter_sublist.map _)⟩

/-- Drops the values that satisfy a test and counts them. -/
def purge (store : KeyedStore κ ν) (dead : ν → Bool) : Nat × KeyedStore κ ν :=
  let kept := store.filter fun _ value => !dead value
  (store.size - kept.size, kept)

/-- A purge reports by how much the store shrank. -/
theorem purge_count (store : KeyedStore κ ν) (dead : ν → Bool) :
    (store.purge dead).1 + (store.purge dead).2.size = store.size :=
  Nat.sub_add_cancel (List.length_filter_le _ _)

variable [DecidableEq κ]

/-- The value of a key. -/
def get? (store : KeyedStore κ ν) (key : κ) : Option ν :=
  (store.entries.find? fun entry => entry.1 = key).map Prod.snd

def contains (store : KeyedStore κ ν) (key : κ) : Bool :=
  (store.get? key).isSome

/-! ### Changing -/

/-- Removes a key. -/
def erase (store : KeyedStore κ ν) (key : κ) : KeyedStore κ ν :=
  store.filter fun other _ => other ≠ key

theorem key_not_mem_erase (store : KeyedStore κ ν) (key : κ) :
    key ∉ (store.erase key).entries.map Prod.fst := by
  simp [erase, filter]

/-- Writes a value at a key, over the one that was there. -/
def insert (store : KeyedStore κ ν) (key : κ) (value : ν) : KeyedStore κ ν :=
  ⟨(key, value) :: (store.erase key).entries,
    List.nodup_cons.mpr ⟨store.key_not_mem_erase key, (store.erase key).distinct⟩⟩

/-- Changes the value of a key, starting from `fresh` if there is none. -/
def upsert (store : KeyedStore κ ν) (key : κ) (fresh : ν) (change : ν → ν) : ν × KeyedStore κ ν :=
  let value := change ((store.get? key).getD fresh)
  (value, store.insert key value)

/-- Takes the value of a key out. -/
def take (store : KeyedStore κ ν) (key : κ) : Option ν × KeyedStore κ ν :=
  (store.get? key, store.erase key)

/-- Takes the value of a key out if it satisfies a test. -/
def takeIf (store : KeyedStore κ ν) (key : κ) (test : ν → Bool) : Option ν × KeyedStore κ ν :=
  match store.get? key with
  | some value => if test value then store.take key else (none, store)
  | none => (none, store)

/-! ### What an operation does to the view -/

@[simp]
theorem get?_empty (key : κ) : (empty : KeyedStore κ ν).get? key = none := rfl

private theorem find?_eq_none_of_not_mem {entries : List (κ × ν)} {key : κ}
    (absent : key ∉ entries.map Prod.fst) : (entries.find? fun entry => entry.1 = key) = none := by
  rw [List.find?_eq_none]
  intro entry member same
  exact absent (List.mem_map.mpr ⟨entry, member, of_decide_eq_true same⟩)

/-- A filter shows a key exactly when the store does and the test passes its value. -/
theorem get?_filter (store : KeyedStore κ ν) (keep : κ → ν → Bool) (key : κ) :
    (store.filter keep).get? key = (store.get? key).filter (keep key) := by
  obtain ⟨entries, distinct⟩ := store
  simp only [get?, filter]
  induction entries with
  | nil => rfl
  | cons head rest inductionHypothesis =>
    have parts := List.nodup_cons.mp distinct
    by_cases atHead : head.1 = key
    · subst atHead
      have absent := find?_eq_none_of_not_mem parts.1
      cases kept : keep head.1 head.2
      · have gone := inductionHypothesis parts.2
        rw [absent] at gone
        rw [List.filter_cons_of_neg (by simp [kept]), gone]
        simp [Option.filter, kept]
      · simp [Option.filter, kept]
    · cases kept : keep head.1 head.2
      · simpa [List.filter_cons, kept, atHead] using inductionHypothesis parts.2
      · simpa [List.filter_cons, kept, atHead] using inductionHypothesis parts.2

theorem get?_erase (store : KeyedStore κ ν) (key other : κ) :
    (store.erase key).get? other = if other = key then none else store.get? other := by
  rw [erase, get?_filter]
  by_cases same : other = key
  · subst same
    cases store.get? other <;> simp
  · cases store.get? other <;> simp [same]

theorem get?_erase_self (store : KeyedStore κ ν) (key : κ) : (store.erase key).get? key = none := by
  rw [get?_erase, if_pos rfl]

theorem get?_erase_of_ne (store : KeyedStore κ ν) {key other : κ} (apart : other ≠ key) :
    (store.erase key).get? other = store.get? other := by
  rw [get?_erase, if_neg apart]

/-- Reading a key back gives what was last written there. -/
theorem get?_insert (store : KeyedStore κ ν) (key other : κ) (value : ν) :
    (store.insert key value).get? other = if other = key then some value else store.get? other := by
  by_cases same : other = key
  · subst same
    simp [get?, insert]
  · have apart : ¬ key = other := fun equal => same equal.symm
    rw [if_neg same, ← (store.get?_erase key other).trans (if_neg same)]
    simp [get?, insert, apart]

theorem get?_insert_self (store : KeyedStore κ ν) (key : κ) (value : ν) :
    (store.insert key value).get? key = some value := by
  rw [get?_insert, if_pos rfl]

theorem get?_insert_of_ne (store : KeyedStore κ ν) {key other : κ} (value : ν)
    (apart : other ≠ key) : (store.insert key value).get? other = store.get? other := by
  rw [get?_insert, if_neg apart]

/-- A new key makes a store larger by one. -/
theorem size_insert_of_absent {store : KeyedStore κ ν} {key : κ} (absent : store.get? key = none)
    (value : ν) : (store.insert key value).size = store.size + 1 := by
  have kept : (store.erase key).entries = store.entries := by
    refine List.filter_eq_self.mpr fun entry member => decide_eq_true fun same => ?_
    have missing := List.find?_eq_none.mp (Option.map_eq_none_iff.mp absent) entry member
    exact missing (decide_eq_true same)
  exact congrArg (List.length · + 1) kept

/-- A purge keeps exactly the values that are not dead. -/
theorem get?_purge (store : KeyedStore κ ν) (dead : ν → Bool) (key : κ) :
    (store.purge dead).2.get? key = (store.get? key).filter fun value => !dead value :=
  store.get?_filter _ key

end KeyedStore

end Gatekeeper
