/-
This file proves that a sorted map is what it shows: a key has a value exactly when the entry is in
the list, maps that show the same are the same, and a map that is put together from a list of
entries shows for each key the last of its values. Putting a map together from its own entries
therefore gives it back.
-/
import Gatekeeper.SortedMap

namespace Gatekeeper

variable {κ ν : Type} [Ord κ]

namespace Sorted

variable [Std.LawfulEqOrd κ]

theorem mem_of_get? {key : κ} {value : ν} {entries : List (κ × ν)}
    (found : get? key entries = some value) : (key, value) ∈ entries := by
  obtain ⟨entry, first, rfl⟩ := Option.map_eq_some_iff.mp found
  have named := List.find?_some first
  rw [Std.LawfulEqOrd.eq_of_compare (eq_of_beq named)]
  exact List.mem_of_find?_eq_some first

/-- No key comes twice, so any entry is the one that is found. -/
theorem get?_of_mem [Std.TransOrd κ] {key : κ} {value : ν} {entries : List (κ × ν)}
    (increasing : Increasing entries) (member : (key, value) ∈ entries) :
    get? key entries = some value := by
  induction entries with
  | nil => cases member
  | cons head rest inductionHypothesis =>
    obtain ⟨first, others⟩ := List.pairwise_cons.mp increasing
    rcases List.mem_cons.mp member with rfl | later
    · simp [get?]
    · have before := first _ later
      have apart : key ≠ head.1 := by
        rintro rfl
        rw [Std.ReflOrd.compare_self] at before
        cases before
      rw [get?_cons_of_ne apart]
      exact inductionHypothesis others later

theorem nodup_of_increasing [Std.TransOrd κ] {entries : List (κ × ν)}
    (increasing : Increasing entries) : entries.Nodup := by
  refine increasing.imp fun {first second} before same => ?_
  rw [same, Std.ReflOrd.compare_self] at before
  cases before

omit [Std.LawfulEqOrd κ] in
/-- Keys in increasing order have names of their own, if a name tells a key. -/
theorem nodup_names [Std.ReflOrd κ] {entries : List (κ × ν)}
    (increasing : Increasing entries) {name : κ → String}
    (tells : ∀ first second, name first = name second → first = second) :
    (entries.map fun entry => name entry.1).Nodup := by
  refine List.pairwise_map.mpr (increasing.imp fun {first second} before same => ?_)
  rw [tells _ _ same, Std.ReflOrd.compare_self] at before
  cases before

end Sorted

namespace SortedMap

variable [Std.LawfulEqOrd κ] [Std.TransOrd κ]

theorem get?_eq_some_iff (map : SortedMap κ ν) (key : κ) (value : ν) :
    map.get? key = some value ↔ (key, value) ∈ map.entries :=
  ⟨Sorted.mem_of_get?, Sorted.get?_of_mem map.increasing⟩

/-- Maps that show the same are the same. -/
theorem ext_get? {first second : SortedMap κ ν} (same : ∀ key, first.get? key = second.get? key) :
    first = second := by
  refine ext (List.Perm.eq_of_pairwise ?_ first.increasing second.increasing ?_)
  · intro earlier later _ _ forth back
    exact absurd back (Std.OrientedCmp.not_lt_of_lt forth)
  · refine (List.perm_ext_iff_of_nodup (Sorted.nodup_of_increasing first.increasing)
      (Sorted.nodup_of_increasing second.increasing)).mpr fun entry => ?_
    rw [← get?_eq_some_iff, ← get?_eq_some_iff, same]

/-- A filter shows a key exactly when the map does and the test passes its value. -/
theorem get?_filter (map : SortedMap κ ν) (keep : κ → ν → Bool) (key : κ) :
    (map.filter keep).get? key = (map.get? key).filter (keep key) := by
  refine Option.ext fun value => ?_
  rw [get?_eq_some_iff, Option.filter_eq_some_iff, get?_eq_some_iff]
  exact List.mem_filter

/-- The map with each of its values changed. -/
def mapValues {ν' : Type} (map : SortedMap κ ν) (change : κ → ν → ν') : SortedMap κ ν' where
  entries := map.entries.map fun entry => (entry.1, change entry.1 entry.2)
  increasing := by
    rw [Sorted.Increasing, List.pairwise_map]
    exact map.increasing

theorem get?_mapValues {ν' : Type} (map : SortedMap κ ν) (change : κ → ν → ν') (key : κ) :
    (map.mapValues change).get? key = (map.get? key).map (change key) := by
  refine Option.ext fun value => ?_
  rw [get?_eq_some_iff, Option.map_eq_some_iff]
  constructor
  · intro member
    obtain ⟨⟨_, before⟩, there, ⟨⟩⟩ := List.mem_map.mp member
    exact ⟨before, (map.get?_eq_some_iff _ before).mpr there, rfl⟩
  · rintro ⟨before, found, rfl⟩
    exact List.mem_map.mpr ⟨(key, before), (map.get?_eq_some_iff key before).mp found, rfl⟩

variable [DecidableEq κ]

/-- Of the values that a key is given one after another the last stays. -/
theorem get?_foldl_insert (map : SortedMap κ ν) (entries : List (κ × ν)) (key : κ) :
    (entries.foldl (fun map entry => map.insert entry.1 entry.2) map).get? key =
      (entries.reverse.lookup key).or (map.get? key) := by
  induction entries generalizing map with
  | nil => rfl
  | cons head rest inductionHypothesis =>
    rw [List.foldl_cons, inductionHypothesis, get?_insert, List.reverse_cons, List.lookup_append,
      Option.or_assoc, List.lookup_cons, List.lookup_nil]
    by_cases same : key = head.1
    · simp [same]
    · simp [same, beq_false_of_ne same]

theorem get?_ofList (entries : List (κ × ν)) (key : κ) :
    (ofList entries).get? key = entries.reverse.lookup key := by
  rw [ofList, get?_foldl_insert, get?_empty, Option.or_none]

/-- A map is put together again from its own entries. -/
theorem ofList_entries (map : SortedMap κ ν) : ofList map.entries = map := by
  refine ext_get? fun key => ?_
  rw [get?_ofList]
  cases found : map.entries.reverse.lookup key with
  | none =>
    refine (Option.eq_none_iff_forall_ne_some.mpr fun value present => ?_).symm
    have member := List.mem_reverse.mpr ((map.get?_eq_some_iff key value).mp present)
    have apart := List.lookup_eq_none_iff.mp found _ member
    simp at apart
  | some value =>
    obtain ⟨later, earlier, split, _⟩ := List.lookup_eq_some_iff.mp found
    refine ((map.get?_eq_some_iff key value).mpr (List.mem_reverse.mp ?_)).symm
    rw [split]
    exact List.mem_append_right _ List.mem_cons_self

end SortedMap

end Gatekeeper
