/-
This file holds finite maps whose entries are kept in increasing key order, each key once. Rule
tables, the fields of a request and the members of a written object are such maps: writing one out
is walking its list, and two maps with the same entries are the same.
-/
import Std.Data.TreeMap

namespace Gatekeeper

variable {κ ν : Type} [Ord κ]

/-! ### Sorted lists of entries -/

namespace Sorted

/-- Puts an entry in its place, over the entry of the same key if there is one. -/
def insert (key : κ) (value : ν) : List (κ × ν) → List (κ × ν)
  | [] => [(key, value)]
  | entry :: rest =>
    match compare key entry.1 with
    | .lt => (key, value) :: entry :: rest
    | .eq => (key, value) :: rest
    | .gt => entry :: insert key value rest

/-- The value of a key. -/
def get? (key : κ) (entries : List (κ × ν)) : Option ν :=
  (entries.find? fun entry => compare key entry.1 == .eq).map Prod.snd

/-- Each key comes before those after it. -/
def Increasing (entries : List (κ × ν)) : Prop :=
  entries.Pairwise fun first second => compare first.1 second.1 = .lt

theorem mem_insert {key : κ} {value : ν} {entries : List (κ × ν)} {entry : κ × ν}
    (member : entry ∈ insert key value entries) : entry = (key, value) ∨ entry ∈ entries := by
  induction entries with
  | nil => exact .inl (List.mem_singleton.mp member)
  | cons head rest inductionHypothesis =>
    unfold insert at member
    split at member
    · exact List.mem_cons.mp member
    · exact (List.mem_cons.mp member).imp id (List.mem_cons_of_mem _)
    · rcases List.mem_cons.mp member with rfl | later
      · exact .inr List.mem_cons_self
      · exact (inductionHypothesis later).imp id (List.mem_cons_of_mem _)

theorem get?_cons_of_ne [Std.LawfulEqOrd κ] {key : κ} {head : κ × ν} (apart : key ≠ head.1)
    (rest : List (κ × ν)) :
    get? key (head :: rest) = get? key rest := by
  simp [get?, apart]

/-- Reading a key back gives what was last written there. -/
theorem get?_insert [Std.LawfulEqOrd κ] [DecidableEq κ] (key other : κ) (value : ν)
    (entries : List (κ × ν)) :
    get? other (insert key value entries) =
      if other = key then some value else get? other entries := by
  induction entries with
  | nil => by_cases same : other = key <;> simp [insert, get?, same]
  | cons head rest inductionHypothesis =>
    unfold insert
    split
    · by_cases same : other = key
      · simp [get?, same]
      · rw [get?_cons_of_ne same, if_neg same]
    · next equal =>
      have equal := Std.LawfulEqOrd.eq_of_compare equal
      by_cases same : other = key
      · simp [get?, same]
      · rw [get?_cons_of_ne same, if_neg same, get?_cons_of_ne (equal ▸ same)]
    · next after =>
      by_cases atHead : other = head.1
      · have apart : ¬ head.1 = key := by
          intro equal
          rw [equal, Std.ReflOrd.compare_self] at after
          cases after
        simp [get?, atHead, apart]
      · rw [get?_cons_of_ne atHead, get?_cons_of_ne atHead, inductionHypothesis]

variable [Std.TransOrd κ] [Std.LawfulEqOrd κ]

theorem increasing_insert (key : κ) (value : ν) {entries : List (κ × ν)}
    (increasing : Increasing entries) : Increasing (insert key value entries) := by
  induction entries with
  | nil => exact List.pairwise_singleton _ _
  | cons head rest inductionHypothesis =>
    have parts := List.pairwise_cons.mp increasing
    unfold insert
    split
    · next before =>
      refine List.pairwise_cons.mpr ⟨fun entry member => ?_, increasing⟩
      rcases List.mem_cons.mp member with rfl | later
      · exact before
      · exact Std.TransCmp.lt_trans before (parts.1 entry later)
    · next same =>
      have equal := Std.LawfulEqOrd.eq_of_compare same
      exact List.pairwise_cons.mpr ⟨fun entry member => equal ▸ parts.1 entry member, parts.2⟩
    · next after =>
      refine List.pairwise_cons.mpr ⟨fun entry member => ?_, inductionHypothesis parts.2⟩
      rcases mem_insert member with rfl | earlier
      · exact Std.OrientedCmp.gt_iff_lt.mp after
      · exact parts.1 entry earlier

end Sorted

/-! ### Maps -/

/-- A finite map, as the list of its entries in increasing key order. -/
structure SortedMap (κ ν : Type) [Ord κ] where
  entries : List (κ × ν)
  increasing : Sorted.Increasing entries

namespace SortedMap

theorem ext {first second : SortedMap κ ν} (same : first.entries = second.entries) :
    first = second := by
  cases first
  cases second
  cases same
  rfl

/-- Maps are equal when their entries are. -/
instance [DecidableEq κ] [DecidableEq ν] : DecidableEq (SortedMap κ ν) := fun first second =>
  decidable_of_iff (first.entries = second.entries) ⟨ext, congrArg entries⟩

def empty : SortedMap κ ν := ⟨[], .nil⟩

/-- The value of a key. -/
def get? (map : SortedMap κ ν) (key : κ) : Option ν :=
  Sorted.get? key map.entries

/-- How many keys the map has. -/
def size (map : SortedMap κ ν) : Nat :=
  map.entries.length

/-- The keys, in increasing order. -/
def keys (map : SortedMap κ ν) : List κ :=
  map.entries.map Prod.fst

/-- Keeps the entries that satisfy a test. -/
def filter (map : SortedMap κ ν) (keep : κ → ν → Bool) : SortedMap κ ν :=
  ⟨map.entries.filter fun entry => keep entry.1 entry.2, map.increasing.filter _⟩

theorem get?_empty (key : κ) : (empty : SortedMap κ ν).get? key = none := rfl

variable [Std.TransOrd κ] [Std.LawfulEqOrd κ]

/-- Writes a value at a key, over the one that was there. -/
def insert (map : SortedMap κ ν) (key : κ) (value : ν) : SortedMap κ ν :=
  ⟨Sorted.insert key value map.entries, Sorted.increasing_insert key value map.increasing⟩

/-- The map of a list of entries; of two entries with one key the later wins. -/
def ofList (entries : List (κ × ν)) : SortedMap κ ν :=
  entries.foldl (fun map entry => map.insert entry.1 entry.2) empty

theorem get?_insert [DecidableEq κ] (map : SortedMap κ ν) (key other : κ) (value : ν) :
    (map.insert key value).get? other = if other = key then some value else map.get? other :=
  Sorted.get?_insert key other value map.entries

end SortedMap

end Gatekeeper
