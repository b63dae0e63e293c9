/-
This file proves that texts are in the order of their bytes. They are compared character by
character, and an encoded character says by its first bytes which one it is: of two characters the
earlier one has the smaller byte at the first place where their encodings differ, and there is such
a place. So where two texts part, their bytes part in the same way.
-/
import Gatekeeper.Proofs.SameRequest
import Mathlib.Tactic.SplitIfs

namespace Gatekeeper

/-- The encoding of an earlier character comes before that of a later one, whatever follows them. -/
theorem utf8EncodeChar_append_lt {first second : Char} (before : first < second)
    (rest others : List UInt8) :
    String.utf8EncodeChar first ++ rest < String.utf8EncodeChar second ++ others := by
  have order : first.val.toNat < second.val.toNat := before
  have top : second.val.toNat < 0x110000 := by
    rcases second.valid with small | ⟨_, small⟩
    · exact Nat.lt_trans small (by decide)
    · exact small
  -- Each byte is read off by a division of its own; they are compared as divisions one by another.
  have parts (number : Nat) :
      number / 4096 = number / 64 / 64 ∧ number / 262144 = number / 64 / 64 / 64 := by
    simp only [Nat.div_div_eq_div_mul, Nat.reduceMul, and_self]
  simp only [String.utf8EncodeChar, parts]
  split_ifs <;>
    simp only [List.cons_append, List.cons_lt_cons_iff, UInt8.lt_iff_toNat_lt, ← UInt8.toNat_inj,
      UInt8.toNat_ofNat'] <;>
    omega

theorem flatMap_utf8EncodeChar_lt {first second : List Char} (before : first < second) :
    first.flatMap String.utf8EncodeChar < second.flatMap String.utf8EncodeChar := by
  induction before with
  | @nil character characters =>
    rw [List.flatMap_nil, List.flatMap_cons]
    cases encoded : String.utf8EncodeChar character with
    | nil => exact absurd encoded String.utf8EncodeChar_ne_nil
    | cons byte bytes => exact .nil
  | cons _ inductionHypothesis =>
    rw [List.flatMap_cons, List.flatMap_cons]
    exact List.append_left_lt inductionHypothesis
  | rel before =>
    rw [List.flatMap_cons, List.flatMap_cons]
    exact utf8EncodeChar_append_lt before _ _

theorem toList_toUTF8 (text : String) :
    text.toUTF8.toList = text.toList.flatMap String.utf8EncodeChar := by
  obtain ⟨characters, rfl⟩ := text.exists_eq_ofList
  rw [toList_byteArray, String.toUTF8_eq_toByteArray, String.toByteArray_ofList,
    String.toList_ofList, List.utf8Encode, List.data_toByteArray]

/-- A text comes before another one exactly when its bytes do. -/
theorem compare_eq_lt_iff_bytes_lt (first second : String) :
    compare first second = .lt ↔ first.toUTF8.toList < second.toUTF8.toList := by
  have bytes : ∀ {first second : String}, compare first second = .lt →
      first.toUTF8.toList < second.toUTF8.toList := by
    intro first second before
    have before : first < second := compareOfLessAndEq_eq_lt.mp before
    rw [toList_toUTF8, toList_toUTF8]
    exact flatMap_utf8EncodeChar_lt before
  refine ⟨bytes, fun less => ?_⟩
  cases order : compare first second with
  | lt => rfl
  | eq =>
    rw [Std.LawfulEqOrd.eq_of_compare order] at less
    exact absurd less (List.lt_irrefl _)
  | gt => exact absurd less (List.lt_asymm (bytes (Std.OrientedCmp.gt_iff_lt.mp order)))

end Gatekeeper
