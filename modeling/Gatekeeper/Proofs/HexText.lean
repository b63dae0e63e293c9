/-
This file proves that hexadecimal digits are read back as the number they were written for, in
whatever case they stand and however many zeros stand in front of them. A number therefore has one
padded text, and different numbers have different ones.
-/
import Gatekeeper.Text.Hex

namespace Gatekeeper

namespace Hex

/-! ### Single digits -/

theorem digit?_digitChar {digit : Nat} (small : digit < 16) :
    digit? digit.digitChar = some digit := by
  have each : ∀ digit : Fin 16, digit? digit.val.digitChar = some digit.val := by decide
  exact each ⟨digit, small⟩

/-- The case of a digit does not matter. -/
theorem digit?_toUpper_digitChar {digit : Nat} (small : digit < 16) :
    digit? digit.digitChar.toUpper = some digit := by
  have each : ∀ digit : Fin 16, digit? digit.val.digitChar.toUpper = some digit.val := by decide
  exact each ⟨digit, small⟩

/-! ### Digits in a row -/

theorem value?_append_singleton {digits : List Char} {number : Nat}
    (read : value? digits = some number) (digit : Char) :
    value? (digits ++ [digit]) = (digit? digit).map (16 * number + ·) := by
  rw [value?, List.foldlM_append]
  show (value? digits).bind _ = _
  rw [read]
  cases found : digit? digit <;> simp [found]

/-- Digits are read back, however each of them is written. -/
theorem value?_map_toDigits {write : Char → Char}
    (kept : ∀ digit, digit < 16 → digit? (write digit.digitChar) = some digit) (number : Nat) :
    value? ((Nat.toDigits 16 number).map write) = some number := by
  induction number using Nat.strongRecOn with
  | ind number inductionHypothesis =>
    by_cases small : number < 16
    · rw [Nat.toDigits_of_lt_base small, List.map_singleton]
      simp [value?, kept number small]
    · have large : 16 ≤ number := Nat.le_of_not_lt small
      rw [Nat.toDigits_of_base_le (by decide) large, List.map_append, List.map_singleton,
        value?_append_singleton
          (inductionHypothesis (number / 16) (Nat.div_lt_self (by omega) (by decide))),
        kept _ (Nat.mod_lt _ (by decide)), Option.map_some, Nat.div_add_mod]

theorem value?_zero_cons (digits : List Char) : value? ('0' :: digits) = value? digits := rfl

/-- Zeros in front do not count. -/
theorem value?_zeros_append (zeros : Nat) (digits : List Char) :
    value? (List.replicate zeros '0' ++ digits) = value? digits := by
  induction zeros with
  | zero => rfl
  | succ zeros inductionHypothesis =>
    rw [List.replicate_succ, List.cons_append, value?_zero_cons, inductionHypothesis]

theorem exists_of_mem_toDigits {number : Nat} {digit : Char}
    (member : digit ∈ Nat.toDigits 16 number) : ∃ small < 16, digit = small.digitChar := by
  induction number using Nat.strongRecOn with
  | ind number inductionHypothesis =>
    by_cases small : number < 16
    · rw [Nat.toDigits_of_lt_base small, List.mem_singleton] at member
      exact ⟨number, small, member⟩
    · have large : 16 ≤ number := Nat.le_of_not_lt small
      rw [Nat.toDigits_of_base_le (by decide) large, List.mem_append, List.mem_singleton] at member
      obtain earlier | last := member
      · exact inductionHypothesis _ (Nat.div_lt_self (by omega) (by decide)) earlier
      · exact ⟨_, Nat.mod_lt _ (by decide), last⟩

/-! ### Padded numbers -/

theorem exists_of_mem_padded {width number : Nat} {digit : Char}
    (member : digit ∈ padded width number) : ∃ small < 16, digit = small.digitChar := by
  rw [padded, List.mem_append] at member
  obtain filled | written := member
  · exact ⟨0, by decide, List.eq_of_mem_replicate filled⟩
  · exact exists_of_mem_toDigits written

theorem value?_padded (width number : Nat) : value? (padded width number) = some number := by
  have read := @value?_map_toDigits id (fun _ small => digit?_digitChar small) number
  rw [List.map_id] at read
  exact (value?_zeros_append _ _).trans read

theorem value?_map_toUpper_padded (width number : Nat) :
    value? ((padded width number).map Char.toUpper) = some number := by
  show value? ((List.replicate _ '0' ++ _).map Char.toUpper) = _
  rw [List.map_append, List.map_replicate]
  exact (value?_zeros_append _ _).trans
    (value?_map_toDigits (fun _ small => digit?_toUpper_digitChar small) number)

/-- Different numbers have different texts, even where one is longer than the other. -/
theorem padded_injective (width : Nat) {first second : Nat}
    (same : padded width first = padded width second) : first = second := by
  have read := value?_padded width first
  rw [same, value?_padded] at read
  exact (Option.some.inj read).symm

/-- A number that fits the width fills it exactly. -/
theorem length_padded {width number : Nat} (positive : 0 < width)
    (fits : number < Nat.pow 16 width) : (padded width number).length = width := by
  have short := (Nat.length_toDigits_le_iff (by decide) positive).mpr fits
  show (List.replicate _ '0' ++ _).length = _
  rw [List.length_append, List.length_replicate]
  omega

end Hex

end Gatekeeper
