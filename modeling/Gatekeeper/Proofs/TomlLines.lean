/-
This file proves that the lines of a written text are read back one by one: each plain value, each
key with its value, and each header. A line is read up to the line break that ends it, so nothing
has to be known of the text that follows.
-/
import Gatekeeper.Proofs.TomlStrings
import Gatekeeper.Toml.Text

namespace Gatekeeper

namespace Toml

/-! ### Texts -/

section Texts

variable {text : List Char}

theorem quoted_eq (text : List Char) :
    quoted text =
      match quotingOf text with
      | .basic => '"' :: escapeAll false 0 text ++ ['"']
      | .literal => '\'' :: text ++ ['\'']
      | .basicLines => '"' :: '"' :: '"' :: opening text ++ escapeAll true 0 text ++ ['"', '"', '"']
      | .literalLines => '\'' :: '\'' :: '\'' :: opening text ++ text ++ ['\'', '\'', '\''] := rfl

/-- A string on one line is not taken for one of several lines. -/
theorem not_three_quotes {quote : Char} {content rest : List Char}
    (noQuote : content.head? ≠ some quote) (ended : rest.head? ≠ some quote) (later : List Char)
    (same : content ++ quote :: rest = quote :: quote :: later) : False := by
  cases content with
  | nil =>
    obtain ⟨_, same⟩ := List.cons.inj same
    exact ended (congrArg List.head? same)
  | cons first content => exact noQuote (congrArg some (List.cons.inj same).1)

/-- A text is read back in whichever form it is written, if no quote follows it. -/
theorem value?_quoted (text : String) (fuel depth : Nat) {rest : List Char}
    (noBasic : rest.head? ≠ some '"') (noLiteral : rest.head? ≠ some '\'') :
    value? (fuel + 1) depth (quoted text.toList ++ rest) = some (.text text, rest) := by
  rw [quoted_eq]
  cases chosen : quotingOf text.toList with
  | basic =>
    have noQuote := (rawContent_escapeAll false 0 text.toList).head?_ne (by decide)
    simp only [List.cons_append, List.append_assoc, List.nil_append]
    rw [value?, lineString?_escapeAll, Option.map_some, String.ofList_toList]
    exact not_three_quotes noQuote noBasic
  | literal =>
    obtain ⟨plain, free⟩ := quotingOf_eq_literal chosen
    have noQuote := (rawContent_of_longestRun (Nat.le_of_eq free)).head?_ne (by decide)
    simp only [List.cons_append, List.append_assoc, List.nil_append]
    rw [value?, lineString?_literal plain free, Option.map_some, String.ofList_toList]
    exact not_three_quotes noQuote noLiteral
  | basicLines =>
    simp only [List.cons_append, List.append_assoc, List.nil_append]
    rw [value?, linesString?_escapeAll _ noBasic, Option.map_some, String.ofList_toList]
  | literalLines =>
    obtain ⟨plain, few⟩ := quotingOf_eq_literalLines chosen
    simp only [List.cons_append, List.append_assoc, List.nil_append]
    rw [value?, linesString?_literal plain few noLiteral, Option.map_some, String.ofList_toList]

theorem quoted_head (text : List Char) :
    ∃ first later, quoted text = first :: later ∧ (first = '"' ∨ first = '\'') := by
  rw [quoted_eq]
  cases quotingOf text with
  | basic => exact ⟨_, _, rfl, .inl rfl⟩
  | literal => exact ⟨_, _, rfl, .inr rfl⟩
  | basicLines => exact ⟨_, _, rfl, .inl rfl⟩
  | literalLines => exact ⟨_, _, rfl, .inr rfl⟩

end Texts

/-! ### Integers -/

section Integers

variable {digits : List Char}

theorem laterDigits_append (isDigits : ∀ digit ∈ digits, digit.isDigit = true) (rest : List Char) :
    laterDigits Char.isDigit (digits ++ '\n' :: rest) = (digits, '\n' :: rest) := by
  induction digits with
  | nil =>
    rw [List.nil_append, laterDigits]
    · rfl
    · nofun
  | cons digit digits inductionHypothesis =>
    have isDigit := isDigits digit List.mem_cons_self
    rw [List.cons_append, laterDigits]
    · rw [if_pos isDigit,
        inductionHypothesis fun other member => isDigits other (List.mem_cons_of_mem _ member)]
    · rintro _ _ rfl _
      exact absurd isDigit (by decide)

/-- A number that is not zero is written without a zero in front. -/
theorem toDigits_head?_ne {number : Nat} (positive : 0 < number) :
    (Nat.toDigits 10 number).head? ≠ some '0' := by
  induction number using Nat.strongRecOn with
  | ind number inductionHypothesis =>
    by_cases small : number < 10
    · have each : ∀ digit : Fin 10, 0 < digit.val → digit.val.digitChar ≠ '0' := by decide
      rw [Nat.toDigits_of_lt_base small]
      exact fun same => each ⟨number, small⟩ positive (Option.some.inj same)
    · have large : 10 ≤ number := Nat.le_of_not_lt small
      have head := inductionHypothesis (number / 10) (Nat.div_lt_self positive (by decide))
        (Nat.div_pos large (by decide))
      rw [Nat.toDigits_of_base_le (by decide) large, List.head?_append]
      obtain ⟨first, later, written⟩ := List.exists_cons_of_ne_nil
        (Nat.toDigits_ne_nil : Nat.toDigits 10 (number / 10) ≠ [])
      rw [written] at head ⊢
      exact head

theorem wholeDigits?_toDigits (number : Nat) (rest : List Char) :
    wholeDigits? (Nat.toDigits 10 number ++ '\n' :: rest) =
      some (Nat.toDigits 10 number, '\n' :: rest) := by
  obtain rfl | positive := Nat.eq_zero_or_pos number
  · rfl
  · have isDigits : ∀ digit ∈ Nat.toDigits 10 number, digit.isDigit = true :=
      fun _ member => Nat.isDigit_of_mem_toDigits (by decide) (by decide) member
    have head := toDigits_head?_ne positive
    obtain ⟨first, later, written⟩ := List.exists_cons_of_ne_nil
      (Nat.toDigits_ne_nil : Nat.toDigits 10 number ≠ [])
    rw [written] at isDigits head ⊢
    rw [wholeDigits?]
    · rw [List.cons_append, digits?, if_pos (isDigits first List.mem_cons_self),
        laterDigits_append fun digit member => isDigits digit (List.mem_cons_of_mem _ member)]
    · rintro _ same
      exact head (congrArg some (List.cons.inj same).1)

/-- No more digits can be read than there are. -/
theorem le_length_of_filled {width : Nat} {rest : List Char}
    (filled : (((digits ++ '\n' :: rest).take width).takeWhile Char.isDigit).length = width) :
    width ≤ digits.length := by
  induction digits generalizing width with
  | nil =>
    cases width with
    | zero => exact Nat.le_refl 0
    | succ width => cases filled
  | cons digit digits inductionHypothesis =>
    cases width with
    | zero => exact Nat.zero_le _
    | succ width =>
      rw [List.cons_append, List.take_succ_cons, List.takeWhile_cons] at filled
      split at filled
      · exact Nat.succ_le_succ (inductionHypothesis (Nat.succ.inj filled))
      · cases filled

/-- Behind a number of fixed width within digits, and behind all of them, there is no mark. -/
theorem mark?_of_fixed? (isDigits : ∀ digit ∈ digits, digit.isDigit = true)
    {width low high value : Nat} {rest left : List Char}
    (read : fixed? width low high (digits ++ '\n' :: rest) = some (value, left)) {mark : Char}
    (noDigit : mark.isDigit = false) (noBreak : mark ≠ '\n') : mark? mark left = none := by
  unfold fixed? at read
  dsimp only at read
  split at read
  · next fits =>
    obtain ⟨_, rfl⟩ := Prod.mk.inj (Option.some.inj read)
    rw [List.drop_append_of_le_length (le_length_of_filled fits.1)]
    cases dropped : digits.drop width with
    | nil => exact if_neg noBreak.symm
    | cons digit later =>
      have isDigit := isDigits digit (List.mem_of_mem_drop (dropped ▸ List.mem_cons_self))
      refine if_neg fun same => ?_
      rw [same, noDigit] at isDigit
      cases isDigit
  · cases read

/-- Digits alone are no date and no time. -/
theorem moment?_eq_none (isDigits : ∀ digit ∈ digits, digit.isDigit = true) (rest : List Char) :
    moment? (digits ++ '\n' :: rest) = none := by
  have noDate : date? (digits ++ '\n' :: rest) = none := by
    unfold date?
    cases read : fixed? 4 0 9999 (digits ++ '\n' :: rest) with
    | none => rfl
    | some given =>
      have unmarked : mark? '-' given.2 = none :=
        mark?_of_fixed? isDigits read (by decide) (by decide)
      simp [unmarked]
  have noTime : time? (digits ++ '\n' :: rest) = none := by
    unfold time?
    cases read : fixed? 2 0 23 (digits ++ '\n' :: rest) with
    | none => rfl
    | some given =>
      have unmarked : mark? ':' given.2 = none :=
        mark?_of_fixed? isDigits read (by decide) (by decide)
      simp [unmarked]
  rw [moment?, dated?, noDate, noTime]
  rfl

theorem integer?_of_lt {number : Nat} (fits : number < 0x8000000000000000) :
    integer? (number : Int) = some (.integer number) := by
  have inRange : (-0x8000000000000000 : Int) ≤ number ∧ (number : Int) < 0x8000000000000000 := by
    omega
  rw [integer?, if_pos inRange]

theorem bind_of_eq_some {α β : Type} {found : Option α} {value : α} (same : found = some value)
    (next : α → Option β) : (found >>= next) = next value := by
  rw [same]
  rfl

/-- A whole number without anything behind it that goes on with it is an integer. -/
theorem decimal?_of_whole {text whole rest : List Char}
    (read : wholeDigits? text = some (whole, rest))
    (noFraction : fraction? rest = some (none, rest))
    (noExponent : exponent? rest = some (none, rest)) :
    decimal? false text =
      integer? (Nat.ofDigitChars 10 whole 0 : Nat) >>= fun document => pure (document, rest) := by
  rw [decimal?]
  -- Nothing may be computed here, since comparing the number with its bound would not end.
  refine (bind_of_eq_some read _).trans ?_
  refine (bind_of_eq_some noFraction _).trans ?_
  exact (bind_of_eq_some noExponent _).trans rfl

theorem exponent?_newline (rest : List Char) :
    exponent? ('\n' :: rest) = some (none, '\n' :: rest) := by
  unfold exponent?
  exact if_neg (by decide)

/-- Digits, and the line break behind them, start with no other character. -/
theorem not_cons_of_isDigits (isDigits : ∀ digit ∈ digits, digit.isDigit = true)
    {other : Char} (noDigit : other.isDigit = false) (noBreak : other ≠ '\n')
    {rest later : List Char} (same : digits ++ '\n' :: rest = other :: later) : False := by
  cases digits with
  | nil => exact noBreak (List.cons.inj same).1.symm
  | cons digit digits =>
    have isDigit := isDigits digit List.mem_cons_self
    rw [(List.cons.inj same).1, noDigit] at isDigit
    cases isDigit

/-- An integer that fits is read back up to the end of its line. -/
theorem value?_toDigits {number : Nat} (fits : number < 0x8000000000000000) (fuel depth : Nat)
    (rest : List Char) :
    value? (fuel + 1) depth (Nat.toDigits 10 number ++ '\n' :: rest) =
      some (.integer number, '\n' :: rest) := by
  have isDigits : ∀ digit ∈ Nat.toDigits 10 number, digit.isDigit = true :=
    fun _ member => Nat.isDigit_of_mem_toDigits (by decide) (by decide) member
  have noMoment := moment?_eq_none isDigits rest
  have decimal : decimal? false (Nat.toDigits 10 number ++ '\n' :: rest) =
      some (.integer number, '\n' :: rest) := by
    rw [decimal?_of_whole (wholeDigits?_toDigits number rest) rfl (exponent?_newline rest),
      Nat.ofDigitChars_ten_toDigits]
    exact bind_of_eq_some (integer?_of_lt fits) _
  obtain ⟨first, later, written⟩ := List.exists_cons_of_ne_nil
    (Nat.toDigits_ne_nil : Nat.toDigits 10 number ≠ [])
  rw [written] at isDigits
  rw [written, List.cons_append] at noMoment decimal ⊢
  -- The text starts with a digit, and behind a digit there are digits only: none of the other forms
  -- of a value starts so.
  have atStart : ∀ {other : Char} {tail : List Char}, other.isDigit = false → other ≠ '\n' →
      first :: (later ++ '\n' :: rest) = other :: tail → False :=
    fun noDigit noBreak same => not_cons_of_isDigits isDigits noDigit noBreak same
  have behindStart : ∀ {zero other : Char} {tail : List Char}, other.isDigit = false →
      other ≠ '\n' → first :: (later ++ '\n' :: rest) = zero :: other :: tail → False :=
    fun noDigit noBreak same => not_cons_of_isDigits
      (fun digit member => isDigits digit (List.mem_cons_of_mem _ member)) noDigit noBreak
      (List.cons.inj same).2
  rw [value?, noMoment]
  · dsimp only
    rw [number?, signed?, decimal]
    · exact fun _ => atStart (by decide) (by decide)
    · exact fun _ => atStart (by decide) (by decide)
    · exact fun _ => behindStart (by decide) (by decide)
    · exact fun _ => behindStart (by decide) (by decide)
    · exact fun _ => behindStart (by decide) (by decide)
    · exact fun _ => atStart (by decide) (by decide)
    · exact fun _ => atStart (by decide) (by decide)
  all_goals exact fun _ => atStart (by decide) (by decide)

end Integers

/-! ### Plain values -/

namespace Scalar

/-- What a plain value says. -/
def document : Scalar → Document
  | boolean value => .boolean value
  | integer value => .integer value
  | text value => .text value
  | texts items => .list (items.map .text) .closed

end Scalar

/-- An item of an array that has a line of its own. -/
def itemLine (item : String) : List Char :=
  "    ".toList ++ quoted item.toList ++ [',', '\n']

/-- The spaces in front of an item are passed over. -/
theorem gap?_item (item : String) (rest : List Char) :
    gap? false ('\n' :: ("    ".toList ++ quoted item.toList ++ rest)) =
      some (quoted item.toList ++ rest) := by
  obtain ⟨first, later, written, rfl | rfl⟩ := quoted_head item.toList
  · rw [written]
    rfl
  · rw [written]
    rfl

theorem gap?_quoted (text rest : List Char) :
    gap? false (quoted text ++ rest) = some (quoted text ++ rest) := by
  obtain ⟨first, later, written, rfl | rfl⟩ := quoted_head text
  · rw [written]
    rfl
  · rw [written]
    rfl

/-- An item, and then the rest of its array, are read back. -/
theorem items?_cons {fuel depth : Nat} {text rest : List Char} {item : String}
    (gap : gap? false text = some (quoted item.toList ++ rest))
    (noBasic : rest.head? ≠ some '"') (noLiteral : rest.head? ≠ some '\'') :
    items? (fuel + 2) depth text =
      match gap? false rest with
      | some (']' :: rest) => some ([.text item], rest)
      | some (',' :: rest) =>
        (items? (fuel + 1) depth rest).map fun items => (.text item :: items.1, items.2)
      | _ => none := by
  rw [items?, gap]
  split
  · next same => cases same
  · next same =>
    obtain ⟨first, later, written, rfl | rfl⟩ := quoted_head item.toList
    · rw [written] at same
      cases same
    · rw [written] at same
      cases same
  · next same =>
    cases same
    exact value?_quoted item fuel depth noBasic noLiteral ▸ rfl

/-- Items with a line each are read back up to the closing bracket. The induction is on the items;
every one of them takes a call. -/
theorem items?_itemLines (items : List String) {fuel depth : Nat} (enough : items.length + 1 < fuel)
    (rest : List Char) :
    items? fuel depth ('\n' :: (items.flatMap itemLine ++ ']' :: rest)) =
      some (items.map .text, rest) := by
  induction items generalizing fuel with
  | nil =>
    obtain ⟨fuel, rfl⟩ : ∃ left, fuel = left + 1 := ⟨fuel - 1, by simp at enough; omega⟩
    rw [items?]
    rfl
  | cons item items inductionHypothesis =>
    obtain ⟨fuel, rfl⟩ : ∃ left, fuel = left + 1 + 1 := ⟨fuel - 2, by simp at enough; omega⟩
    have later := @inductionHypothesis (fuel + 1) (by simp at enough; omega)
    have written : (item :: items).flatMap itemLine ++ ']' :: rest =
        "    ".toList ++ quoted item.toList ++
          (',' :: '\n' :: (items.flatMap itemLine ++ ']' :: rest)) := by
      simp [itemLine]
    rw [written, items?_cons (gap?_item item _) (by simp) (by simp)]
    exact congrArg (Option.map fun read => (.text item :: read.1, read.2)) later

/-- How many calls reading a value takes, one more than its items. -/
def Scalar.size : Scalar → Nat
  | .boolean _ => 0
  | .integer _ => 0
  | .text _ => 0
  | .texts items => items.length + 2

/-- A plain value that can be written is read back up to the end of its line. -/
theorem value?_characters {scalar : Scalar} (writable : scalar.isWritable = true)
    {fuel depth : Nat} (enough : scalar.size < fuel) (rest : List Char) :
    value? fuel (depth + 1) (scalar.characters ++ '\n' :: rest) =
      some (scalar.document, '\n' :: rest) := by
  obtain ⟨fuel, rfl⟩ : ∃ left, fuel = left + 1 := ⟨fuel - 1, by omega⟩
  unfold Scalar.size at enough
  cases scalar with
  | boolean value => cases value <;> rw [Scalar.characters] <;> rfl
  | integer value => exact value?_toDigits (of_decide_eq_true writable) fuel (depth + 1) rest
  | text value => exact value?_quoted value fuel (depth + 1) (by simp) (by simp)
  | texts items =>
    have opened : ∀ text, items? fuel depth text = some (items.map .text, '\n' :: rest) →
        value? (fuel + 1) (depth + 1) ('[' :: text) =
          some ((Scalar.texts items).document, '\n' :: rest) := by
      intro text read
      rw [value?, read]
      rfl
    dsimp only at enough
    obtain ⟨fuel, rfl⟩ : ∃ left, fuel = left + 2 := ⟨fuel - 2, by omega⟩
    match items with
    | [] =>
      refine opened (']' :: '\n' :: rest) ?_
      rw [items?]
      rfl
    | [item] =>
      have read : items? (fuel + 2) depth (quoted item.toList ++ ']' :: '\n' :: rest) =
          some ([.text item], '\n' :: rest) := by
        rw [items?_cons (gap?_quoted item.toList _) (by simp) (by simp)]
        rfl
      have written : (Scalar.texts [item]).characters ++ '\n' :: rest =
          '[' :: (quoted item.toList ++ ']' :: '\n' :: rest) := by
        simp [Scalar.characters]
      rw [written]
      exact opened _ read
    | first :: second :: items =>
      have read := @items?_itemLines (first :: second :: items) (fuel + 2) depth
        (by simp at enough ⊢; omega) ('\n' :: rest)
      have written : (Scalar.texts (first :: second :: items)).characters =
          '[' :: '\n' :: ((first :: second :: items).flatMap itemLine ++ [']']) := rfl
      rw [written, List.cons_append, List.cons_append, List.append_assoc]
      exact opened _ read

/-! ### Lines -/

theorem skipSpaces_quoted (text rest : List Char) :
    skipSpaces (quoted text ++ rest) = quoted text ++ rest := by
  obtain ⟨first, later, written, rfl | rfl⟩ := quoted_head text
  · rw [written]
    rfl
  · rw [written]
    rfl

/-- A plain value does not start with a space. -/
theorem skipSpaces_characters (scalar : Scalar) (rest : List Char) :
    skipSpaces (scalar.characters ++ rest) = scalar.characters ++ rest := by
  cases scalar with
  | boolean value => cases value <;> rw [Scalar.characters] <;> rfl
  | integer value =>
    obtain ⟨first, later, written⟩ := List.exists_cons_of_ne_nil
      (Nat.toDigits_ne_nil : Nat.toDigits 10 value ≠ [])
    have isDigit : first.isDigit = true := Nat.isDigit_of_mem_toDigits (by decide) (by decide)
      (written ▸ List.mem_cons_self : first ∈ Nat.toDigits 10 value)
    have noSpace : isSpace first = false := isSpace_of_startsKey (by
      simp [startsKey, isBare, Char.isAlphanum, isDigit])
    rw [Scalar.characters, written]
    exact skipSpaces_cons noSpace _
  | text value => exact skipSpaces_quoted value.toList rest
  | texts items => obtain _ | ⟨first, _ | ⟨second, items⟩⟩ := items <;> rfl

theorem length_flatMap_itemLine (items : List String) :
    items.length ≤ (items.flatMap itemLine).length := by
  induction items with
  | nil => exact Nat.le_refl 0
  | cons item items inductionHypothesis =>
    have line : 0 < (itemLine item).length := by simp [itemLine]
    rw [List.flatMap_cons, List.length_append, List.length_cons]
    omega

/-- A value is written with as many characters as reading it takes calls. -/
theorem size_le_length (scalar : Scalar) : scalar.size ≤ scalar.characters.length := by
  cases scalar with
  | boolean value => exact Nat.zero_le _
  | integer value => exact Nat.zero_le _
  | text value => exact Nat.zero_le _
  | texts items =>
    match items with
    | [] => exact Nat.le_refl 2
    | [item] =>
      obtain ⟨first, later, written, _⟩ := quoted_head item.toList
      simp [Scalar.size, Scalar.characters, written]
    | first :: second :: items =>
      have written : (Scalar.texts (first :: second :: items)).characters =
          '[' :: '\n' :: ((first :: second :: items).flatMap itemLine ++ [']']) := rfl
      have long := length_flatMap_itemLine (first :: second :: items)
      rw [written, Scalar.size]
      simp only [List.length_cons, List.length_append] at long ⊢
      omega

/-- A key with its value is read back. -/
theorem pairLine?_pairText {pair : String × Scalar} (writable : pair.2.isWritable = true)
    {fuel : Nat} (enough : pair.2.size < fuel) (rest : List Char) :
    pairLine? fuel (Outline.pairText pair ++ rest) =
      some (.pair [pair.1] pair.2.document, rest) := by
  have key := @path?_pathText [pair.1] (List.cons_ne_nil _ _) longestPath (by simp [longestPath])
    (" = ".toList ++ (pair.2.characters ++ '\n' :: rest)) rfl
    (show some '=' ≠ some '.' by decide)
  rw [pathText_singleton] at key
  have written : Outline.pairText pair ++ rest =
      keyText pair.1 ++ (" = ".toList ++ (pair.2.characters ++ '\n' :: rest)) := by
    simp [Outline.pairText]
  have spaces : skipSpaces (" = ".toList ++ (pair.2.characters ++ '\n' :: rest)) =
      '=' :: ' ' :: (pair.2.characters ++ '\n' :: rest) := rfl
  have value : value? fuel deepest (skipSpaces (' ' :: (pair.2.characters ++ '\n' :: rest))) =
      some (pair.2.document, '\n' :: rest) := by
    have skipped : skipSpaces (' ' :: (pair.2.characters ++ '\n' :: rest)) =
        pair.2.characters ++ '\n' :: rest := skipSpaces_characters pair.2 _
    rw [skipped]
    exact value?_characters writable enough rest
  rw [written, pairLine?, key, spaces]
  simp only [value]
  rfl

/-- A header is read back, from behind its opening bracket. -/
theorem headerLine?_pathText {path : List String} (notEmpty : path ≠ [])
    (shallow : path.length ≤ longestPath) (rest : List Char) :
    headerLine? false (pathText path ++ ']' :: '\n' :: rest) = some (.table path, rest) := by
  have key := @path?_pathText path notEmpty longestPath shallow (']' :: '\n' :: rest) rfl
    (show some ']' ≠ some '.' by decide)
  rw [headerLine?, key]
  rfl

/-- The text from some point on says just these lines. -/
def Says (text : List Char) (said : List Line) : Prop :=
  ∀ fuel, text.length < fuel → lines? fuel text = some said

namespace Says

theorem nil : Says [] [] := by
  intro fuel _
  rw [lines?]
  rfl

variable {rest : List Char} {later : List Line}

/-- A line with text is read by what stands at its start. -/
theorem lines?_cons {first : Char} (noSpace : isSpace first = false) (noBracket : first ≠ '[')
    (noComment : first ≠ '#') (text : List Char) (fuel : Nat) :
    lines? (fuel + 1) (first :: text) =
      match newline? (first :: text) with
      | some rest => lines? fuel rest
      | none =>
        match pairLine? (2 * (first :: text).length + 2) (first :: text) with
        | some (line, rest) => (lines? fuel rest).map (line :: ·)
        | none => none := by
  rw [lines?.eq_def, skipSpaces_cons noSpace text]
  split
  · next same => cases same
  · next same _ => cases same
  · next same => exact absurd (List.cons.inj same).1 noBracket
  · next same => exact absurd (List.cons.inj same).1 noBracket
  · next same _ _ _ =>
    cases same
    exact if_neg fun same => noComment (Option.some.inj same)

/-- An empty line says nothing. -/
theorem newline (reads : Says rest later) : Says ('\n' :: rest) later := by
  intro fuel enough
  obtain ⟨fuel, rfl⟩ : ∃ left, fuel = left + 1 := ⟨fuel - 1, by omega⟩
  rw [lines?_cons (by decide) (by decide) (by decide)]
  exact reads fuel (Nat.lt_of_succ_lt_succ enough)

theorem pair (reads : Says rest later) {pair : String × Scalar}
    (writable : pair.2.isWritable = true) :
    Says (Outline.pairText pair ++ rest) (.pair [pair.1] pair.2.document :: later) := by
  intro fuel enough
  obtain ⟨fuel, rfl⟩ : ∃ left, fuel = left + 1 := ⟨fuel - 1, by omega⟩
  have size := size_le_length pair.2
  have long : pair.2.characters.length + rest.length < (Outline.pairText pair ++ rest).length := by
    simp [Outline.pairText]
    omega
  have read := @pairLine?_pairText pair writable (2 * (Outline.pairText pair ++ rest).length + 2)
    (by omega) rest
  have left := reads fuel (by omega)
  obtain ⟨first, tail, written, starts⟩ := keyText_head pair.1
  obtain ⟨tail, same⟩ : ∃ tail, Outline.pairText pair ++ rest = first :: tail := by
    rw [Outline.pairText, written]
    exact ⟨_, rfl⟩
  rw [same] at read ⊢
  rw [lines?_cons (isSpace_of_startsKey starts) (ne_of_startsKey starts (by decide))
    (ne_of_startsKey starts (by decide)), newline?_cons_of_ne (ne_of_startsKey starts (by decide))
    (ne_of_startsKey starts (by decide)), read]
  dsimp only
  rw [left]
  rfl

/-- A header says which table follows. The empty line in front of it is passed over. -/
theorem header (reads : Says rest later) {path : List String} (notEmpty : path ≠ [])
    (shallow : path.length ≤ longestPath) :
    Says (Outline.headerText path ++ rest) (.table path :: later) := by
  have written : Outline.headerText path ++ rest =
      '\n' :: '[' :: (pathText path ++ ']' :: '\n' :: rest) := by
    simp [Outline.headerText]
  rw [written]
  refine newline fun fuel enough => ?_
  obtain ⟨fuel, rfl⟩ : ∃ left, fuel = left + 1 := ⟨fuel - 1, by omega⟩
  have read := headerLine?_pathText notEmpty shallow rest
  have left := reads fuel (by simp at enough; omega)
  obtain ⟨first, tail, same, starts⟩ := pathText_head notEmpty
  rw [lines?.eq_def, skipSpaces_cons (by decide)]
  split
  · next same => cases same
  · next same _ => cases same
  · next same' =>
    rw [same] at same'
    exact absurd (List.cons.inj (List.cons.inj same').2).1 (ne_of_startsKey starts (by decide))
  · next sameFuel same' =>
    cases sameFuel
    cases same'
    rw [read]
    dsimp only
    rw [left]
    rfl
  · next noBracket => exact absurd rfl (noBracket _)

end Says

end Toml

end Gatekeeper
