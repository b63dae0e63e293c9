/-
This file proves that JSON text is read back as what was written. The characters of a string are
read one by one, each as one piece, whichever way it is written; the digits of a number end where
the value does; and an array or an object is read item by item up to its closing bracket. So a value
is read back from its compact text, unless there are doubles in it.

The table of rules is written as an object with an object in it for each rule. Whatever the names of
the actions are, and whatever the ranks, its text is a table again, and the same one.
-/
import Gatekeeper.Proofs.ConfigText
import Gatekeeper.Rule.Document
import Mathlib.Tactic.SplitIfs

namespace Gatekeeper

/-! ### Values without doubles -/

namespace Json

mutual

/-- There are no doubles in a value, and its integers fit sixty-four bits. -/
def IsExact : Json → Prop
  | integer value => isIntegerInRange value = true
  | double _ => False
  | array items => AllExact items
  | object members => MembersExact members
  | _ => True

def AllExact : List Json → Prop
  | [] => True
  | item :: items => IsExact item ∧ AllExact items

def MembersExact : List (String × Json) → Prop
  | [] => True
  | (_, value) :: members => IsExact value ∧ MembersExact members

end

theorem membersExact_of_forall {members : List (String × Json)}
    (exact : ∀ member ∈ members, IsExact member.2) : MembersExact members := by
  induction members with
  | nil => trivial
  | cons member members inductionHypothesis =>
    obtain ⟨first, later⟩ := List.forall_mem_cons.mp exact
    exact ⟨first, inductionHypothesis later⟩

end Json

theorem Document.ofMembers_eq_map (members : List (String × Json)) :
    ofMembers members = members.map fun member => (member.1, ofJson member.2) := by
  induction members with
  | nil => rfl
  | cons member members inductionHypothesis => rw [ofMembers, inductionHypothesis, List.map_cons]

namespace JsonText

/-! ### Strings -/

theorem pieces?_short {mark : Char} (apart : mark ≠ 'u') (rest : List Char) :
    pieces? ('\\' :: mark :: rest) = (escaped? mark).bind fun character =>
      (pieces? rest).map fun given => (.character character :: given.1, given.2) := by
  rw [pieces?]
  · cases escaped? mark with
    | none => rfl
    | some character => cases pieces? rest <;> rfl
  · exact fun _ _ _ _ _ same _ => apart same

theorem pieces?_unit (first second third fourth : Char) (rest : List Char) :
    pieces? ('\\' :: 'u' :: first :: second :: third :: fourth :: rest) =
      (Hex.value? [first, second, third, fourth]).bind fun unit =>
        (pieces? rest).map fun given => (.unit unit :: given.1, given.2) := by
  rw [pieces?]
  cases Hex.value? [first, second, third, fourth] with
  | none => rfl
  | some unit => cases pieces? rest <;> rfl

theorem pieces?_plain {character : Char} (noQuote : character ≠ '"') (noMark : character ≠ '\\')
    (noControl : ¬ character.toNat < 0x20) (rest : List Char) :
    pieces? (character :: rest) =
      (pieces? rest).map fun given => (.character character :: given.1, given.2) := by
  rw [pieces?]
  · rw [if_neg noControl]
    cases pieces? rest <;> rfl
  · exact noQuote
  · exact fun _ _ _ _ _ same _ => noMark same
  · exact fun _ _ same _ => noMark same

/-- A character is written behind a backslash with a mark of its own, by its number, or as it is. -/
theorem escape_cases (character : Char) :
    (∃ mark, mark ≠ 'u' ∧ escaped? mark = some character ∧
        Json.escape character = ['\\', mark]) ∨
      (character.toNat < 0x20 ∧
        Json.escape character = '\\' :: 'u' :: Hex.padded 4 character.toNat) ∨
      (character ≠ '"' ∧ character ≠ '\\' ∧ ¬ character.toNat < 0x20 ∧
        Json.escape character = [character]) := by
  unfold Json.escape
  split_ifs with quote backslash line returning tab backspace feed control
  · exact .inl ⟨'"', by decide, congrArg some quote.symm, rfl⟩
  · exact .inl ⟨'\\', by decide, congrArg some backslash.symm, rfl⟩
  · exact .inl ⟨'n', by decide, congrArg some line.symm, rfl⟩
  · exact .inl ⟨'r', by decide, congrArg some returning.symm, rfl⟩
  · exact .inl ⟨'t', by decide, congrArg some tab.symm, rfl⟩
  · exact .inl ⟨'b', by decide, congrArg some backspace.symm, rfl⟩
  · exact .inl ⟨'f', by decide, congrArg some feed.symm, rfl⟩
  · exact .inr (.inl ⟨control, rfl⟩)
  · exact .inr (.inr ⟨quote, backslash, control, rfl⟩)

/-- A unit that is no surrogate stands for its character, whatever piece follows it. -/
theorem join?_unit {character : Char} (control : character.toNat < 0x20) (pieces : List Piece) :
    join? (.unit character.toNat :: pieces) = (join? pieces).map (character :: ·) := by
  have notHigh : isHighSurrogate character.toNat = false := by
    simp only [isHighSurrogate, Bool.and_eq_false_iff, decide_eq_false_iff_not]
    omega
  have notLow : isLowSurrogate character.toNat = false := by
    simp only [isLowSurrogate, Bool.and_eq_false_iff, decide_eq_false_iff_not]
    omega
  cases pieces with
  | nil => simp [join?, notHigh, notLow]
  | cons next pieces => cases next <;> simp [join?, notHigh, notLow]

/-- A character is read as one piece that stands for it. -/
theorem exists_piece (character : Char) :
    ∃ piece, (∀ pieces, join? (piece :: pieces) = (join? pieces).map (character :: ·)) ∧
      ∀ rest, pieces? (Json.escape character ++ rest) =
        (pieces? rest).map fun given => (piece :: given.1, given.2) := by
  rcases escape_cases character with
    ⟨mark, apart, stands, written⟩ | ⟨control, written⟩ | ⟨noQuote, noMark, noControl, written⟩
  · refine ⟨.character character, fun _ => rfl, fun rest => ?_⟩
    rw [written]
    exact (pieces?_short apart rest).trans (by rw [stands]; rfl)
  · refine ⟨.unit character.toNat, join?_unit control, fun rest => ?_⟩
    have width : (Hex.padded 4 character.toNat).length = 4 :=
      Hex.length_padded (by decide) (Nat.lt_trans control (by decide))
    have value := Hex.value?_padded 4 character.toNat
    rw [written]
    match Hex.padded 4 character.toNat, width, value with
    | [first, second, third, fourth], _, value =>
      exact (pieces?_unit first second third fourth rest).trans (by rw [value]; rfl)
  · refine ⟨.character character, fun _ => rfl, fun rest => ?_⟩
    rw [written]
    exact pieces?_plain noQuote noMark noControl rest

/-- A string is read up to its closing quote, and its pieces stand for its characters. -/
theorem exists_pieces (characters rest : List Char) :
    ∃ pieces, pieces? (characters.flatMap Json.escape ++ '"' :: rest) = some (pieces, rest) ∧
      join? pieces = some characters := by
  induction characters with
  | nil => exact ⟨[], by rw [List.flatMap_nil, List.nil_append, pieces?], rfl⟩
  | cons character characters inductionHypothesis =>
    obtain ⟨pieces, read, joined⟩ := inductionHypothesis
    obtain ⟨piece, stands, escaped⟩ := exists_piece character
    refine ⟨piece :: pieces, ?_, ?_⟩
    · rw [List.flatMap_cons, List.append_assoc, escaped, read, Option.map_some]
    · rw [stands, joined, Option.map_some]

/-- A string in its quotes is read behind the first of them. -/
theorem exists_quoted (text : String) (rest : List Char) :
    ∃ later pieces, Json.quoted text ++ rest = '"' :: later ∧
      pieces? later = some (pieces, rest) ∧ join? pieces = some text.toList := by
  obtain ⟨pieces, read, joined⟩ := exists_pieces text.toList rest
  refine ⟨text.toList.flatMap Json.escape ++ '"' :: rest, pieces, ?_, read, joined⟩
  rw [Json.quoted, List.cons_append, List.cons_append, List.append_assoc, List.singleton_append]

/-! ### Numbers -/

/-- What may follow a value in compact text: a comma, a closing bracket, or nothing. -/
def Ends (rest : List Char) : Prop :=
  ∀ first ∈ rest.head?, first = ',' ∨ first = ']' ∨ first = '\x7d'

section Numbers

variable {rest : List Char}

theorem ends_cons {first : Char} (ends : first = ',' ∨ first = ']' ∨ first = '\x7d')
    (later : List Char) : Ends (first :: later) := by
  rintro other ⟨⟩
  exact ends

theorem Ends.of_cons {first : Char} {later : List Char} (ends : Ends (first :: later)) :
    first = ',' ∨ first = ']' ∨ first = '\x7d' :=
  ends first rfl

theorem noDigit_of_ends (ends : Ends rest) :
    rest.takeWhile Char.isDigit = [] ∧ rest.dropWhile Char.isDigit = rest := by
  cases rest with
  | nil => exact ⟨rfl, rfl⟩
  | cons first later => rcases ends.of_cons with rfl | rfl | rfl <;> exact ⟨rfl, rfl⟩

theorem fraction?_of_ends (ends : Ends rest) : fraction? rest = some ([], rest) := by
  cases rest with
  | nil => rfl
  | cons first later => rcases ends.of_cons with rfl | rfl | rfl <;> rfl

theorem exponent?_of_ends (ends : Ends rest) : exponent? rest = some (none, rest) := by
  cases rest with
  | nil => rfl
  | cons first later => rcases ends.of_cons with rfl | rfl | rfl <;> rfl

theorem exists_digit (number : Nat) :
    ∃ digit later, Nat.toDigits 10 number = digit :: later ∧ digit.isDigit = true := by
  obtain ⟨digit, later, written⟩ := List.exists_cons_of_ne_nil
    (Nat.toDigits_ne_nil : Nat.toDigits 10 number ≠ [])
  refine ⟨digit, later, written, Nat.isDigit_of_mem_toDigits (b := 10) (n := number) (by decide)
    (by decide) ?_⟩
  rw [written]
  exact List.mem_cons_self

/-- The digits of a number are read up to where the value ends. -/
theorem unsigned?_toDigits (negative : Bool) (number : Nat) (ends : Ends rest) :
    unsigned? negative (Nat.toDigits 10 number ++ rest) =
      some (numberOf negative (Nat.toDigits 10 number) [] none, rest) := by
  have isDigits : ∀ digit ∈ Nat.toDigits 10 number, digit.isDigit = true :=
    fun _ member => Nat.isDigit_of_mem_toDigits (by decide) (by decide) member
  have digits : (Nat.toDigits 10 number ++ rest).takeWhile Char.isDigit =
      Nat.toDigits 10 number := by
    rw [List.takeWhile_append_of_pos isDigits, (noDigit_of_ends ends).1, List.append_nil]
  have left : (Nat.toDigits 10 number ++ rest).dropWhile Char.isDigit = rest := by
    rw [List.dropWhile_append_of_pos isDigits, (noDigit_of_ends ends).2]
  have plain : ((Nat.toDigits 10 number).isEmpty || decide ((Nat.toDigits 10 number).head? =
      some '0') && decide ((Nat.toDigits 10 number).length ≠ 1)) = false := by
    obtain rfl | positive := Nat.eq_zero_or_pos number
    · rfl
    · rw [List.isEmpty_eq_false_iff.mpr Nat.toDigits_ne_nil,
        decide_eq_false (Toml.toDigits_head?_ne positive)]
      rfl
  unfold unsigned?
  dsimp only
  rw [digits, left, plain, fraction?_of_ends ends]
  show (exponent? rest).bind _ = _
  rw [exponent?_of_ends ends]
  rfl

/-- Digits alone are an integer, if it fits sixty-four bits; a minus goes with any but zero. -/
theorem numberOf_toDigits {negative : Bool} {number : Nat}
    (fits : Json.isIntegerInRange (if negative then -number else number) = true)
    (signed : negative = true → number ≠ 0) :
    numberOf negative (Nat.toDigits 10 number) [] none =
      .integer (if negative then -number else number) := by
  have notZero : (negative && decide ((if negative then -(number : Int) else number) = 0)) =
      false := by
    cases negative with
    | false => rfl
    | true =>
      have positive := signed rfl
      rw [Bool.true_and, if_pos rfl, decide_eq_false_iff_not]
      omega
  unfold numberOf
  dsimp only
  rw [Nat.ofDigitChars_ten_toDigits, notZero, fits]
  rfl

/-- An integer is read back up to where the value ends. -/
theorem number?_integerText {value : Int} (fits : Json.isIntegerInRange value = true)
    (ends : Ends rest) :
    number? (Json.integerText value ++ rest) = some (.integer value, rest) := by
  unfold Json.integerText
  split
  · next below =>
    have same : (if true then -(value.natAbs : Int) else value.natAbs) = value := by
      rw [if_pos rfl, Int.ofNat_natAbs_of_nonpos (Int.le_of_lt below), Int.neg_neg]
    rw [List.cons_append, number?, unsigned?_toDigits true _ ends, numberOf_toDigits, same]
    · rw [same]
      exact fits
    · exact fun _ => Int.natAbs_ne_zero.mpr (Int.ne_of_lt below)
  · next above =>
    have same : (if false then -(value.natAbs : Int) else value.natAbs) = value := by
      rw [if_neg Bool.false_ne_true, Int.natAbs_of_nonneg (Int.not_lt.mp above)]
    rw [number?, unsigned?_toDigits false _ ends, numberOf_toDigits, same]
    · rw [same]
      exact fits
    · exact nofun
    · obtain ⟨digit, later, written, isDigit⟩ := exists_digit value.natAbs
      rintro _ minus
      rw [written, List.cons_append] at minus
      cases minus
      cases isDigit

end Numbers

/-! ### Values -/

/-- What starts with this character starts with no blank and does not close an array. -/
def IsSolid (first : Char) : Prop :=
  isBlank first = false ∧ first ≠ ']'

instance : DecidablePred IsSolid := fun first =>
  inferInstanceAs (Decidable (isBlank first = false ∧ first ≠ ']'))

/-- The text starts with a value and, wherever a value may end behind it, is read as this
document. -/
structure Reads (text : List Char) (document : Document) : Prop where
  starts : ∃ first later, text = first :: later ∧ IsSolid first
  -- A character takes two calls at most: one for an item or a member, one for its value.
  read : ∀ {fuel : Nat} {rest : List Char}, 2 * text.length ≤ fuel → Ends rest →
    value fuel (text ++ rest) = (document, some rest)

theorem skipBlanks_of_solid {first : Char} (solid : IsSolid first) (later : List Char) :
    skipBlanks (first :: later) = first :: later :=
  List.dropWhile_cons_of_neg (by rw [solid.1]; exact Bool.false_ne_true)

/-- Only the first call matters for what is no array and no object. -/
theorem Reads.of_value {first : Char} {later : List Char} {document : Document}
    (solid : IsSolid first)
    (read : ∀ (fuel : Nat) {rest : List Char}, Ends rest →
      value (fuel + 1) (first :: later ++ rest) = (document, some rest)) :
    Reads (first :: later) document where
  starts := ⟨first, later, rfl, solid⟩
  read := by
    intro fuel rest enough ends
    cases fuel with
    | zero => cases enough
    | succ fuel => exact read fuel ends

/-- A number starts with a digit or a minus. -/
def StartsNumber (first : Char) : Prop :=
  first.isDigit = true ∨ first = '-'

theorem StartsNumber.ne {first : Char} (starts : StartsNumber first) {mark : Char}
    (noDigit : mark.isDigit = false) (noMinus : mark ≠ '-') : first ≠ mark := by
  rintro rfl
  rcases starts with isDigit | minus
  · exact Bool.false_ne_true (noDigit.symm.trans isDigit)
  · exact noMinus minus

theorem StartsNumber.solid {first : Char} (starts : StartsNumber first) : IsSolid first := by
  refine ⟨?_, starts.ne (by decide) (by decide)⟩
  simp only [isBlank, Bool.or_eq_false_iff, decide_eq_false_iff_not]
  exact ⟨⟨⟨starts.ne (by decide) (by decide), starts.ne (by decide) (by decide)⟩,
    starts.ne (by decide) (by decide)⟩, starts.ne (by decide) (by decide)⟩

/-- What starts like a number is read as one: every other form of a value starts otherwise. -/
theorem value_of_number {first : Char} (starts : StartsNumber first) (fuel : Nat)
    {later rest : List Char} {number : Document}
    (read : number? (first :: later) = some (number, rest)) :
    value (fuel + 1) (first :: later) = (number, some rest) := by
  rw [value, skipBlanks_of_solid starts.solid]
  split
  case h_7 => rw [read]
  all_goals
    next same => exact absurd (List.cons.inj same).1 (starts.ne (by decide) (by decide))

theorem reads_integer {number : Int} (fits : Json.isIntegerInRange number = true) :
    Reads (Json.integerText number) (.integer number) := by
  obtain ⟨first, later, written, starts⟩ : ∃ first later,
      Json.integerText number = first :: later ∧ StartsNumber first := by
    obtain ⟨digit, later, written, isDigit⟩ := exists_digit number.natAbs
    unfold Json.integerText
    split
    · exact ⟨'-', _, rfl, .inr rfl⟩
    · exact ⟨digit, later, written, .inl isDigit⟩
  rw [written]
  refine .of_value starts.solid fun fuel rest ends => ?_
  have read := number?_integerText fits ends
  rw [written, List.cons_append] at read
  exact value_of_number starts fuel read

theorem reads_null : Reads ['n', 'u', 'l', 'l'] .null :=
  .of_value (by decide) fun _ _ _ => rfl

theorem reads_true : Reads ['t', 'r', 'u', 'e'] (.boolean true) :=
  .of_value (by decide) fun _ _ _ => rfl

theorem reads_false : Reads ['f', 'a', 'l', 's', 'e'] (.boolean false) :=
  .of_value (by decide) fun _ _ _ => rfl

theorem value_quoted (fuel : Nat) (text : String) (rest : List Char) :
    value (fuel + 1) (Json.quoted text ++ rest) = (.text text, some rest) := by
  obtain ⟨later, pieces, written, read, joined⟩ := exists_quoted text rest
  rw [written, value, skipBlanks_of_solid (by decide)]
  simp only [read, joined, String.ofList_toList]

theorem reads_text (text : String) : Reads (Json.quoted text) (.text text) :=
  .of_value (by decide) fun fuel _ _ => value_quoted fuel text _

/-! ### Arrays -/

section Arrays

variable {fuel : Nat} {text rest : List Char} {document : Document} {documents : List Document}

theorem value_array {first : Char} {later : List Char} {ending : Ending}
    {left : Option (List Char)} (solid : IsSolid first)
    (read : JsonText.items fuel (first :: later) = (documents, ending, left)) :
    value (fuel + 1) ('[' :: first :: later) = (.list documents ending, left) := by
  rw [value, skipBlanks_of_solid (by decide)]
  simp only [skipBlanks_of_solid solid]
  split
  · next same => exact absurd (List.cons.inj same).1 solid.2
  · rw [read]

theorem items_of_closing (read : value fuel text = (document, some (']' :: rest))) :
    JsonText.items (fuel + 1) text = ([document], .closed, some rest) := by
  rw [JsonText.items, read]
  rfl

theorem items_of_comma {ending : Ending} {left : Option (List Char)}
    (read : value fuel text = (document, some (',' :: rest)))
    (later : JsonText.items fuel rest = (documents, ending, left)) :
    JsonText.items (fuel + 1) text = (document :: documents, ending, left) := by
  rw [JsonText.items, read]
  simp only [skipBlanks_of_solid (by decide : IsSolid ','), later]

/-- The text goes on behind any item of an array, and the items that it gives are these. -/
def ContinuesItems (later : List Char) (documents : List Document) : Prop :=
  ∀ {text : List Char} {document : Document}, Reads text document →
    ∀ (fuel : Nat) (rest : List Char), 2 * (text.length + later.length + 1) ≤ fuel →
      JsonText.items fuel (text ++ (later ++ ']' :: rest)) =
        (document :: documents, .closed, some rest)

theorem continuesItems_nil : ContinuesItems [] [] := by
  intro text document reads fuel rest enough
  cases fuel with
  | zero => omega
  | succ fuel =>
    have ends : Ends (']' :: rest) := ends_cons (.inr (.inl rfl)) rest
    exact items_of_closing (reads.read (by simp only [List.length_nil] at enough; omega) ends)

theorem continuesItems_cons {later : List Char} (reads : Reads text document)
    (continues : ContinuesItems later documents) :
    ContinuesItems (',' :: text ++ later) (document :: documents) := by
  intro before earlier readsBefore fuel rest enough
  simp only [List.length_append, List.length_cons] at enough
  cases fuel with
  | zero => omega
  | succ fuel =>
    have read := readsBefore.read (by omega : _ ≤ fuel)
      (ends_cons (.inl rfl) (text ++ (later ++ ']' :: rest)))
    rw [List.cons_append, List.cons_append, List.append_assoc]
    exact items_of_comma read (continues reads fuel rest (by omega))

theorem reads_array {later : List Char} (reads : Reads text document)
    (continues : ContinuesItems later documents) :
    Reads ('[' :: text ++ later ++ [']']) (.list (document :: documents) .closed) where
  starts := ⟨'[', _, rfl, by decide⟩
  read := by
    intro fuel rest enough _
    simp only [List.length_append, List.length_cons, List.length_nil] at enough
    cases fuel with
    | zero => omega
    | succ fuel =>
      obtain ⟨first, others, starts, solid⟩ := reads.starts
      have read := continues reads fuel rest (by omega)
      rw [List.append_assoc, List.append_assoc, List.cons_append, List.singleton_append]
      rw [starts, List.cons_append] at read ⊢
      exact value_array solid read

end Arrays

/-! ### Objects -/

section Objects

variable {fuel : Nat} {text rest : List Char} {document : Document}
  {entries : List (String × Document)}

theorem value_object {ending : Ending} {left : Option (List Char)} (name : String)
    (read : JsonText.members fuel (Json.quoted name ++ rest) = (entries, ending, left)) :
    value (fuel + 1) ('\x7b' :: (Json.quoted name ++ rest)) = (.table entries ending, left) := by
  obtain ⟨later, -, written, -⟩ := exists_quoted name rest
  rw [written] at read ⊢
  rw [value, skipBlanks_of_solid (by decide)]
  simp only [skipBlanks_of_solid (by decide : IsSolid '"')]
  split
  · next same => exact absurd (List.cons.inj same).1 (by decide)
  · rw [read]

theorem members_of_closing (name : String)
    (read : value fuel text = (document, some ('\x7d' :: rest))) :
    JsonText.members (fuel + 1) (Json.quoted name ++ ':' :: text) =
      ([(name, document)], .closed, some rest) := by
  obtain ⟨later, pieces, written, readName, joined⟩ := exists_quoted name (':' :: text)
  rw [written, JsonText.members, skipBlanks_of_solid (by decide : IsSolid '"')]
  simp only [readName, skipBlanks_of_solid (by decide : IsSolid ':'), read, joined,
    String.ofList_toList]
  rfl

theorem members_of_comma {ending : Ending} {left : Option (List Char)} (name : String)
    (read : value fuel text = (document, some (',' :: rest)))
    (later : JsonText.members fuel rest = (entries, ending, left)) :
    JsonText.members (fuel + 1) (Json.quoted name ++ ':' :: text) =
      ((name, document) :: entries, ending, left) := by
  obtain ⟨spelled, pieces, written, readName, joined⟩ := exists_quoted name (':' :: text)
  rw [written, JsonText.members, skipBlanks_of_solid (by decide : IsSolid '"')]
  simp only [readName, skipBlanks_of_solid (by decide : IsSolid ':'), read, joined,
    String.ofList_toList, Option.map_some, skipBlanks_of_solid (by decide : IsSolid ','), later]

/-- The text goes on behind any member of an object, and the members that it gives are these. -/
def ContinuesMembers (later : List Char) (entries : List (String × Document)) : Prop :=
  ∀ (name : String) {text : List Char} {document : Document}, Reads text document →
    ∀ (fuel : Nat) (rest : List Char),
      2 * ((Json.quoted name).length + text.length + later.length + 1) ≤ fuel →
        JsonText.members fuel (Json.quoted name ++ ':' :: (text ++ (later ++ '\x7d' :: rest))) =
          ((name, document) :: entries, .closed, some rest)

theorem continuesMembers_nil : ContinuesMembers [] [] := by
  intro name text document reads fuel rest enough
  cases fuel with
  | zero => omega
  | succ fuel =>
    have ends : Ends ('\x7d' :: rest) := ends_cons (.inr (.inr rfl)) rest
    exact members_of_closing name (reads.read (by omega) ends)

theorem continuesMembers_cons (name : String) {later : List Char} (reads : Reads text document)
    (continues : ContinuesMembers later entries) :
    ContinuesMembers (',' :: Json.quoted name ++ ':' :: text ++ later)
      ((name, document) :: entries) := by
  intro earlierName before earlier readsBefore fuel rest enough
  simp only [List.length_append, List.length_cons] at enough
  cases fuel with
  | zero => omega
  | succ fuel =>
    have read := readsBefore.read (by omega : _ ≤ fuel)
      (ends_cons (.inl rfl) (Json.quoted name ++ ':' :: (text ++ (later ++ '\x7d' :: rest))))
    rw [List.cons_append, List.cons_append, List.cons_append, List.append_assoc, List.append_assoc,
      List.cons_append]
    exact members_of_comma earlierName read (continues name reads fuel rest (by omega))

theorem reads_object (name : String) {later : List Char} (reads : Reads text document)
    (continues : ContinuesMembers later entries) :
    Reads ('\x7b' :: Json.quoted name ++ ':' :: text ++ later ++ ['\x7d'])
      (.table ((name, document) :: entries) .closed) where
  starts := ⟨'\x7b', _, rfl, by decide⟩
  read := by
    intro fuel rest enough _
    simp only [List.length_append, List.length_cons, List.length_nil] at enough
    cases fuel with
    | zero => omega
    | succ fuel =>
      rw [List.append_assoc, List.append_assoc, List.append_assoc, List.cons_append,
        List.cons_append, List.singleton_append]
      exact value_object name (continues name reads fuel rest (by omega))

end Objects

/-! ### Whole texts -/

open Json (laterItems laterMembers)

-- The induction is on the value; what comes behind a text is left to the texts around it.
mutual

/-- A value without doubles is read back from its compact text. -/
theorem reads_characters : ∀ json : Json, json.IsExact → Reads json.characters (.ofJson json)
  | .null, _ => reads_null
  | .boolean true, _ => reads_true
  | .boolean false, _ => reads_false
  | .integer _, fits => reads_integer fits
  | .text text, _ => reads_text text
  | .array [], _ => .of_value (by decide) fun _ _ _ => rfl
  | .array (item :: items), ⟨exact, others⟩ =>
    reads_array (reads_characters item exact) (continues_laterItems items others)
  | .object [], _ => .of_value (by decide) fun _ _ _ => rfl
  | .object ((name, value) :: members), ⟨exact, others⟩ =>
    reads_object name (reads_characters value exact) (continues_laterMembers members others)

theorem continues_laterItems : ∀ items : List Json, Json.AllExact items →
    ContinuesItems (laterItems items) (Document.ofItems items)
  | [], _ => continuesItems_nil
  | item :: items, ⟨exact, others⟩ =>
    continuesItems_cons (reads_characters item exact) (continues_laterItems items others)

theorem continues_laterMembers : ∀ members : List (String × Json), Json.MembersExact members →
    ContinuesMembers (laterMembers members) (Document.ofMembers members)
  | [], _ => continuesMembers_nil
  | (name, value) :: members, ⟨exact, others⟩ =>
    continuesMembers_cons name (reads_characters value exact)
      (continues_laterMembers members others)

end

/-- A value without doubles is all that there is to its compact text. -/
theorem document_characters {json : Json} (exact : json.IsExact) :
    document json.characters = (.ofJson json, true) := by
  have read : value (2 * json.characters.length + 2) (json.characters ++ []) =
      (.ofJson json, some []) :=
    (reads_characters json exact).read (Nat.le_add_right _ 2) nofun
  rw [List.append_nil] at read
  rw [document, read]
  rfl

end JsonText

/-! ### Rule tables -/

theorem Rule.isExact_toJson (rule : Rule) : rule.toJson.IsExact := by
  have fits (number : UInt64) : Json.isIntegerInRange number.toNat = true := by
    have below := number.toNat_lt
    simp only [Json.isIntegerInRange, Bool.and_eq_true, decide_eq_true_eq]
    omega
  obtain ⟨others, owner⟩ := rule
  cases owner with
  | none => exact ⟨fits others, trivial⟩
  | some owner => exact ⟨fits others, fits owner, trivial⟩

theorem Rule.read_toJson (dialect : Dialect) (rule : Rule) :
    shape.read dialect (.ofJson rule.toJson) = .ok rule := by
  have same : Document.ofJson rule.toJson = rule.outline.value := by
    obtain ⟨others, owner⟩ := rule
    cases owner <;> rfl
  rw [same, read_outline]

namespace RuleTable

/-- The object that gives rules one after another, as they come. -/
def listing (rules : List (String × Rule)) : Json :=
  .object (rules.map fun entry => (entry.1, entry.2.toJson))

/-- Whatever the rules are called and in whatever order they come, they are read from their text as
a table, and of two rules of one name the later wins. -/
theorem ofJsonText_listing (rules : List (String × Rule)) :
    ofJsonText (listing rules).render = .ok (SortedMap.ofList rules) := by
  have exact : (listing rules).IsExact := by
    refine Json.membersExact_of_forall (List.forall_mem_map.mpr ?_)
    exact fun entry _ => entry.2.isExact_toJson
  have entries : (Document.ofJson (listing rules)).readEntries (fun name => .ok name)
      (Rule.shape.read .json) = .ok rules := by
    rw [listing, Document.ofJson, Document.ofMembers_eq_map, List.map_map]
    exact Document.readEntries_of_read (fun _ => rfl) (Rule.read_toJson .json) rules
  have read : RuleTable.read .json (.ofJson (listing rules)) = .ok (SortedMap.ofList rules) := by
    rw [RuleTable.read, entries]
    rfl
  rw [ofJsonText, Json.render, String.toList_ofList, JsonText.document_characters exact]
  show (do let table ← RuleTable.read .json (.ofJson (listing rules)); _) = _
  rw [read]
  rfl

theorem ofJsonText_render (table : RuleTable) : ofJsonText table.render = .ok table := by
  have listed := ofJsonText_listing table.entries
  rwa [SortedMap.ofList_entries] at listed

/-- Tables of rules survive being written as JSON. Whatever text a table was read from, its own text
is read as the same table, and rules that are out of order or repeated settle to the table that has
the last rule of each name. -/
theorem render_roundTrip :
    (∀ table : RuleTable, ofJsonText table.render = .ok table) ∧
      (∀ (text : String) (table : RuleTable), ofJsonText text = .ok table →
        ofJsonText table.render = .ok table) ∧
      ∀ rules : List (String × Rule),
        ofJsonText (listing rules).render = .ok (SortedMap.ofList rules) :=
  ⟨ofJsonText_render, fun _ table _ => ofJsonText_render table, ofJsonText_listing⟩

/-- Two rules out of order, one of them given twice and the other as a list, with blanks, escapes
and a field that no rule has. -/
def unsettled : String :=
  " \x7b\"b\":\x7b\"others\":2\x7d,\t\"\\u0041\\n\":[18446744073709551615,null],\n" ++
    "\"b\":\x7b\"rank\":[],\"owner\":3,\"others\":7\x7d\x7d"

def settled : RuleTable :=
  SortedMap.ofList [("A\n", ⟨0xFFFFFFFFFFFFFFFF, none⟩), ("b", ⟨7, some 3⟩)]

theorem render_roundTrip_unsettled :
    ofJsonText unsettled = .ok settled ∧ ofJsonText settled.render = .ok settled := by
  have read : ofJsonText unsettled = .ok settled := by
    have shown : (ofJsonText unsettled).toOption = some settled := by decide +kernel
    cases given : ofJsonText unsettled with
    | error error => rw [given] at shown; cases shown
    | ok table => rw [given] at shown; exact congrArg Except.ok (Option.some.inj shown)
  exact ⟨read, render_roundTrip.2.1 unsettled settled read⟩

end RuleTable

end Gatekeeper
