/-
This file proves that strings and keys are read back as they were written, whichever of the four
forms they are written in. A string is read in two steps, and so is the proof. The first step only
has to find the quotes that close the string; what it must not stumble over is said once for all
forms, as a relation on raw contents that counts the quotes in a row. The second step undoes the
escapes.
-/
import Gatekeeper.Proofs.HexText
import Gatekeeper.Toml.Outline

namespace Gatekeeper

namespace Toml

/-! ### Raw contents -/

/-- What can stand inside quotes without closing them: at most `most` quotes in a row, of which
`run` stand right before, and, where there are escapes, any character behind a backslash. -/
inductive RawContent (quote : Char) (escapes : Bool) (most : Nat) : Nat → List Char → Prop where
  | nil (run : Nat) : RawContent quote escapes most run []
  | quote {run : Nat} {rest : List Char} (room : run < most)
      (later : RawContent quote escapes most (run + 1) rest) :
      RawContent quote escapes most run (quote :: rest)
  | escape {run : Nat} {second : Char} {rest : List Char} (escaped : escapes = true)
      (later : RawContent quote escapes most 0 rest) :
      RawContent quote escapes most run ('\\' :: second :: rest)
  | other {run : Nat} {character : Char} {rest : List Char} (noQuote : character ≠ quote)
      (noEscape : escapes = true → character ≠ '\\')
      (later : RawContent quote escapes most 0 rest) :
      RawContent quote escapes most run (character :: rest)

namespace RawContent

variable {quote : Char} {escapes : Bool} {most run : Nat} {content rest : List Char}

/-- Characters that are neither quotes nor backslashes can stand in front of any content. -/
theorem free_append {free : List Char}
    (isFree : ∀ character ∈ free, character ≠ quote ∧ character ≠ '\\')
    (later : RawContent quote escapes most 0 rest) :
    RawContent quote escapes most 0 (free ++ rest) := by
  induction free with
  | nil => exact later
  | cons character free inductionHypothesis =>
    obtain ⟨noQuote, noEscape⟩ := isFree character List.mem_cons_self
    exact .other noQuote (fun _ => noEscape)
      (inductionHypothesis fun other member => isFree other (List.mem_cons_of_mem _ member))

/-- Where not even one quote may stand, a content does not start with one. -/
theorem head?_ne (notEscape : quote ≠ '\\') (isContent : RawContent quote escapes 0 run content) :
    content.head? ≠ some quote := by
  cases isContent with
  | nil => nofun
  | quote room _ => exact absurd room (Nat.not_lt_zero _)
  | escape _ _ => exact fun same => notEscape (Option.some.inj same).symm
  | other noQuote _ _ => exact fun same => noQuote (Option.some.inj same)

end RawContent

/-! ### Cutting -/

section Cutting

variable {quote : Char} {escapes : Bool} {run : Nat} {content : List Char}

theorem cutLine?_quote_cons (rest : List Char) :
    cutLine? quote escapes (quote :: rest) = some ([], rest) := by
  rw [cutLine?.eq_def]
  exact if_pos rfl

theorem cutLine?_other_cons {character : Char} (noQuote : character ≠ quote)
    (noEscape : escapes = true → character ≠ '\\') (rest : List Char) :
    cutLine? quote escapes (character :: rest) =
      (cutLine? quote escapes rest).map fun cut => (character :: cut.1, cut.2) := by
  have goesOn : ¬ (escapes = true ∧ character = '\\') := fun both => noEscape both.1 both.2
  rw [cutLine?.eq_def]
  simp [noQuote, goesOn]

/-- The first quote that may not stand in a content on one line closes it. -/
theorem cutLine?_of_rawContent (notEscape : quote ≠ '\\')
    (isContent : RawContent quote escapes 0 run content) (rest : List Char) :
    cutLine? quote escapes (content ++ quote :: rest) = some (content, rest) := by
  induction isContent with
  | nil => exact cutLine?_quote_cons rest
  | quote room _ _ => exact absurd room (Nat.not_lt_zero _)
  | escape escaped _ inductionHypothesis =>
    subst escaped
    simp [cutLine?, notEscape.symm, inductionHypothesis]
  | other noQuote noEscape _ inductionHypothesis =>
    rw [List.cons_append, cutLine?_other_cons noQuote noEscape, inductionHypothesis]
    rfl

/-- A character that is no quote, or that two quotes do not follow, does not close a content of
several lines. -/
theorem cutLines?_cons {character : Char} (noEscape : escapes = true → character ≠ '\\')
    {rest : List Char} (apart : character ≠ quote ∨ rest.take 2 ≠ [quote, quote]) :
    cutLines? quote escapes (character :: rest) =
      (cutLines? quote escapes rest).map fun cut => (character :: cut.1, cut.2) := by
  have stays : ¬ (character = quote ∧ rest.take 2 = [quote, quote]) := by
    rintro ⟨isQuote, closed⟩
    exact apart.elim (· isQuote) (· closed)
  have goesOn : ¬ (escapes = true ∧ character = '\\') := fun both => noEscape both.1 both.2
  rw [cutLines?.eq_def]
  simp only [if_neg stays]
  simp [goesOn]

/-- Two quotes, or one, do not close a content of several lines when something else follows. -/
theorem cutLines?_pending (notEscape : quote ≠ '\\') (few : run ≤ 2) {first : Char}
    (noQuote : first ≠ quote) (rest : List Char) :
    cutLines? quote escapes (List.replicate run quote ++ first :: rest) =
      (cutLines? quote escapes (first :: rest)).map fun cut =>
        (List.replicate run quote ++ cut.1, cut.2) := by
  match run, few with
  | 0, _ => simp
  | 1, _ => exact cutLines?_cons (fun _ => notEscape) (.inr (by simp [noQuote]))
  | 2, _ =>
    show cutLines? quote escapes (quote :: quote :: first :: rest) = _
    rw [cutLines?_cons (fun _ => notEscape) (.inr (by simp [noQuote])),
      cutLines?_cons (fun _ => notEscape) (.inr (by simp [noQuote])), Option.map_map]
    rfl

/-- Three quotes close a content of several lines, and two more at most belong to it. -/
theorem cutLines?_closing (few : run ≤ 2) {rest : List Char} (ended : rest.head? ≠ some quote) :
    cutLines? quote escapes (List.replicate run quote ++ quote :: quote :: quote :: rest) =
      some (List.replicate run quote, rest) := by
  have ends : rest.takeWhile (· = quote) = [] := by
    cases rest with
    | nil => rfl
    | cons first later => exact List.takeWhile_cons_of_neg (by simpa using ended)
  rw [cutLines?.eq_def]
  match run, few with
  | 0, _ => simp [closing, ends]
  | 1, _ => simp [closing, ends, List.replicate]
  | 2, _ => simp [closing, ends, List.replicate]

/-- A content of several lines is cut out in front of the quotes that close it. The induction is on
the content, and the quotes right before it are carried along. -/
theorem cutLines?_of_rawContent (notEscape : quote ≠ '\\')
    (isContent : RawContent quote escapes 2 run content) (few : run ≤ 2) {rest : List Char}
    (ended : rest.head? ≠ some quote) :
    cutLines? quote escapes
        (List.replicate run quote ++ (content ++ quote :: quote :: quote :: rest)) =
      some (List.replicate run quote ++ content, rest) := by
  induction isContent with
  | nil run =>
    rw [List.nil_append, List.append_nil]
    exact cutLines?_closing few ended
  | @quote run later room _ inductionHypothesis =>
    have shifted : ∀ text : List Char, List.replicate run quote ++ quote :: text =
        List.replicate (run + 1) quote ++ text := by
      intro text
      rw [List.replicate_succ', List.append_assoc, List.singleton_append]
    rw [List.cons_append, shifted, shifted]
    exact inductionHypothesis room
  | escape escaped _ inductionHypothesis =>
    subst escaped
    have cut := inductionHypothesis (Nat.zero_le 2)
    rw [List.replicate_zero, List.nil_append, List.nil_append] at cut
    rw [List.cons_append, cutLines?_pending notEscape few notEscape.symm]
    simp [cutLines?, notEscape.symm, cut]
  | other noQuote noEscape _ inductionHypothesis =>
    have cut := inductionHypothesis (Nat.zero_le 2)
    rw [List.replicate_zero, List.nil_append, List.nil_append] at cut
    rw [List.cons_append, cutLines?_pending notEscape few noQuote,
      cutLines?_cons noEscape (.inl noQuote), cut]
    rfl

end Cutting

/-! ### What is written inside quotes -/

theorem toNat_lt_of_isPlain_eq_false {character : Char} (control : isPlain character = false) :
    character.toNat < 0x80 := by
  simp only [isPlain, Bool.or_eq_false_iff, Bool.and_eq_false_iff,
    decide_eq_false_iff_not] at control
  omega

/-- A control can be written by its number. -/
theorem escape?_padded {character : Char} (control : isPlain character = false)
    (rest : List Char) :
    escape? ('u' :: (Hex.padded 4 character.toNat).map Char.toUpper ++ rest) =
      some (character, rest) := by
  have small := toNat_lt_of_isPlain_eq_false control
  have width : ((Hex.padded 4 character.toNat).map Char.toUpper).length = 4 := by
    rw [List.length_map, Hex.length_padded (by decide) (Nat.lt_trans small (by decide))]
  have read : scalar? ((Hex.padded 4 character.toNat).map Char.toUpper) = some character := by
    rw [scalar?, Hex.value?_map_toUpper_padded]
    simp only
    rw [if_pos (.inl (Nat.lt_trans small (by decide))), Char.ofNat_toNat]
  rw [List.cons_append, escape?, if_neg (by rw [List.length_append, width]; omega),
    List.take_left' width, List.drop_left' width, read]
  rfl

theorem padded_isFree (number : Nat) :
    ∀ digit ∈ (Hex.padded 4 number).map Char.toUpper, digit ≠ '"' ∧ digit ≠ '\\' := by
  have each : ∀ small < 16,
      small.digitChar.toUpper ≠ '"' ∧ small.digitChar.toUpper ≠ '\\' := by
    decide
  refine List.forall_mem_map.mpr fun digit member => ?_
  obtain ⟨small, bounded, rfl⟩ := Hex.exists_of_mem_padded member
  exact each small bounded

/-- A character is written as it is, where it may stand, or else behind a backslash, with nothing
behind that which could be taken for a quote or for another backslash. -/
theorem escape_cases (lines : Bool) (character : Char) :
    (escape lines character = [character] ∧ character ≠ '\\' ∧
        (isPlain character = true ∨ lines = true ∧ character = '\n')) ∨
      ∃ mark tail, escape lines character = '\\' :: mark :: tail ∧
        (∀ other ∈ tail, other ≠ '"' ∧ other ≠ '\\') ∧
        ∀ rest, escape? (mark :: tail ++ rest) = some (character, rest) := by
  unfold escape
  split
  · next same => exact .inr ⟨'b', [], rfl, nofun, fun _ => same ▸ rfl⟩
  split
  · next same => exact .inr ⟨'t', [], rfl, nofun, fun _ => same ▸ rfl⟩
  split
  · next same =>
    subst same
    cases lines
    · exact .inr ⟨'n', [], rfl, nofun, fun _ => rfl⟩
    · exact .inl ⟨rfl, by decide, .inr ⟨rfl, rfl⟩⟩
  split
  · next same => exact .inr ⟨'f', [], rfl, nofun, fun _ => same ▸ rfl⟩
  split
  · next same => exact .inr ⟨'r', [], rfl, nofun, fun _ => same ▸ rfl⟩
  split
  · next same =>
    subst same
    exact .inr ⟨'\\', [], rfl, nofun, fun _ => rfl⟩
  split
  · next noEscape plain => exact .inl ⟨rfl, noEscape, .inl plain⟩
  · next control =>
    have control := Bool.eq_false_iff.mpr control
    exact .inr ⟨'u', _, rfl, padded_isFree _, escape?_padded control⟩

/-- A text with its escapes never has more quotes in a row than may stand there. -/
theorem rawContent_escapeAll (lines : Bool) (run : Nat) (text : List Char) :
    RawContent '"' true (if lines then 2 else 0) run (escapeAll lines run text) := by
  induction text generalizing run with
  | nil => exact .nil run
  | cons character text inductionHypothesis =>
    rw [escapeAll]
    by_cases isQuote : character = '"'
    · rw [if_pos isQuote]
      by_cases stands : (lines && decide (run < 2)) = true
      · rw [if_pos stands]
        obtain ⟨rfl, few⟩ : lines = true ∧ run < 2 := by simpa using stands
        exact .quote few (inductionHypothesis (run + 1))
      · rw [if_neg stands]
        exact .escape rfl (inductionHypothesis 0)
    · rw [if_neg isQuote]
      obtain ⟨written, noEscape, _⟩ | ⟨mark, tail, written, isFree, _⟩ :=
        escape_cases lines character
      · rw [written]
        exact .other isQuote (fun _ => noEscape) (inductionHypothesis 0)
      · rw [written]
        exact .escape rfl (RawContent.free_append isFree (inductionHypothesis 0))

/-- What stands behind a backslash is decoded at once. -/
theorem decode?_escape {lines : Bool} {fuel : Nat} {character : Char} {tail rest : List Char}
    (read : escape? tail = some (character, rest)) :
    decode? true lines (fuel + 1) ('\\' :: tail) =
      (decode? true lines fuel rest).map (character :: ·) := by
  rw [decode?, read]
  rfl

/-- What needs no escape is decoded as it is. -/
theorem decode?_cons {escapes lines : Bool} {fuel : Nat} {character : Char} {rest : List Char}
    (noEscape : escapes = true → character ≠ '\\')
    (stands : isPlain character = true ∨ lines = true ∧ character = '\n') :
    decode? escapes lines (fuel + 1) (character :: rest) =
      (decode? escapes lines fuel rest).map (character :: ·) := by
  have goesOn : ¬ (escapes = true ∧ character = '\\') := fun both => noEscape both.1 both.2
  rw [decode?]
  obtain plain | ⟨rfl, rfl⟩ := stands
  · simp [goesOn, plain]
  · simp [isPlain, newline?]

theorem length_escape_pos (lines : Bool) (character : Char) :
    0 < (escape lines character).length := by
  obtain ⟨written, _⟩ | ⟨mark, tail, written, _⟩ := escape_cases lines character
  · rw [written]
    exact Nat.zero_lt_succ _
  · rw [written]
    exact Nat.zero_lt_succ _

/-- What is written for a character is decoded in one step. -/
theorem decode?_escape_append (lines : Bool) (character : Char) (fuel : Nat) (rest : List Char) :
    decode? true lines (fuel + 1) (escape lines character ++ rest) =
      (decode? true lines fuel rest).map (character :: ·) := by
  obtain ⟨written, noEscape, stands⟩ | ⟨mark, tail, written, _, read⟩ :=
    escape_cases lines character
  · rw [written]
    exact decode?_cons (fun _ => noEscape) stands
  · rw [written]
    exact decode?_escape (read rest)

/-- A text with its escapes is decoded to the text. -/
theorem decode?_escapeAll (lines : Bool) (run : Nat) (text : List Char) {fuel : Nat}
    (enough : (escapeAll lines run text).length ≤ fuel) :
    decode? true lines fuel (escapeAll lines run text) = some text := by
  induction text generalizing run fuel with
  | nil => exact decode?.eq_1 ..
  | cons character text inductionHypothesis =>
    rw [escapeAll] at enough ⊢
    by_cases isQuote : character = '"'
    · subst isQuote
      rw [if_pos rfl] at enough ⊢
      by_cases stands : (lines && decide (run < 2)) = true
      · rw [if_pos stands] at enough ⊢
        obtain ⟨left, rfl⟩ := Nat.exists_eq_add_of_lt enough
        rw [decode?_cons (by decide) (.inl rfl), inductionHypothesis (run + 1) (by omega)]
        rfl
      · rw [if_neg stands, List.length_cons] at enough
        rw [if_neg stands]
        obtain ⟨left, rfl⟩ := Nat.exists_eq_add_of_lt enough
        rw [decode?_escape rfl, inductionHypothesis 0 (by rw [List.length_cons]; omega)]
        rfl
    · rw [if_neg isQuote] at enough ⊢
      have written := length_escape_pos lines character
      rw [List.length_append] at enough
      obtain ⟨left, rfl⟩ : ∃ left, fuel = left + 1 := ⟨fuel - 1, by omega⟩
      rw [decode?_escape_append, inductionHypothesis 0 (by omega)]
      rfl

/-- A text that needs no escapes is decoded as it is. -/
theorem decode?_of_plain {lines : Bool} {text : List Char}
    (stands : ∀ character ∈ text, isPlain character = true ∨ lines = true ∧ character = '\n')
    {fuel : Nat} (enough : text.length ≤ fuel) : decode? false lines fuel text = some text := by
  induction text generalizing fuel with
  | nil => exact decode?.eq_1 ..
  | cons character text inductionHypothesis =>
    obtain ⟨fuel, rfl⟩ : ∃ left, fuel = left + 1 := ⟨fuel - 1, by simp at enough; omega⟩
    rw [decode?_cons (absurd · Bool.false_ne_true) (stands character List.mem_cons_self),
      inductionHypothesis (fun other member => stands other (List.mem_cons_of_mem _ member))
        (Nat.le_of_succ_le_succ enough)]
    rfl

/-! ### Longest runs -/

/-- Counts one more character into the run that ends with it, and into the longest run so far. -/
def countRun (character : Char) (counted : Nat × Nat) (other : Char) : Nat × Nat :=
  if other = character then (counted.1 + 1, max (counted.1 + 1) counted.2) else (0, counted.2)

theorem le_foldl_countRun (character : Char) (text : List Char) (counted : Nat × Nat) :
    counted.2 ≤ (text.foldl (countRun character) counted).2 := by
  induction text generalizing counted with
  | nil => exact Nat.le_refl _
  | cons other text inductionHypothesis =>
    refine Nat.le_trans ?_ (inductionHypothesis (countRun character counted other))
    unfold countRun
    split
    · exact Nat.le_max_right _ _
    · exact Nat.le_refl _

theorem longestRun_eq_zero {character : Char} {text : List Char} (absent : character ∉ text) :
    longestRun character text = 0 := by
  have kept : ∀ counted, (text.foldl (countRun character) counted).2 = counted.2 := by
    induction text with
    | nil => exact fun _ => rfl
    | cons other text inductionHypothesis =>
      intro counted
      have apart : other ≠ character := fun same => absent (same ▸ List.mem_cons_self)
      rw [List.foldl_cons,
        inductionHypothesis fun member => absent (List.mem_cons_of_mem _ member), countRun,
        if_neg apart]
  exact kept (0, 0)

/-- The induction is on the text, with the run right before it carried along. -/
theorem rawContent_of_foldl_le {quote : Char} {most : Nat} {text : List Char} {counted : Nat × Nat}
    (bounded : (text.foldl (countRun quote) counted).2 ≤ most) :
    RawContent quote false most counted.1 text := by
  induction text generalizing counted with
  | nil => exact .nil _
  | cons character text inductionHypothesis =>
    have later := inductionHypothesis bounded
    have bound := Nat.le_trans (le_foldl_countRun quote text _) bounded
    unfold countRun at later bound
    by_cases isQuote : character = quote
    · rw [if_pos isQuote] at later bound
      subst isQuote
      exact .quote (Nat.le_trans (Nat.le_max_left _ _) bound) later
    · rw [if_neg isQuote] at later
      exact .other isQuote nofun later

/-- A text without escapes is a content where no run of quotes in it is too long. -/
theorem rawContent_of_longestRun {quote : Char} {most : Nat} {text : List Char}
    (bounded : longestRun quote text ≤ most) : RawContent quote false most 0 text :=
  rawContent_of_foldl_le bounded

/-! ### Strings -/

section Strings

variable {quote : Char} {content text : List Char}

/-- A string on one line is read back if its content can be cut out and decoded. -/
theorem lineString?_of_content {escapes : Bool} (isEscaping : decide (quote = '"') = escapes)
    (notEscape : quote ≠ '\\') (isContent : RawContent quote escapes 0 0 content)
    (decoded : decode? escapes false content.length content = some text) (rest : List Char) :
    lineString? quote (content ++ quote :: rest) = some (text, rest) := by
  subst isEscaping
  rw [lineString?, cutLine?_of_rawContent notEscape isContent]
  dsimp only
  rw [decoded]
  rfl

/-- So is a string of several lines. A line break behind its opening quotes has to be dropped. -/
theorem linesString?_of_content {escapes : Bool} (isEscaping : decide (quote = '"') = escapes)
    (notEscape : quote ≠ '\\') (isContent : RawContent quote escapes 2 0 content)
    (decoded : decode? escapes true content.length content = some text) {rest : List Char}
    (ended : rest.head? ≠ some quote) {start : List Char}
    (starts : start = ['\n'] ∨
      start = [] ∧ newline? (content ++ quote :: quote :: quote :: rest) = none) :
    linesString? quote (start ++ (content ++ quote :: quote :: quote :: rest)) =
      some (text, rest) := by
  subst isEscaping
  have opened : (newline? (start ++ (content ++ quote :: quote :: quote :: rest))).getD
      (start ++ (content ++ quote :: quote :: quote :: rest)) =
        content ++ quote :: quote :: quote :: rest := by
    obtain rfl | ⟨rfl, none⟩ := starts
    · rfl
    · rw [List.nil_append, none]
      rfl
  have cut := cutLines?_of_rawContent notEscape isContent (Nat.zero_le 2) ended
  rw [List.replicate_zero, List.nil_append, List.nil_append] at cut
  rw [linesString?, opened, cut]
  dsimp only
  rw [decoded]
  rfl

theorem newline?_cons_of_ne {character : Char} (noBreak : character ≠ '\n')
    (noReturn : character ≠ '\r') (rest : List Char) : newline? (character :: rest) = none := by
  unfold newline?
  split
  · next same => exact absurd (List.cons.inj same).1 noBreak
  · next same => exact absurd (List.cons.inj same).1 noReturn
  · rfl

theorem newline?_cons_of_isPlain {character : Char} (plain : isPlain character = true)
    (rest : List Char) : newline? (character :: rest) = none := by
  refine newline?_cons_of_ne ?_ ?_ rest
  · rintro rfl
    exact absurd plain (by decide)
  · rintro rfl
    exact absurd plain (by decide)

/-- What is written for a text without line breaks does not start with one. -/
theorem newline?_escapeAll (noBreak : '\n' ∉ text) (rest : List Char) :
    newline? (escapeAll true 0 text ++ '"' :: rest) = none := by
  cases text with
  | nil => rfl
  | cons character text =>
    rw [escapeAll]
    by_cases isQuote : character = '"'
    · subst isQuote
      rfl
    · rw [if_neg isQuote]
      obtain ⟨written, _, plain | ⟨_, isBreak⟩⟩ | ⟨mark, tail, written, _⟩ :=
        escape_cases true character
      · rw [written]
        exact newline?_cons_of_isPlain plain _
      · exact absurd (isBreak ▸ List.mem_cons_self) noBreak
      · rw [written]
        rfl

/-- A text in basic quotes, on one line, is read back. -/
theorem lineString?_escapeAll (text rest : List Char) :
    lineString? '"' (escapeAll false 0 text ++ '"' :: rest) = some (text, rest) :=
  lineString?_of_content rfl (by decide) (rawContent_escapeAll false 0 text)
    (decode?_escapeAll false 0 text (Nat.le_refl _)) rest

/-- So is a text in literal quotes that has no controls and no such quotes. -/
theorem lineString?_literal (plain : ∀ character ∈ text, isPlain character = true)
    (free : longestRun '\'' text = 0) (rest : List Char) :
    lineString? '\'' (text ++ '\'' :: rest) = some (text, rest) :=
  lineString?_of_content rfl (by decide) (rawContent_of_longestRun (Nat.le_of_eq free))
    (decode?_of_plain (fun character member => .inl (plain character member)) (Nat.le_refl _)) rest

/-! ### The four forms -/

/-- A text of which no character needs an escape has plain characters and line breaks only. -/
theorem plain_of_any_needsEscape (noControls : text.any needsEscape = false) :
    ∀ character ∈ text, isPlain character = true ∨ character = '\n' := by
  intro character member
  have spared := List.any_eq_false.mp noControls character member
  unfold needsEscape at spared
  cases plain : isPlain character with
  | true => exact .inl rfl
  | false => exact .inr (by simpa [plain] using spared)

/-- Where literal quotes are chosen, nothing needs an escape. -/
theorem quotingOf_eq_literal (chosen : quotingOf text = .literal) :
    (∀ character ∈ text, isPlain character = true) ∧ longestRun '\'' text = 0 := by
  have stands : text.any needsEscape = false ∧ longestRun '\'' text = 0 ∧ '\n' ∉ text := by
    unfold quotingOf at chosen
    dsimp only at chosen
    split at chosen
    · cases chosen
    split at chosen
    · next stands => simpa [and_assoc] using stands
    split at chosen
    · cases chosen
    split at chosen
    · cases chosen
    split at chosen <;> cases chosen
  refine ⟨fun character member => ?_, stands.2.1⟩
  refine (plain_of_any_needsEscape stands.1 character member).resolve_right fun isBreak => ?_
  exact stands.2.2 (isBreak ▸ member)

theorem quotingOf_eq_literalLines (chosen : quotingOf text = .literalLines) :
    (∀ character ∈ text, isPlain character = true ∨ character = '\n') ∧
      longestRun '\'' text ≤ 2 := by
  have stands : text.any needsEscape = false ∧ longestRun '\'' text ≤ 2 := by
    unfold quotingOf at chosen
    dsimp only at chosen
    split at chosen
    · cases chosen
    split at chosen
    · cases chosen
    split at chosen
    · cases chosen
    split at chosen
    · next stands => simpa using stands
    split at chosen <;> cases chosen
  exact ⟨plain_of_any_needsEscape stands.1, stands.2⟩

/-- What a text of several lines starts with, so that a line break of its own is not dropped. -/
def opening (text : List Char) : List Char :=
  if text.contains '\n' then ['\n'] else []

theorem opening_cases (text : List Char) :
    opening text = ['\n'] ∨ opening text = [] ∧ '\n' ∉ text := by
  unfold opening
  by_cases breaks : text.contains '\n' = true
  · exact .inl (if_pos breaks)
  · exact .inr ⟨if_neg breaks, by simpa using breaks⟩

theorem linesString?_escapeAll (text : List Char) {rest : List Char}
    (ended : rest.head? ≠ some '"') :
    linesString? '"' (opening text ++ (escapeAll true 0 text ++ '"' :: '"' :: '"' :: rest)) =
      some (text, rest) := by
  refine linesString?_of_content rfl (by decide) (rawContent_escapeAll true 0 text)
    (decode?_escapeAll true 0 text (Nat.le_refl _)) ended ?_
  obtain starts | ⟨starts, noBreak⟩ := opening_cases text
  · exact .inl starts
  · exact .inr ⟨starts, newline?_escapeAll noBreak _⟩

theorem linesString?_literal
    (plain : ∀ character ∈ text, isPlain character = true ∨ character = '\n')
    (few : longestRun '\'' text ≤ 2) {rest : List Char} (ended : rest.head? ≠ some '\'') :
    linesString? '\'' (opening text ++ (text ++ '\'' :: '\'' :: '\'' :: rest)) =
      some (text, rest) := by
  refine linesString?_of_content rfl (by decide) (rawContent_of_longestRun few)
    (decode?_of_plain ?_ (Nat.le_refl _)) ended ?_
  · exact fun character member => (plain character member).imp_right fun isBreak => ⟨rfl, isBreak⟩
  obtain starts | ⟨starts, noBreak⟩ := opening_cases text
  · exact .inl starts
  refine .inr ⟨starts, ?_⟩
  cases text with
  | nil => rfl
  | cons character text =>
    have head := (plain character List.mem_cons_self).resolve_right fun isBreak =>
      noBreak (isBreak ▸ List.mem_cons_self)
    exact newline?_cons_of_isPlain head _

end Strings

/-! ### Keys -/

theorem skipSpaces_cons {character : Char} (noSpace : isSpace character = false)
    (rest : List Char) : skipSpaces (character :: rest) = character :: rest :=
  List.dropWhile_cons_of_neg (by rw [noSpace]; decide)

/-- A key that stands without quotes is read up to the first character that cannot be part of it. -/
theorem simpleKey?_bare {key rest : List Char} (notEmpty : key ≠ [])
    (bare : ∀ character ∈ key, isBare character = true)
    (ended : rest.head?.any isBare = false) :
    simpleKey? (key ++ rest) = some (String.ofList key, rest) := by
  have taken : rest.takeWhile isBare = [] ∧ rest.dropWhile isBare = rest := by
    cases rest with
    | nil => exact ⟨rfl, rfl⟩
    | cons first later =>
      have ends : ¬ isBare first = true := by
        rw [show isBare first = false from ended]
        decide
      exact ⟨List.takeWhile_cons_of_neg ends, List.dropWhile_cons_of_neg ends⟩
  unfold simpleKey?
  split
  · next same =>
    obtain ⟨first, later, rfl⟩ := List.exists_cons_of_ne_nil notEmpty
    obtain ⟨rfl, _⟩ := List.cons.inj same
    exact absurd (bare '"' List.mem_cons_self) (by decide)
  · next same =>
    obtain ⟨first, later, rfl⟩ := List.exists_cons_of_ne_nil notEmpty
    obtain ⟨rfl, _⟩ := List.cons.inj same
    exact absurd (bare '\'' List.mem_cons_self) (by decide)
  · rw [List.takeWhile_append_of_pos bare, List.dropWhile_append_of_pos bare, taken.1, taken.2,
      List.append_nil]
    simp [notEmpty]

/-- The forms of a key. -/
theorem keyText_cases (key : String) :
    (key.toList ≠ [] ∧ (∀ character ∈ key.toList, isBare character = true) ∧
        keyText key = key.toList) ∨
      keyText key = '"' :: escapeAll false 0 key.toList ++ ['"'] ∨
      (∀ character ∈ key.toList, isPlain character = true) ∧ '\'' ∉ key.toList ∧
        keyText key = '\'' :: key.toList ++ ['\''] := by
  unfold keyText
  dsimp only
  split
  · next bare =>
    refine .inl ⟨?_, ?_, rfl⟩
    · rintro empty
      simp [empty] at bare
    · simpa using And.right (by simpa using bare)
  split
  · exact .inr (.inl rfl)
  split
  · next literal =>
    refine .inr (.inr ⟨?_, ?_, rfl⟩)
    · simpa using And.left (by simpa using literal)
    · simpa using And.right (by simpa using literal)
  · exact .inr (.inl rfl)

/-- A part of a key is read back. -/
theorem simpleKey?_keyText (key : String) {rest : List Char}
    (ended : rest.head?.any isBare = false) :
    simpleKey? (keyText key ++ rest) = some (key, rest) := by
  obtain ⟨notEmpty, bare, written⟩ | written | ⟨plain, free, written⟩ := keyText_cases key
  · rw [written, simpleKey?_bare notEmpty bare ended, String.ofList_toList]
  · rw [written, List.append_assoc, List.cons_append, simpleKey?]
    rw [List.singleton_append, lineString?_escapeAll, Option.map_some, String.ofList_toList]
  · rw [written, List.append_assoc, List.cons_append, simpleKey?]
    rw [List.singleton_append, lineString?_literal plain (longestRun_eq_zero free), Option.map_some,
      String.ofList_toList]

/-- Whether a key may start with a character. -/
def startsKey (character : Char) : Bool :=
  isBare character || character = '"' || character = '\''

theorem keyText_head (key : String) :
    ∃ first later, keyText key = first :: later ∧ startsKey first = true := by
  obtain ⟨notEmpty, bare, written⟩ | written | ⟨_, _, written⟩ := keyText_cases key
  · obtain ⟨first, later, same⟩ := List.exists_cons_of_ne_nil notEmpty
    refine ⟨first, later, written.trans same, ?_⟩
    rw [startsKey, bare first (same ▸ List.mem_cons_self)]
    rfl
  · exact ⟨_, _, written, rfl⟩
  · exact ⟨_, _, written, rfl⟩

theorem ne_of_startsKey {first other : Char} (starts : startsKey first = true)
    (never : startsKey other = false) : first ≠ other := by
  rintro rfl
  rw [never] at starts
  cases starts

theorem isSpace_of_startsKey {first : Char} (starts : startsKey first = true) :
    isSpace first = false := by
  simp [isSpace, ne_of_startsKey starts (by decide : startsKey ' ' = false),
    ne_of_startsKey starts (by decide : startsKey '\t' = false)]

/-- Nothing is skipped in front of a key. -/
theorem skipSpaces_keyText_append (key : String) (rest : List Char) :
    skipSpaces (keyText key ++ rest) = keyText key ++ rest := by
  obtain ⟨first, later, written, starts⟩ := keyText_head key
  rw [written]
  exact skipSpaces_cons (isSpace_of_startsKey starts) _

theorem pathText_cons (key next : String) (path : List String) :
    pathText (key :: next :: path) = keyText key ++ '.' :: pathText (next :: path) := by
  rw [pathText, List.map_cons, List.map_cons, List.intercalate_cons_cons, List.append_assoc]
  rfl

theorem pathText_singleton (key : String) : pathText [key] = keyText key :=
  List.intercalate_singleton

theorem pathText_head {path : List String} (notEmpty : path ≠ []) :
    ∃ first later, pathText path = first :: later ∧ startsKey first = true := by
  obtain ⟨key, path, rfl⟩ := List.exists_cons_of_ne_nil notEmpty
  obtain ⟨first, later, written, starts⟩ := keyText_head key
  cases path with
  | nil => exact ⟨first, later, (pathText_singleton key).trans written, starts⟩
  | cons next path =>
    rw [pathText_cons, written]
    exact ⟨_, _, rfl, starts⟩

/-- A key with its parts is read back, up to something that cannot be part of it. Spaces behind it
are read as well. -/
theorem path?_pathText {path : List String} (notEmpty : path ≠ []) {parts : Nat}
    (shallow : path.length ≤ parts) {rest : List Char}
    (ended : rest.head?.any isBare = false)
    (ends : (skipSpaces rest).head? ≠ some '.') :
    path? parts (pathText path ++ rest) = some (path, skipSpaces rest) := by
  induction path generalizing parts with
  | nil => exact absurd rfl notEmpty
  | cons key path inductionHypothesis =>
    obtain ⟨parts, rfl⟩ : ∃ left, parts = left + 1 := ⟨parts - 1, by simp at shallow; omega⟩
    cases path with
    | nil =>
      have read := simpleKey?_keyText key ended
      rw [pathText_singleton, path?, skipSpaces_keyText_append, read]
      dsimp only
      split
      · next same => exact absurd (congrArg List.head? same) ends
      · rfl
    | cons next path =>
      have later := inductionHypothesis (List.cons_ne_nil _ _) (Nat.le_of_succ_le_succ shallow)
      have read := @simpleKey?_keyText key ('.' :: (pathText (next :: path) ++ rest)) rfl
      rw [pathText_cons, List.append_assoc, List.cons_append, path?, skipSpaces_keyText_append,
        read]
      dsimp only
      rw [skipSpaces_cons (by decide)]
      exact congrArg (Option.map fun path => (key :: path.1, path.2)) later

end Toml

end Gatekeeper
