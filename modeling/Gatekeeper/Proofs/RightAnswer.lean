/-
This file proves who passes a captcha with the right answer. Blanks are stripped from the answer
that is handed in and not from the one that the captcha was issued with. So the right answer passes,
in letters of either case and with any blanks around it, exactly when the captcha was issued with an
answer that neither starts nor ends with a blank; with any other answer nobody ever passes.

What else is asked of the desk in the meantime does not matter as long as the identifier is not
handed in and no other captcha is issued under it, for which all running numbers would have to be
used up.
-/
import Gatekeeper.Proofs.SingleUse
import Mathlib.Data.List.DropRight

namespace Gatekeeper

/-! ### Blanks around a text -/

namespace Blank

/-- The text neither starts nor ends with a blank. -/
def Bare (text : List Char) : Prop :=
  (∀ first ∈ text.head?, isBlank first = false) ∧ ∀ last ∈ text.getLast?, isBlank last = false

theorem strip_eq_rdropWhile (text : List Char) :
    strip text = (text.dropWhile isBlank).rdropWhile isBlank := rfl

theorem strip_sublist (text : List Char) : (strip text).Sublist text :=
  (List.rdropWhile_prefix isBlank _).sublist.trans (List.dropWhile_suffix isBlank).sublist

/-- A text is bare exactly when there is nothing to strip. -/
theorem strip_eq_self_iff (text : List Char) : strip text = text ↔ Bare text := by
  have front : text.dropWhile isBlank = text ↔ ∀ first ∈ text.head?, isBlank first = false := by
    cases text with
    | nil => simp
    | cons first rest => simp [List.dropWhile_eq_self_iff]
  have back : text.rdropWhile isBlank = text ↔ ∀ last ∈ text.getLast?, isBlank last = false := by
    rw [List.rdropWhile_eq_self_iff]
    cases text with
    | nil => simp
    | cons first rest => simp [List.getLast?_eq_some_getLast]
  rw [Bare, ← front, ← back, strip_eq_rdropWhile]
  constructor
  · intro same
    have shorter := (List.rdropWhile_prefix isBlank (text.dropWhile isBlank)).sublist.length_le
    rw [same] at shorter
    have whole := (List.dropWhile_suffix isBlank).sublist.eq_of_length_le shorter
    rw [whole] at same
    exact ⟨whole, same⟩
  · rintro ⟨nothingBefore, nothingBehind⟩
    rw [nothingBefore, nothingBehind]

/-- Blanks around a text are stripped with those that the text has itself. -/
theorem strip_append {front back : List Char} (leading : ∀ blank ∈ front, isBlank blank = true)
    (trailing : ∀ blank ∈ back, isBlank blank = true) (text : List Char) :
    strip (front ++ text ++ back) = strip text := by
  unfold strip
  rw [List.append_assoc, List.dropWhile_append_of_pos leading, List.dropWhile_append]
  split
  · next gone =>
    rw [List.isEmpty_iff.mp gone, List.dropWhile_eq_nil_iff.mpr trailing]
  · rw [List.reverse_append, List.dropWhile_append_of_pos]
    exact fun blank member => trailing blank (List.mem_reverse.mp member)

/-! ### Letters of either case -/

theorem isBlank_of_printed {character : Char} (least : 0x20 < character.toNat)
    (most : character.toNat < 0x85) : isBlank character = false := by
  simp only [isBlank, ranges, List.any_cons, List.any_nil, Bool.or_false, Bool.or_eq_false_iff,
    Bool.and_eq_false_iff, decide_eq_false_iff_not]
  omega

theorem isBlank_toLower (character : Char) : isBlank character.toLower = isBlank character := by
  by_cases upper : 'A'.val ≤ character.val ∧ character.val ≤ 'Z'.val
  · have least : 65 ≤ character.toNat := UInt32.le_iff_toNat_le.mp upper.1
    have most : character.toNat ≤ 90 := UInt32.le_iff_toNat_le.mp upper.2
    have lower : character.toLower.toNat = character.toNat + 32 := by
      refine (congrArg Char.toNat (dif_pos upper)).trans ?_
      show (character.val + ('a'.val - 'A'.val)).toNat = character.toNat + 32
      rw [UInt32.toNat_add]
      exact Nat.mod_eq_of_lt (show character.toNat + 32 < 4294967296 by omega)
    rw [isBlank_of_printed (by omega) (by omega), isBlank_of_printed (by omega) (by omega)]
  · exact congrArg isBlank (dif_neg upper)

theorem strip_map_toLower (text : List Char) :
    strip (text.map Char.toLower) = (strip text).map Char.toLower := by
  have same : isBlank ∘ Char.toLower = isBlank := funext isBlank_toLower
  simp only [strip, List.dropWhile_map, same, ← List.map_reverse]

/-- Somebody writes the text down like this: in letters of either case, and with any blanks around
it. -/
def Renders (text written : List Char) : Prop :=
  ∃ front kept back, written = front ++ kept ++ back ∧
    (∀ blank ∈ front, isBlank blank = true) ∧ (∀ blank ∈ back, isBlank blank = true) ∧
    sameButCase text kept = true

/-- Stripped of its blanks, what somebody has written down is the text again exactly when the text
has none of its own. -/
theorem sameButCase_strip_iff {text written : List Char} (renders : Renders text written) :
    sameButCase text (strip written) = true ↔ Bare text := by
  obtain ⟨front, kept, back, rfl, leading, trailing, same⟩ := renders
  have lowered : text.map Char.toLower = kept.map Char.toLower := of_decide_eq_true same
  have stripped : (strip kept).map Char.toLower = (strip text).map Char.toLower := by
    rw [← strip_map_toLower, ← strip_map_toLower, lowered]
  rw [strip_append leading trailing, sameButCase, decide_eq_true_iff, stripped,
    ← strip_eq_self_iff]
  constructor
  · intro equal
    have lengths := congrArg List.length equal
    rw [List.length_map, List.length_map] at lengths
    exact (strip_sublist text).eq_of_length lengths.symm
  · intro equal
    rw [equal]

end Blank

namespace CaptchaDesk

/-! ### Captchas that stay at the desk -/

section Issue

variable {desk : CaptchaDesk} {now : Instant}

/-- What a desk does when it issues a captcha. -/
theorem issue_of_some {expiresAt : Instant} (ends : now.after? desk.life = some expiresAt)
    (user : String) (kind : ActionKind) (answer : String) :
    let id := identifier desk.salt desk.sequence
    desk.issue now user kind answer =
      (.ok id, { desk with
        sequence := desk.sequence + 1
        issued := desk.issued.insert id ⟨user, kind, answer, expiresAt⟩ }) := by
  simp only [issue, ends]

/-- Nothing is issued where the end of the captcha's life cannot be represented, and only a running
number is used up. -/
theorem issue_of_none (beyond : now.after? desk.life = none) (user : String) (kind : ActionKind)
    (answer : String) :
    desk.issue now user kind answer =
      (.error .expiryOverflow, { desk with sequence := desk.sequence + 1 }) := by
  simp only [issue, beyond]

end Issue

/-- Somebody hands this identifier in. -/
def Question.presents (id : String) : Question → Bool
  | verify _ _ token => token.id = id
  | _ => false

namespace History

variable {history : History} {now : Instant} {question : Question} {id : String}

theorem entries_ask (history : History) (now : Instant) (question : Question) :
    ∃ entry, (history.ask now question).entries = entry :: history.entries := by
  cases question <;> exact ⟨_, rfl⟩

theorem mem_after_of_mem {entry : Entry} (member : entry ∈ history.entries)
    (questions : List (Instant × Question)) : entry ∈ (history.after questions).entries := by
  induction questions generalizing history with
  | nil => exact member
  | cons question rest inductionHypothesis =>
    obtain ⟨next, asked⟩ := entries_ask history question.1 question.2
    exact inductionHypothesis (asked ▸ List.mem_cons_of_mem _ member)

/-- A captcha whose life has not ended stays at the desk until its identifier is handed in or
issued anew. -/
theorem ask_keeps {captcha : IssuedCaptcha}
    (found : history.desk.issued.get? id = some captcha) (unused : question.presents id = false)
    (unissued : ∀ entry ∈ (history.ask now question).entries, entry.issues id = false)
    (early : now.nanos < captcha.expiresAt.nanos) :
    (history.ask now question).desk.issued.get? id = some captcha := by
  cases question with
  | issue user kind answer =>
    have other := unissued _ List.mem_cons_self
    dsimp only [ask]
    cases within : now.after? history.desk.life with
    | none =>
      rw [issue_of_none within]
      exact found
    | some expiresAt =>
      rw [issue_of_some within] at other ⊢
      have apart : identifier history.desk.salt history.desk.sequence ≠ id :=
        of_decide_eq_false other
      exact (KeyedStore.get?_insert_of_ne _ _ apart.symm).trans found
  | verify user kind token =>
    have apart : token.id ≠ id := of_decide_eq_false unused
    exact (KeyedStore.get?_erase_of_ne _ apart.symm).trans found
  | purge =>
    refine (KeyedStore.get?_purge _ _ id).trans ?_
    rw [found, Option.filter_eq_some_iff]
    refine ⟨rfl, ?_⟩
    simpa [IssuedCaptcha.isExpired, Instant.le_iff] using early

theorem after_keeps {captcha : IssuedCaptcha} {questions : List (Instant × Question)}
    (found : history.desk.issued.get? id = some captcha)
    (unused : ∀ question ∈ questions, question.2.presents id = false)
    (unissued : ∀ entry ∈ (history.after questions).entries, entry.issues id = false)
    (early : ∀ question ∈ questions, question.1.nanos < captcha.expiresAt.nanos) :
    (history.after questions).desk.issued.get? id = some captcha := by
  induction questions generalizing history with
  | nil => exact found
  | cons question rest inductionHypothesis =>
    obtain ⟨unusedNow, unusedLater⟩ := List.forall_mem_cons.mp unused
    obtain ⟨earlyNow, earlyLater⟩ := List.forall_mem_cons.mp early
    have unissuedNow : ∀ entry ∈ (history.ask question.1 question.2).entries,
        entry.issues id = false :=
      fun entry member => unissued entry (mem_after_of_mem member rest)
    exact inductionHypothesis (ask_keeps found unusedNow unissuedNow earlyNow) unusedLater
      unissued earlyLater

/-! ### Running numbers -/

theorem salt_ask (history : History) (now : Instant) (question : Question) :
    (history.ask now question).desk.salt = history.desk.salt := by
  cases question with
  | issue user kind answer =>
    dsimp only [ask]
    cases within : now.after? history.desk.life with
    | none => rw [issue_of_none within]
    | some expiresAt => rw [issue_of_some within]
  | verify user kind token => rfl
  | purge => rfl

/-- Each captcha takes the next running number, and after the last one the first again. -/
theorem number_ask (history : History) (now : Instant) (question : Question) :
    (history.ask now question).desk.sequence =
      history.desk.sequence + UInt64.ofNat (if question.isIssue then 1 else 0) := by
  cases question with
  | issue user kind answer =>
    dsimp only [ask]
    cases within : now.after? history.desk.life with
    | none =>
      rw [issue_of_none within]
      rfl
    | some expiresAt =>
      rw [issue_of_some within]
      rfl
  | verify user kind token => exact (UInt64.add_zero _).symm
  | purge => exact (UInt64.add_zero _).symm

/-- While fewer numbers than there are have been used since, a number does not come round again. -/
theorem ask_unissued {first : UInt64} {used : Nat} (positive : 0 < used)
    (few : used < UInt64.size ∨ question.isIssue = false)
    (number : history.desk.sequence = first + UInt64.ofNat used)
    (unissued : ∀ entry ∈ history.entries,
      entry.issues (identifier history.desk.salt first) = false) :
    ∀ entry ∈ (history.ask now question).entries,
      entry.issues (identifier history.desk.salt first) = false := by
  cases question with
  | issue user kind answer =>
    refine List.forall_mem_cons.mpr ⟨?_, unissued⟩
    have left := few.resolve_right nofun
    have apart : identifier history.desk.salt history.desk.sequence ≠
        identifier history.desk.salt first := by
      intro same
      have back := identifier_injective history.desk.salt same
      rw [number] at back
      have none : UInt64.ofNat used = 0 := by simpa using back
      have remainder := congrArg UInt64.toNat none
      rw [UInt64.toNat_ofNat_of_lt' left] at remainder
      exact absurd remainder (Nat.ne_of_gt positive)
    cases within : now.after? history.desk.life with
    | none =>
      rw [issue_of_none within]
      rfl
    | some expiresAt =>
      rw [issue_of_some within]
      exact decide_eq_false apart
  | verify user kind token => exact List.forall_mem_cons.mpr ⟨rfl, unissued⟩
  | purge => exact List.forall_mem_cons.mpr ⟨rfl, unissued⟩

theorem after_unissued {first : UInt64} (used : Nat) {questions : List (Instant × Question)}
    (positive : 0 < used)
    (few : used + questions.countP (fun question => question.2.isIssue) ≤ UInt64.size)
    (number : history.desk.sequence = first + UInt64.ofNat used)
    (unissued : ∀ entry ∈ history.entries,
      entry.issues (identifier history.desk.salt first) = false) :
    ∀ entry ∈ (history.after questions).entries,
      entry.issues (identifier history.desk.salt first) = false := by
  induction questions generalizing history used with
  | nil => exact unissued
  | cons question rest inductionHypothesis =>
    rw [List.countP_cons] at few
    have left : used < UInt64.size ∨ question.2.isIssue = false := by
      cases issue : question.2.isIssue with
      | true =>
        rw [issue, if_pos rfl] at few
        exact .inl (by omega)
      | false => exact .inr rfl
    have asked : ∀ entry ∈ (history.ask question.1 question.2).entries,
        entry.issues (identifier history.desk.salt first) = false :=
      ask_unissued positive left number unissued
    rw [← salt_ask history question.1 question.2] at asked ⊢
    refine inductionHypothesis (used + if question.2.isIssue then 1 else 0) (by omega) (by omega)
      ?_ asked
    rw [number_ask, number, UInt64.add_assoc, UInt64.ofNat_add]

/-! ### Right answers -/

/-- Whatever is asked of a desk before and after it issues a captcha, the right answer passes while
its life lasts and its identifier has not been handed in, whatever case its letters are in and
whatever blanks are around it, exactly when the captcha was issued with an answer that has no blanks
at its ends. That is so unless another captcha has been issued under the same identifier, which
takes as many captchas as there are running numbers. -/
theorem right_answer_passes_iff (desk : CaptchaDesk) (issuedAt : Instant) (user : String)
    (kind : ActionKind) (answer : String)
    (issued : (desk.issue issuedAt user kind answer).1 = .ok id)
    (between : List (Instant × Question)) (now : Instant)
    (ordered : ∀ question ∈ between, question.1 ≤ now)
    (unused : ∀ question ∈ between, question.2.presents id = false)
    (early : now.nanos < issuedAt.nanos + desk.life.nanos) (written : String)
    (renders : Blank.Renders answer.toList written.toList) :
    let history := (History.mk (desk.issue issuedAt user kind answer).2 []).after between
    ((∀ entry ∈ history.entries, entry.issues id = false) →
        ((history.desk.verify now user kind ⟨id, written⟩).1 = true ↔
          Blank.Bare answer.toList)) ∧
      (between.countP (fun question => question.2.isIssue) < UInt64.size →
        ∀ entry ∈ history.entries, entry.issues id = false) := by
  cases within : issuedAt.after? desk.life with
  | none =>
    rw [issue_of_none within] at issued
    cases issued
  | some expiresAt =>
    have ends := ((Instant.after?_eq_some_iff _ _ _).mp within).1
    rw [issue_of_some within] at issued ⊢
    cases issued
    intro history
    refine ⟨fun unissued => ?_, fun few => ?_⟩
    · have stays : history.desk.issued.get? (identifier desk.salt desk.sequence) =
          some ⟨user, kind, answer, expiresAt⟩ := by
        refine after_keeps (KeyedStore.get?_insert_self _ _ _) unused unissued ?_
        intro question member
        have before := (Instant.le_iff _ _).mp (ordered question member)
        show question.1.nanos < expiresAt.nanos
        omega
      have notExpired : IssuedCaptcha.isExpired ⟨user, kind, answer, expiresAt⟩ now = false := by
        refine decide_eq_false fun late => ?_
        have late : expiresAt.nanos ≤ now.nanos := late
        omega
      rw [← Blank.sameButCase_strip_iff renders]
      unfold verify KeyedStore.take
      dsimp only
      rw [stays]
      simp [IssuedCaptcha.accepts, notExpired]
    · exact after_unissued 1 Nat.one_pos (by omega) rfl nofun

/-- The right answer passes in other letters and between blanks, after captchas have been issued to
others, answered wrongly and dropped. -/
theorem right_answer_passes_between_blanks :
    let salt (sequence : UInt64) : UInt64 := sequence
    let desk := CaptchaDesk.ofLife ⟨10⟩ salt
    let ada := identifier salt 0
    let between : List (Instant × Question) :=
      [(⟨2⟩, .issue "bob" .vote "7"), (⟨3⟩, .verify "ada" .question ⟨identifier salt 1, "Xy 7k"⟩),
        (⟨5⟩, .purge)]
    let history := (History.mk (desk.issue ⟨1⟩ "ada" .question "Xy 7k").2 []).after between
    (desk.issue ⟨1⟩ "ada" .question "Xy 7k").1 = .ok ada ∧
      (history.desk.verify ⟨10⟩ "ada" .question ⟨ada, " xY 7K\n"⟩).1 = true := by
  intro salt desk ada between history
  have issued : (desk.issue ⟨1⟩ "ada" .question "Xy 7k").1 = .ok ada := by decide +kernel
  have ordered : ∀ question ∈ between, question.1 ≤ ⟨10⟩ := by decide
  have unused : ∀ question ∈ between, question.2.presents ada = false := by decide +kernel
  have renders : Blank.Renders "Xy 7k".toList " xY 7K\n".toList :=
    ⟨[' '], "xY 7K".toList, ['\n'], by decide, List.forall_mem_singleton.mpr (by decide),
      List.forall_mem_singleton.mpr (by decide), by decide⟩
  obtain ⟨passes, unissued⟩ := right_answer_passes_iff desk ⟨1⟩ "ada" .question "Xy 7k" issued
    between ⟨10⟩ ordered unused (by decide) " xY 7K\n" renders
  refine ⟨issued, (passes (unissued (by decide))).mpr ?_⟩
  rw [← Blank.strip_eq_self_iff]
  decide

/-- Handed in just as it was issued, an answer that starts with a blank does not pass. -/
theorem blank_in_front_fails :
    let salt (sequence : UInt64) : UInt64 := sequence
    let issued := (CaptchaDesk.ofLife ⟨10⟩ salt).issue ⟨1⟩ "ada" .question " 42"
    issued.1 = .ok (identifier salt 0) ∧
      (issued.2.verify ⟨2⟩ "ada" .question ⟨identifier salt 0, " 42"⟩).1 = false := by
  decide +kernel

end History

end CaptchaDesk

end Gatekeeper
