/-
This file reads the answers of a captcha desk off its history. An answer passes exactly when its
captcha was issued under the identifier it comes with, to the same user and for the same kind, when
nobody has handed the identifier in since, when the life of the captcha has not ended, and when the
answer is the right one. Handing an identifier in uses it up whatever comes of it, and since no
identifier is ever issued twice, nothing brings it back.

An identifier comes into being when a captcha is issued under it. A text that somebody guesses
before that is no identifier yet, and guessing it uses nothing up.
-/
import Gatekeeper.Captcha
import Gatekeeper.Proofs.HexText

namespace Gatekeeper

namespace CaptchaDesk

/-! ### Identifiers -/

/-- Running numbers alone make identifiers differ, whatever the salt is. -/
theorem identifier_injective (salt : UInt64 → UInt64) {first second : UInt64}
    (same : identifier salt first = identifier salt second) : first = second := by
  have salted (sequence : UInt64) : (Hex.padded 16 (salt sequence).toNat).length = 16 :=
    Hex.length_padded (by decide) (salt sequence).toNat_lt
  have texts := congrArg String.toList same
  rw [identifier, identifier, String.toList_ofList, String.toList_ofList] at texts
  have tails := (List.append_inj texts ((salted first).trans (salted second).symm)).2
  exact UInt64.toNat_inj.mp (Hex.padded_injective 8 tails)

/-- While numbers are left the next one is one more. -/
theorem toNat_succ {sequence : UInt64} (left : sequence.toNat + 1 < UInt64.size) :
    (sequence + 1).toNat = sequence.toNat + 1 := by
  rw [UInt64.toNat_add]
  exact Nat.mod_eq_of_lt left

/-! ### Histories -/

/-- What can be asked of a desk. -/
inductive Question where
  | issue (user : String) (kind : ActionKind) (answer : String)
  | verify (user : String) (kind : ActionKind) (token : CaptchaToken)
  | purge

def Question.isIssue : Question → Bool
  | issue _ _ _ => true
  | _ => false

/-- A question that has been asked, with the reply to it. -/
inductive Entry where
  /-- There is no identifier where the end of the captcha's life cannot be represented. -/
  | issued (now : Instant) (user : String) (kind : ActionKind) (answer : String)
    (id : Option String)
  | verified (now : Instant) (user : String) (kind : ActionKind) (token : CaptchaToken)
    (passed : Bool)
  | purged (now : Instant)
  deriving DecidableEq

namespace Entry

/-- Somebody has handed this identifier in. -/
def presents (id : String) : Entry → Bool
  | verified _ _ _ token _ => token.id = id
  | _ => false

/-- Somebody has handed this identifier in, and has passed. -/
def passes (id : String) : Entry → Bool
  | verified _ _ _ token passed => token.id = id && passed
  | _ => false

theorem presents_of_passes {id : String} {entry : Entry} (passed : entry.passes id = true) :
    entry.presents id = true := by
  cases entry with
  | verified now user kind token right => exact (Bool.and_eq_true_iff.mp passed).1
  | issued now user kind answer other => cases passed
  | purged now => cases passed

/-- A captcha was issued under this identifier. -/
def issues (id : String) : Entry → Bool
  | issued _ _ _ _ (some other) => other = id
  | _ => false

end Entry

/-- A desk and what has been asked of it, the latest first. -/
structure History where
  desk : CaptchaDesk
  entries : List Entry

namespace History

/-- Nothing has been asked of a new desk. -/
def fresh (life : Duration) (salt : UInt64 → UInt64) : History :=
  ⟨.ofLife life salt, []⟩

def ask (history : History) (now : Instant) : Question → History
  | .issue user kind answer =>
    let issued := history.desk.issue now user kind answer
    ⟨issued.2, .issued now user kind answer issued.1.toOption :: history.entries⟩
  | .verify user kind token =>
    let verified := history.desk.verify now user kind token
    ⟨verified.2, .verified now user kind token verified.1 :: history.entries⟩
  | .purge => ⟨(history.desk.purge now).2, .purged now :: history.entries⟩

/-- The history after some more questions, each with its time. -/
def after (history : History) (questions : List (Instant × Question)) : History :=
  questions.foldl (fun history question => history.ask question.1 question.2) history

/-- A captcha was issued under this identifier, and the identifier has not been handed in since. -/
def Outstanding (id : String) (issuedAt : Instant) (user : String) (kind : ActionKind)
    (answer : String) (entries : List Entry) : Prop :=
  ∃ since earlier, entries = since ++ .issued issuedAt user kind answer (some id) :: earlier ∧
    ∀ entry ∈ since, entry.presents id = false

/-- Nobody handed this identifier in before a captcha was issued under it. -/
def Unguessed (id : String) (entries : List Entry) : Prop :=
  ∀ since entry earlier, entries = since ++ entry :: earlier → entry.issues id = true →
    ∀ other ∈ earlier, other.presents id = false

variable {id user answer : String} {kind : ActionKind} {now issuedAt : Instant} {entry : Entry}
  {entries : List Entry} {life : Duration} {salt : UInt64 → UInt64}

theorem outstanding_cons_iff :
    Outstanding id issuedAt user kind answer (entry :: entries) ↔
      entry = .issued issuedAt user kind answer (some id) ∨
        entry.presents id = false ∧ Outstanding id issuedAt user kind answer entries := by
  constructor
  · rintro ⟨since, earlier, split, unused⟩
    cases since with
    | nil => exact .inl (List.cons.inj split).1
    | cons first rest =>
      obtain ⟨rfl, below⟩ := List.cons.inj split
      obtain ⟨unused, others⟩ := List.forall_mem_cons.mp unused
      exact .inr ⟨unused, rest, earlier, below, others⟩
  · rintro (rfl | ⟨unused, since, earlier, rfl, others⟩)
    · exact ⟨[], entries, rfl, nofun⟩
    · exact ⟨entry :: since, earlier, rfl, List.forall_mem_cons.mpr ⟨unused, others⟩⟩

theorem Outstanding.issued (outstanding : Outstanding id issuedAt user kind answer entries) :
    ∃ entry ∈ entries, entry.issues id = true := by
  obtain ⟨since, earlier, rfl, _⟩ := outstanding
  exact ⟨_, List.mem_append_right _ List.mem_cons_self, decide_eq_true rfl⟩

/-- Where an identifier has been handed in, a captcha that is outstanding under it was issued
later. -/
theorem Outstanding.issued_since {later earlier : List Entry}
    (outstanding : Outstanding id issuedAt user kind answer (later ++ entry :: earlier))
    (presented : entry.presents id = true) : ∃ issue ∈ later, issue.issues id = true := by
  induction later with
  | nil =>
    rcases outstanding_cons_iff.mp outstanding with rfl | ⟨unused, _⟩
    · cases presented
    · rw [unused] at presented
      cases presented
  | cons first rest inductionHypothesis =>
    rcases outstanding_cons_iff.mp outstanding with rfl | ⟨_, before⟩
    · exact ⟨_, List.mem_cons_self, decide_eq_true rfl⟩
    · obtain ⟨issue, member, issued⟩ := inductionHypothesis before
      exact ⟨issue, List.mem_cons_of_mem _ member, issued⟩

theorem Outstanding.of_cons_of_unissued (unissued : entry.issues id = false)
    (outstanding : Outstanding id issuedAt user kind answer (entry :: entries)) :
    entry.presents id = false ∧ Outstanding id issuedAt user kind answer entries := by
  rcases outstanding_cons_iff.mp outstanding with rfl | before
  · simp [Entry.issues] at unissued
  · exact before

theorem Outstanding.unissued (unissued : ∀ entry ∈ entries, entry.issues id = false) :
    ¬ Outstanding id issuedAt user kind answer entries := by
  intro outstanding
  obtain ⟨entry, member, issued⟩ := outstanding.issued
  rw [unissued entry member] at issued
  cases issued

/-! ### What holds of the entries -/

/-- No identifier is issued twice or passes twice, and one that passes has been issued before. -/
structure Tidy (entries : List Entry) : Prop where
  /-- An identifier passes only after a captcha has been issued under it. -/
  backed : ∀ id, 0 < entries.countP (Entry.passes id) → ∃ entry ∈ entries, entry.issues id = true
  /-- One that has passed is not outstanding any more. -/
  spent : ∀ id issuedAt user kind answer, Outstanding id issuedAt user kind answer entries →
    entries.countP (Entry.passes id) = 0
  once : ∀ id, entries.countP (Entry.passes id) ≤ 1
  issuedOnce : ∀ id, entries.countP (Entry.issues id) ≤ 1

namespace Tidy

theorem nil : Tidy [] where
  backed _ positive := absurd positive (Nat.lt_irrefl 0)
  spent _ _ _ _ _ _ := rfl
  once _ := Nat.zero_le 1
  issuedOnce _ := Nat.zero_le 1

/-- An entry that issues nothing keeps entries tidy if what passes with it was outstanding. -/
theorem cons_of_unissued (tidy : Tidy entries) (unissued : ∀ id, entry.issues id = false)
    (earned : ∀ id, entry.passes id = true →
      ∃ issuedAt user kind answer, Outstanding id issuedAt user kind answer entries) :
    Tidy (entry :: entries) := by
  refine ⟨fun id positive => ?_, fun id issuedAt user kind answer outstanding => ?_,
    fun id => ?_, fun id => ?_⟩
  · suffices earlier : ∃ other ∈ entries, other.issues id = true by
      obtain ⟨other, member, issued⟩ := earlier
      exact ⟨other, List.mem_cons_of_mem _ member, issued⟩
    cases passed : entry.passes id with
    | true =>
      obtain ⟨issuedAt, user, kind, answer, outstanding⟩ := earned id passed
      exact outstanding.issued
    | false =>
      rw [List.countP_cons_of_neg (Bool.eq_false_iff.mp passed)] at positive
      exact tidy.backed id positive
  · obtain ⟨unused, stood⟩ := outstanding.of_cons_of_unissued (unissued id)
    have unpassed : ¬ entry.passes id = true := fun passed => by
      rw [Entry.presents_of_passes passed] at unused
      cases unused
    rw [List.countP_cons_of_neg unpassed]
    exact tidy.spent id issuedAt user kind answer stood
  · cases passed : entry.passes id with
    | true =>
      obtain ⟨issuedAt, user, kind, answer, outstanding⟩ := earned id passed
      have unspent := tidy.spent id issuedAt user kind answer outstanding
      exact Nat.le_of_eq (by rw [List.countP_cons_of_pos passed, unspent])
    | false =>
      rw [List.countP_cons_of_neg (Bool.eq_false_iff.mp passed)]
      exact tidy.once id
  · rw [List.countP_cons_of_neg (by rw [unissued]; nofun)]
    exact tidy.issuedOnce id

/-- Issuing under a new identifier keeps entries tidy. -/
theorem cons_of_issued (tidy : Tidy entries)
    (unissued : ∀ entry ∈ entries, entry.issues id = false) :
    Tidy (.issued now user kind answer (some id) :: entries) := by
  refine ⟨fun other positive => ?_, fun other issuedAt _ _ _ outstanding => ?_, tidy.once,
    fun other => ?_⟩
  · obtain ⟨entry, member, issued⟩ := tidy.backed other positive
    exact ⟨entry, List.mem_cons_of_mem _ member, issued⟩
  · rcases outstanding_cons_iff.mp outstanding with same | ⟨_, before⟩
    · cases same
      refine Nat.eq_zero_of_not_pos fun positive => ?_
      obtain ⟨entry, member, issued⟩ := tidy.backed id positive
      rw [unissued entry member] at issued
      cases issued
    · exact tidy.spent other issuedAt _ _ _ before
  · rw [List.countP_cons]
    by_cases same : id = other
    · have none : entries.countP (Entry.issues other) = 0 :=
        List.countP_eq_zero.mpr fun entry member => by
          rw [← same, unissued entry member]
          exact Bool.false_ne_true
      rw [none, Nat.zero_add]
      split <;> decide
    · have unissued : Entry.issues other (.issued now user kind answer (some id)) = false :=
        decide_eq_false same
      rw [unissued]
      exact tidy.issuedOnce other

end Tidy

/-! ### What holds of a history -/

/-- The entries are tidy, and the desk holds what is outstanding. -/
structure Sound (life : Duration) (salt : UInt64 → UInt64) (now : Instant) (history : History) :
    Prop extends Tidy history.entries where
  lifetime : history.desk.life = life
  salted : history.desk.salt = salt
  /-- Every identifier belongs to a running number that has been used up. -/
  numbered : ∀ id, ∀ entry ∈ history.entries, entry.issues id = true →
    ∃ number, number < history.desk.sequence.toNat ∧ id = identifier salt (UInt64.ofNat number)
  /-- The desk holds nothing but captchas that are outstanding. -/
  held : ∀ id captcha, history.desk.issued.get? id = some captcha →
    ∃ issuedAt, Outstanding id issuedAt captcha.user captcha.kind captcha.answer history.entries ∧
      captcha.expiresAt.nanos = issuedAt.nanos + life.nanos
  /-- It holds every captcha that is outstanding until the end of its life. -/
  holds : ∀ id issuedAt user kind answer,
    Outstanding id issuedAt user kind answer history.entries →
      now.nanos < issuedAt.nanos + life.nanos →
        history.desk.issued.get? id =
          some ⟨user, kind, answer, ⟨issuedAt.nanos + life.nanos⟩⟩

theorem fresh_sound (life : Duration) (salt : UInt64 → UInt64) (now : Instant) :
    Sound life salt now (fresh life salt) where
  toTidy := .nil
  lifetime := rfl
  salted := rfl
  numbered _ _ member := absurd member List.not_mem_nil
  held _ _ found := nomatch found
  holds _ _ _ _ _ outstanding := by
    obtain ⟨since, earlier, split, _⟩ := outstanding
    cases since <;> cases split

namespace Sound

variable {history : History}

theorem later (sound : Sound life salt now history) {later : Instant}
    (ordered : now.nanos ≤ later.nanos) : Sound life salt later history :=
  { sound with
    holds := fun id issuedAt user kind answer outstanding early =>
      sound.holds id issuedAt user kind answer outstanding (Int.lt_of_le_of_lt ordered early) }

/-- As long as running numbers are left, the next identifier is a new one. -/
theorem unissued (sound : Sound life salt now history)
    (left : history.desk.sequence.toNat + 1 < UInt64.size) :
    ∀ entry ∈ history.entries,
      entry.issues (identifier history.desk.salt history.desk.sequence) = false := by
  intro entry member
  refine Bool.eq_false_iff.mpr fun issued => ?_
  obtain ⟨number, used, same⟩ := sound.numbered _ entry member issued
  rw [sound.salted] at same
  have number := congrArg UInt64.toNat (identifier_injective salt same)
  rw [UInt64.toNat_ofNat_of_lt' (by omega)] at number
  omega

/-- What issues nothing takes captchas out at most: those that are handed in, and those whose life
has ended. -/
theorem cons_of_unissued (sound : Sound life salt now history) {desk : CaptchaDesk}
    (lifetime : desk.life = history.desk.life) (salted : desk.salt = history.desk.salt)
    (sequence : history.desk.sequence.toNat ≤ desk.sequence.toNat)
    (unissued : ∀ id, entry.issues id = false)
    (earned : ∀ id, entry.passes id = true →
      ∃ issuedAt user kind answer, Outstanding id issuedAt user kind answer history.entries)
    (held : ∀ id captcha, desk.issued.get? id = some captcha →
      entry.presents id = false ∧ history.desk.issued.get? id = some captcha)
    (holds : ∀ id captcha, history.desk.issued.get? id = some captcha →
      entry.presents id = false → now.nanos < captcha.expiresAt.nanos →
        desk.issued.get? id = some captcha) :
    Sound life salt now ⟨desk, entry :: history.entries⟩ := by
  refine ⟨sound.toTidy.cons_of_unissued unissued earned, lifetime.trans sound.lifetime,
    salted.trans sound.salted, fun id => ?_, ?_, ?_⟩
  · refine List.forall_mem_cons.mpr ⟨fun issued => ?_, fun other member issued => ?_⟩
    · rw [unissued] at issued
      cases issued
    · obtain ⟨number, used, same⟩ := sound.numbered id other member issued
      exact ⟨number, Nat.lt_of_lt_of_le used sequence, same⟩
  · intro id captcha found
    obtain ⟨unused, stored⟩ := held id captcha found
    obtain ⟨issuedAt, outstanding, ends⟩ := sound.held id captcha stored
    exact ⟨issuedAt, outstanding_cons_iff.mpr (.inr ⟨unused, outstanding⟩), ends⟩
  · intro id issuedAt user kind answer outstanding early
    obtain ⟨unused, stood⟩ := outstanding.of_cons_of_unissued (unissued id)
    exact holds id _ (sound.holds id issuedAt user kind answer stood early) unused early

/-- An answer passes exactly when its captcha is outstanding, still alive, and the answer right. -/
theorem verify_iff (sound : Sound life salt now history) (user : String) (kind : ActionKind)
    (token : CaptchaToken) :
    (history.desk.verify now user kind token).1 = true ↔
      ∃ issuedAt answer, Outstanding token.id issuedAt user kind answer history.entries ∧
        now.nanos < issuedAt.nanos + life.nanos ∧
        sameButCase answer.toList (Blank.strip token.answer.toList) = true := by
  show ((history.desk.issued.get? token.id).any fun captcha =>
    captcha.accepts user kind now token.answer) = true ↔ _
  rw [Option.any_eq_true]
  unfold IssuedCaptcha.accepts IssuedCaptcha.isExpired
  simp only [Instant.le_iff, Bool.and_eq_true, decide_eq_true_eq, Bool.not_eq_true',
    decide_eq_false_iff_not, Int.not_le]
  constructor
  · rintro ⟨captcha, stored, ⟨⟨rfl, rfl⟩, early⟩, right⟩
    obtain ⟨issuedAt, outstanding, ends⟩ := sound.held token.id captcha stored
    exact ⟨issuedAt, captcha.answer, outstanding, ends ▸ early, right⟩
  · rintro ⟨issuedAt, answer, outstanding, early, right⟩
    exact ⟨_, sound.holds token.id issuedAt user kind answer outstanding early,
      ⟨⟨rfl, rfl⟩, early⟩, right⟩

/-- An identifier that has been issued and handed in is used up for good: no captcha is ever issued
under it again. -/
theorem verify_used (sound : Sound life salt now history) {later earlier : List Entry}
    (user : String) (kind : ActionKind) {token : CaptchaToken}
    (split : history.entries = later ++ entry :: earlier)
    (presented : entry.presents token.id = true)
    (issued : ∃ issue ∈ earlier, issue.issues token.id = true) :
    (history.desk.verify now user kind token).1 = false := by
  refine Bool.eq_false_iff.mpr fun passed => ?_
  obtain ⟨issuedAt, answer, outstanding, _⟩ := (sound.verify_iff user kind token).mp passed
  rw [split] at outstanding
  have since := List.countP_pos_iff.mpr (outstanding.issued_since presented)
  have before := List.countP_pos_iff.mpr issued
  have once := sound.issuedOnce token.id
  rw [split, List.countP_append, List.countP_cons] at once
  omega

theorem ask_verify (sound : Sound life salt now history) (user : String) (kind : ActionKind)
    (token : CaptchaToken) :
    Sound life salt now (history.ask now (.verify user kind token)) := by
  show Sound life salt now ⟨{ history.desk with issued := history.desk.issued.erase token.id },
    .verified now user kind token (history.desk.verify now user kind token).1 :: history.entries⟩
  refine sound.cons_of_unissued rfl rfl (Nat.le_refl _) (fun _ => rfl) (fun id passed => ?_)
    (fun id captcha found => ?_) fun id captcha stored unused _ => ?_
  · obtain ⟨same, right⟩ := Bool.and_eq_true_iff.mp passed
    obtain ⟨issuedAt, answer, outstanding, _⟩ := (sound.verify_iff user kind token).mp right
    rw [of_decide_eq_true same] at outstanding
    exact ⟨issuedAt, user, kind, answer, outstanding⟩
  · have kept : (history.desk.issued.erase token.id).get? id = some captcha := found
    rw [KeyedStore.get?_erase] at kept
    by_cases same : id = token.id
    · rw [if_pos same] at kept
      cases kept
    · rw [if_neg same] at kept
      exact ⟨decide_eq_false (Ne.symm same), kept⟩
  · have apart : id ≠ token.id := Ne.symm (of_decide_eq_false unused)
    exact (KeyedStore.get?_erase_of_ne _ apart).trans stored

theorem ask_purge (sound : Sound life salt now history) :
    Sound life salt now (history.ask now .purge) := by
  have kept (id : String) : (history.desk.purge now).2.issued.get? id =
      (history.desk.issued.get? id).filter fun captcha => !captcha.isExpired now :=
    KeyedStore.get?_purge _ _ id
  show Sound life salt now ⟨(history.desk.purge now).2, .purged now :: history.entries⟩
  refine sound.cons_of_unissued rfl rfl (Nat.le_refl _) (fun _ => rfl) (fun _ passed => ?_)
    (fun id captcha found => ?_) fun id captcha stored _ early => ?_
  · cases passed
  · rw [kept, Option.filter_eq_some_iff] at found
    exact ⟨rfl, found.1⟩
  · rw [kept, Option.filter_eq_some_iff]
    refine ⟨stored, ?_⟩
    simpa [IssuedCaptcha.isExpired, Instant.le_iff] using early

/-- A captcha is issued under an identifier that none was issued under before. -/
theorem cons_of_issued (sound : Sound life salt now history)
    (left : history.desk.sequence.toNat + 1 < UInt64.size) (user : String) (kind : ActionKind)
    (answer : String) {expiresAt : Instant} (ends : expiresAt.nanos = now.nanos + life.nanos) :
    let id := identifier history.desk.salt history.desk.sequence
    Sound life salt now
      ⟨{ history.desk with
          sequence := history.desk.sequence + 1
          issued := history.desk.issued.insert id ⟨user, kind, answer, expiresAt⟩ },
        .issued now user kind answer (some id) :: history.entries⟩ := by
  intro id
  have unissued := sound.unissued left
  have next := toNat_succ left
  refine ⟨sound.toTidy.cons_of_issued unissued, sound.lifetime, sound.salted, fun other => ?_,
    ?_, ?_⟩
  · refine List.forall_mem_cons.mpr ⟨fun issued => ?_, fun entry member issued => ?_⟩
    · refine ⟨history.desk.sequence.toNat, ?_, ?_⟩
      · show _ < (history.desk.sequence + 1).toNat
        omega
      · rw [UInt64.ofNat_toNat, ← sound.salted]
        exact (of_decide_eq_true issued).symm
    · obtain ⟨number, used, same⟩ := sound.numbered other entry member issued
      refine ⟨number, ?_, same⟩
      show _ < (history.desk.sequence + 1).toNat
      omega
  · intro other captcha found
    rw [KeyedStore.get?_insert] at found
    by_cases same : other = id
    · rw [if_pos same] at found
      cases found
      exact ⟨now, outstanding_cons_iff.mpr (.inl (by rw [same])), ends⟩
    · rw [if_neg same] at found
      obtain ⟨issuedAt, outstanding, ends⟩ := sound.held other captcha found
      exact ⟨issuedAt, outstanding_cons_iff.mpr (.inr ⟨rfl, outstanding⟩), ends⟩
  · intro other issuedAt _ _ _ outstanding early
    rw [KeyedStore.get?_insert]
    rcases outstanding_cons_iff.mp outstanding with issued | ⟨_, before⟩
    · cases issued
      rw [if_pos rfl]
      cases expiresAt
      cases ends
      rfl
    · rw [if_neg fun same => Outstanding.unissued unissued (same ▸ before)]
      exact sound.holds other issuedAt _ _ _ before early

theorem ask_issue (sound : Sound life salt now history)
    (left : history.desk.sequence.toNat + 1 < UInt64.size) (user : String) (kind : ActionKind)
    (answer : String) : Sound life salt now (history.ask now (.issue user kind answer)) := by
  unfold ask issue
  dsimp only
  cases within : now.after? history.desk.life with
  | none =>
    refine sound.cons_of_unissued rfl rfl ?_ (fun _ => rfl) nofun (fun _ _ found => ⟨rfl, found⟩)
      fun _ _ stored _ _ => stored
    show _ ≤ (history.desk.sequence + 1).toNat
    rw [toNat_succ left]
    exact Nat.le_succ _
  | some expiresAt =>
    have ends := ((Instant.after?_eq_some_iff _ _ _).mp within).1
    exact sound.cons_of_issued left user kind answer (sound.lifetime ▸ ends)

/-- One question keeps a history sound as long as running numbers are left. -/
theorem ask (sound : Sound life salt now history) {question : Question}
    (left : question.isIssue = true → history.desk.sequence.toNat + 1 < UInt64.size) :
    Sound life salt now (history.ask now question) := by
  cases question with
  | issue user kind answer => exact sound.ask_issue (left rfl) user kind answer
  | verify user kind token => exact sound.ask_verify user kind token
  | purge => exact sound.ask_purge

end Sound

/-- Only issuing uses up a running number, and one at a time. -/
theorem sequence_ask {history : History} {question : Question}
    (left : question.isIssue = true → history.desk.sequence.toNat + 1 < UInt64.size) :
    (history.ask now question).desk.sequence.toNat =
      history.desk.sequence.toNat + if question.isIssue then 1 else 0 := by
  cases question with
  | issue user kind answer =>
    refine Eq.trans (congrArg UInt64.toNat ?_) (toNat_succ (left rfl))
    unfold History.ask issue
    dsimp only
    cases now.after? history.desk.life <;> rfl
  | verify user kind token => rfl
  | purge => rfl

/-- A history stays sound as long as time does not go back and running numbers are left. -/
theorem after_sound {history : History} {questions : List (Instant × Question)} (now : Instant)
    (ordered : (questions.map Prod.fst ++ [now]).Pairwise (· ≤ ·))
    (few : history.desk.sequence.toNat +
      questions.countP (fun question => question.2.isIssue) < UInt64.size)
    (sound : ∀ time ∈ questions.map Prod.fst ++ [now], Sound life salt time history) :
    Sound life salt now (history.after questions) := by
  induction questions generalizing history with
  | nil => exact sound now List.mem_cons_self
  | cons question rest inductionHypothesis =>
    obtain ⟨first, others⟩ := List.pairwise_cons.mp ordered
    have left : question.2.isIssue = true →
        history.desk.sequence.toNat + 1 < UInt64.size := by
      intro issue
      rw [List.countP_cons_of_pos (by exact issue)] at few
      omega
    have asked := (sound question.1 List.mem_cons_self).ask left
    refine inductionHypothesis others ?_ fun time member => asked.later (first time member)
    rw [sequence_ask left]
    rw [List.countP_cons] at few
    omega

/-! ### Captchas that can be answered -/

/-- Where nobody guesses an identifier, a captcha is outstanding when it was issued and nobody has
ever handed its identifier in. -/
theorem outstanding_iff_of_unguessed (unguessed : Unguessed id entries) :
    Outstanding id issuedAt user kind answer entries ↔
      .issued issuedAt user kind answer (some id) ∈ entries ∧
        ∀ entry ∈ entries, entry.presents id = false := by
  constructor
  · rintro ⟨since, earlier, rfl, unused⟩
    refine ⟨List.mem_append_right _ List.mem_cons_self, fun entry member => ?_⟩
    rcases List.mem_append.mp member with later | rest
    · exact unused entry later
    · rcases List.mem_cons.mp rest with rfl | before
      · rfl
      · exact unguessed since _ earlier rfl (decide_eq_true rfl) entry before
  · rintro ⟨member, unused⟩
    obtain ⟨since, earlier, rfl⟩ := List.append_of_mem member
    exact ⟨since, earlier, rfl, fun entry later => unused entry (List.mem_append_left _ later)⟩

/-- Captchas are good for one answer, by the user and for the kind that they were issued for.
Whatever has been asked of a desk in the order of time, an answer passes exactly when a captcha was
issued to this user and for this kind under the identifier it comes with, nobody has handed that
identifier in since then, the life of the captcha has not ended, and the answers are the same but
for blanks around the one handed in and for the case of Latin letters. Where nobody guesses the
identifier before it is issued, that is to say that nobody has ever handed it in. An identifier
that has been handed in once it was issued is used up, whoever did so and whatever the answer was,
and in the whole history no identifier passes twice. -/
theorem verify_passes_iff (life : Duration) (salt : UInt64 → UInt64)
    (questions : List (Instant × Question)) (now : Instant) (user : String) (kind : ActionKind)
    (token : CaptchaToken) (ordered : (questions.map Prod.fst ++ [now]).Pairwise (· ≤ ·))
    (few : questions.countP (fun question => question.2.isIssue) < UInt64.size) :
    let history := (fresh life salt).after questions
    let isRight (answer : String) := sameButCase answer.toList (Blank.strip token.answer.toList)
    ((history.desk.verify now user kind token).1 = true ↔
        ∃ issuedAt answer, Outstanding token.id issuedAt user kind answer history.entries ∧
          now.nanos < issuedAt.nanos + life.nanos ∧ isRight answer = true) ∧
      (Unguessed token.id history.entries →
        ((history.desk.verify now user kind token).1 = true ↔
          ∃ issuedAt answer,
            .issued issuedAt user kind answer (some token.id) ∈ history.entries ∧
              (∀ entry ∈ history.entries, entry.presents token.id = false) ∧
              now.nanos < issuedAt.nanos + life.nanos ∧ isRight answer = true)) ∧
      (∀ later entry earlier, history.entries = later ++ entry :: earlier →
        entry.presents token.id = true → (∃ issue ∈ earlier, issue.issues token.id = true) →
          (history.desk.verify now user kind token).1 = false) ∧
      ∀ id, history.entries.countP (Entry.passes id) ≤ 1 := by
  intro history isRight
  have sound : Sound life salt now history := by
    refine after_sound now ordered ?_ fun time _ => fresh_sound life salt time
    show 0 + _ < _
    rw [Nat.zero_add]
    exact few
  have passes := sound.verify_iff user kind token
  refine ⟨passes, fun unguessed => ?_, fun later entry earlier split presented issued =>
    sound.verify_used user kind split presented issued, sound.once⟩
  rw [passes]
  simp only [outstanding_iff_of_unguessed unguessed, and_assoc]
  rfl

/-- The right answer passes in other letters and between blanks, before the end of its life; after
a wrong answer it does not pass under that identifier, and still does under another. -/
theorem verify_passes_second :
    let salt (sequence : UInt64) : UInt64 := sequence
    let first := identifier salt 0
    let second := identifier salt 1
    let questions : List (Instant × Question) :=
      [(⟨0⟩, .issue "ada" .question "Xy7k"), (⟨0⟩, .issue "ada" .question "Xy7k"),
        (⟨3⟩, .verify "ada" .question ⟨first, "none"⟩), (⟨4⟩, .purge)]
    let history := (fresh ⟨10⟩ salt).after questions
    (questions.map Prod.fst ++ [(⟨9⟩ : Instant)]).Pairwise (· ≤ ·) ∧
      questions.countP (fun question => question.2.isIssue) < UInt64.size ∧
      (history.desk.verify ⟨9⟩ "ada" .question ⟨first, "Xy7k"⟩).1 = false ∧
      (history.desk.verify ⟨9⟩ "ada" .question ⟨second, " xY7K "⟩).1 = true := by
  intro salt first second questions history
  have ordered : (questions.map Prod.fst ++ [(⟨9⟩ : Instant)]).Pairwise (· ≤ ·) := by decide
  have few : questions.countP (fun question => question.2.isIssue) < UInt64.size := by decide
  have entries : history.entries =
      [.purged ⟨4⟩, .verified ⟨3⟩ "ada" .question ⟨first, "none"⟩ false,
        .issued ⟨0⟩ "ada" .question "Xy7k" (some second),
        .issued ⟨0⟩ "ada" .question "Xy7k" (some first)] := by decide +kernel
  obtain ⟨_, _, used, _⟩ := verify_passes_iff ⟨10⟩ salt questions ⟨9⟩ "ada" .question
    ⟨first, "Xy7k"⟩ ordered few
  obtain ⟨passes, _⟩ := verify_passes_iff ⟨10⟩ salt questions ⟨9⟩ "ada" .question
    ⟨second, " xY7K "⟩ ordered few
  refine ⟨ordered, few, used [_] _ _ entries ?_ ?_, passes.mpr ⟨⟨0⟩, "Xy7k", ?_, by decide, ?_⟩⟩
  · decide
  · exact ⟨_, List.mem_cons_of_mem _ List.mem_cons_self, by decide⟩
  · refine ⟨[_, _], [_], entries, ?_⟩
    decide
  · decide

/-- What has been handed in before a captcha was issued under it has not been used up. Here somebody
guesses an identifier that is issued next; it is refused, and still the right answer passes under it
afterwards, although it has been handed in before. -/
theorem guessed_identifier_passes :
    let id := identifier scramble 0
    let questions : List (Instant × Question) :=
      [(⟨0⟩, .verify "1" .answer ⟨id, "42"⟩), (⟨0⟩, .issue "1" .answer "42")]
    let life : Duration := ⟨60000000000⟩
    let now : Instant := ⟨0⟩
    let history := (fresh life scramble).after questions
    let passed := (history.desk.verify now "1" .answer ⟨id, "42"⟩).1
    (questions.map Prod.fst ++ [now]).Pairwise (· ≤ ·) ∧
      questions.countP (fun question => question.2.isIssue) < UInt64.size ∧
      .issued ⟨0⟩ "1" .answer "42" (some id) ∈ history.entries ∧
      (∃ entry ∈ history.entries, entry.presents id = true) ∧
      passed = true ∧
      ¬ (passed = true ↔
        ∃ issuedAt answer, .issued issuedAt "1" .answer answer (some id) ∈ history.entries ∧
          (∀ entry ∈ history.entries, entry.presents id = false) ∧
          now.nanos < issuedAt.nanos + life.nanos ∧
          sameButCase answer.toList (Blank.strip "42".toList) = true) := by
  intro id questions life now history passed
  have entries : history.entries =
      [.issued ⟨0⟩ "1" .answer "42" (some id), .verified ⟨0⟩ "1" .answer ⟨id, "42"⟩ false] := by
    decide +kernel
  have presented : ∃ entry ∈ history.entries, entry.presents id = true := by
    rw [entries]
    exact ⟨_, List.mem_cons_of_mem _ List.mem_cons_self, by simp [Entry.presents]⟩
  have passes : passed = true := by decide +kernel
  refine ⟨by decide, by decide, ?_, presented, passes, fun claimed => ?_⟩
  · rw [entries]
    exact List.mem_cons_self
  · obtain ⟨_, _, _, unpresented, _⟩ := claimed.mp passes
    obtain ⟨entry, member, presents⟩ := presented
    rw [unpresented entry member] at presents
    cases presents

end History

end CaptchaDesk

end Gatekeeper
