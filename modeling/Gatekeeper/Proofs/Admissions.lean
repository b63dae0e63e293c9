/-
This file reads the answers of the duplicate store off its history. Whether a fingerprint is let in
depends on three things that anyone can look up: which entry of it was the latest to be let in, what
has been removed since, and when the window of that entry elapses. Entries that were turned away,
purges and whatever has happened to other fingerprints do not come into it, so a fingerprint that
nobody removes is let in again only when the window of its latest admission has elapsed.
-/
import Gatekeeper.Proofs.Memory

namespace Gatekeeper

namespace DuplicateRecords

/-! ### Histories -/

/-- What can be asked of the store. -/
inductive Question where
  | insert (fingerprint : Fingerprint) (now : Instant) (window : Duration)
  | remove (fingerprint : Fingerprint)
  | purge (now : Instant)

/-- When it is asked, if that makes a difference. -/
def Question.time? : Question → Option Instant
  | insert _ now _ => some now
  | remove _ => none
  | purge now => some now

/-- A question that has been asked, with the reply to it. -/
inductive Entry where
  | inserted (fingerprint : Fingerprint) (now : Instant) (window : Duration) (reply : Reply Bool)
  | removed (fingerprint : Fingerprint)
  | purged (now : Instant)

namespace Entry

def time? : Entry → Option Instant
  | inserted _ now _ _ => some now
  | removed _ => none
  | purged now => some now

/-- The fingerprint was let in. -/
def isAdmission (fingerprint : Fingerprint) : Entry → Bool
  | inserted other _ _ (.answer true) => other = fingerprint
  | _ => false

def isRemoval (fingerprint : Fingerprint) : Entry → Bool
  | removed other => other = fingerprint
  | _ => false

end Entry

/-- A store and what has been asked of it, the latest first. -/
structure History where
  records : DuplicateRecords
  entries : List Entry

namespace History

/-- Nothing has been asked of an empty store. -/
def fresh : History := ⟨.empty, []⟩

def ask (history : History) : Question → History
  | .insert fingerprint now window =>
    let (reply, records) := DuplicateStore.tryInsert history.records fingerprint now window
    ⟨records, .inserted fingerprint now window reply :: history.entries⟩
  | .remove fingerprint =>
    let (_, records) := DuplicateStore.remove history.records fingerprint
    ⟨records, .removed fingerprint :: history.entries⟩
  | .purge now =>
    let (_, records) := DuplicateStore.purge history.records now
    ⟨records, .purged now :: history.entries⟩

/-- The history after some more questions. -/
def after (history : History) (questions : List Question) : History :=
  questions.foldl ask history

/-- What the store says to a fingerprint. -/
def reply (history : History) (fingerprint : Fingerprint) (now : Instant) (window : Duration) :
    Reply Bool :=
  (DuplicateStore.tryInsert history.records fingerprint now window).1

end History

/-- The times of the questions never go back, and end at this one. -/
def InOrder (questions : List Question) (now : Instant) : Prop :=
  (questions.filterMap Question.time? ++ [now]).Pairwise (· ≤ ·)

/-! ### What a question does to the live records -/

section Records

variable (records : DuplicateRecords) (fingerprint : Fingerprint) (now : Instant)
  (window : Duration)

/-- A fingerprint is let in exactly when it is not live and its window ends in time; it is then live
until that end. Otherwise no record changes. -/
theorem tryInsert_cases :
    (∃ expiresAt, records.isLive fingerprint now = false ∧
        expiresAt.nanos = now.nanos + window.nanos ∧
        records.tryInsert fingerprint now window =
          (.answer true, records.insert fingerprint expiresAt)) ∨
      (records.tryInsert fingerprint now window).1 ≠ .answer true ∧
        (records.tryInsert fingerprint now window).2 = records := by
  unfold tryInsert
  cases live : records.isLive fingerprint now with
  | true => exact .inr ⟨by simp, rfl⟩
  | false =>
    cases within : now.after? window with
    | none => exact .inr ⟨by simp, rfl⟩
    | some expiresAt =>
      exact .inl ⟨expiresAt, rfl, ((Instant.after?_eq_some_iff _ _ _).mp within).1, rfl⟩

/-- A fingerprint whose window ends in time is answered, and let in exactly when it is not live. -/
theorem tryInsert_of_within (within : now.nanos + window.nanos < Instant.horizon) :
    (records.tryInsert fingerprint now window).1 = .answer (!records.isLive fingerprint now) := by
  have ends := (Instant.after?_eq_some_iff now window ⟨now.nanos + window.nanos⟩).mpr ⟨rfl, within⟩
  unfold tryInsert
  rw [ends]
  cases records.isLive fingerprint now <;> rfl

variable {fingerprint}

theorem isLive_insert_self (expiresAt later : Instant) :
    isLive (records.insert fingerprint expiresAt) fingerprint later = true ↔
      later.nanos < expiresAt.nanos := by
  rw [isLive_eq_true_iff, KeyedStore.get?_insert_self]
  simp

theorem isLive_insert_of_ne {other : Fingerprint} (apart : fingerprint ≠ other)
    (expiresAt later : Instant) :
    isLive (records.insert other expiresAt) fingerprint later =
      records.isLive fingerprint later := by
  unfold isLive
  rw [KeyedStore.get?_insert_of_ne _ _ apart]

theorem isLive_erase_self (later : Instant) :
    isLive (records.erase fingerprint) fingerprint later = false := by
  unfold isLive
  rw [KeyedStore.get?_erase_self]
  rfl

theorem isLive_erase_of_ne {other : Fingerprint} (apart : fingerprint ≠ other) (later : Instant) :
    isLive (records.erase other) fingerprint later = records.isLive fingerprint later := by
  unfold isLive
  rw [KeyedStore.get?_erase_of_ne _ apart]

/-- What a purge has dropped is not live at any later time. -/
theorem isLive_dropExpired {now later : Instant} (ordered : now.nanos ≤ later.nanos) :
    (records.dropExpired now).2.isLive fingerprint later = records.isLive fingerprint later := by
  unfold isLive dropExpired
  rw [KeyedStore.get?_purge]
  cases records.get? fingerprint with
  | none => rfl
  | some expiresAt =>
    simp only [Option.filter, isExpired, Instant.le_iff]
    by_cases elapsed : expiresAt.nanos ≤ now.nanos
    · have later : expiresAt.nanos ≤ later.nanos := Int.le_trans elapsed ordered
      simp [elapsed, later]
    · simp [elapsed]

end Records

/-! ### What holds of a history -/

namespace History

variable {fingerprint : Fingerprint} {records : DuplicateRecords} {entries : List Entry}
  {entry : Entry} {now : Instant}

/-- The fingerprint was let in at this time for this long, and has not been removed since. -/
def Stands (fingerprint : Fingerprint) (entered : Instant) (window : Duration)
    (entries : List Entry) : Prop :=
  ∃ since earlier,
    entries = since ++ .inserted fingerprint entered window (.answer true) :: earlier ∧
    ∀ entry ∈ since, entry.isRemoval fingerprint = false

theorem stands_cons_iff (entered : Instant) (window : Duration) :
    Stands fingerprint entered window (entry :: entries) ↔
      entry = .inserted fingerprint entered window (.answer true) ∨
        entry.isRemoval fingerprint = false ∧ Stands fingerprint entered window entries := by
  constructor
  · rintro ⟨since, earlier, split, spared⟩
    cases since with
    | nil => exact .inl (List.cons.inj split).1
    | cons first rest =>
      obtain ⟨rfl, below⟩ := List.cons.inj split
      obtain ⟨unremoved, others⟩ := List.forall_mem_cons.mp spared
      exact .inr ⟨unremoved, rest, earlier, below, others⟩
  · rintro (rfl | ⟨unremoved, since, earlier, rfl, spared⟩)
    · exact ⟨[], entries, rfl, nofun⟩
    · exact ⟨entry :: since, earlier, rfl, List.forall_mem_cons.mpr ⟨unremoved, spared⟩⟩

/-- The latest admission has not been removed, and its window has not elapsed. -/
def Blocks (fingerprint : Fingerprint) (entries : List Entry) (now : Instant) : Prop :=
  ∃ (entered : Instant) (window : Duration),
    entries.find? (Entry.isAdmission fingerprint) =
        some (.inserted fingerprint entered window (.answer true)) ∧
      (∀ entry ∈ entries.takeWhile fun entry => !entry.isAdmission fingerprint,
        entry.isRemoval fingerprint = false) ∧
      now.nanos < entered.nanos + window.nanos

theorem blocks_cons_of_admission (entered : Instant) (window : Duration) (now : Instant) :
    Blocks fingerprint (.inserted fingerprint entered window (.answer true) :: entries) now ↔
      now.nanos < entered.nanos + window.nanos := by
  simp [Blocks, Entry.isAdmission, and_assoc]

theorem blocks_cons_of_other (unadmitted : entry.isAdmission fingerprint = false)
    (unremoved : entry.isRemoval fingerprint = false) (now : Instant) :
    Blocks fingerprint (entry :: entries) now ↔ Blocks fingerprint entries now := by
  simp [Blocks, unadmitted, unremoved]

theorem stands_of_find? {entered : Instant} {window : Duration}
    (latest : entries.find? (Entry.isAdmission fingerprint) =
      some (.inserted fingerprint entered window (.answer true)))
    (spared : ∀ entry ∈ entries.takeWhile fun entry => !entry.isAdmission fingerprint,
      entry.isRemoval fingerprint = false) : Stands fingerprint entered window entries := by
  obtain ⟨_, since, earlier, split, before⟩ := List.find?_eq_some_iff_append.mp latest
  refine ⟨since, earlier, split, fun entry member => spared entry ?_⟩
  rw [split, List.takeWhile_append_of_pos before]
  exact List.mem_append_left _ member

theorem eq_inserted_of_isAdmission (admission : entry.isAdmission fingerprint = true) :
    ∃ entered window, entry = .inserted fingerprint entered window (.answer true) := by
  unfold Entry.isAdmission at admission
  split at admission
  · cases of_decide_eq_true admission
    exact ⟨_, _, rfl⟩
  · cases admission

/-- This time comes after everything that has happened. -/
def Follows (entries : List Entry) (now : Instant) : Prop :=
  ∀ entry ∈ entries, ∀ time, entry.time? = some time → time.nanos ≤ now.nanos

theorem follows_cons_iff :
    Follows (entry :: entries) now ↔
      (∀ time, entry.time? = some time → time.nanos ≤ now.nanos) ∧ Follows entries now :=
  List.forall_mem_cons

/-- What the entries say of one fingerprint and what the records say of it. -/
structure Sound (fingerprint : Fingerprint) (records : DuplicateRecords) (entries : List Entry) :
    Prop where
  /-- An admission keeps the fingerprint live until its window elapses, unless it is removed. -/
  keeps : ∀ entered window, Stands fingerprint entered window entries → ∀ now,
    Follows entries now → now.nanos < entered.nanos + window.nanos →
      records.isLive fingerprint now = true
  /-- Nothing but its latest admission keeps a fingerprint live. -/
  blocks : ∀ now, Follows entries now → records.isLive fingerprint now = true →
    Blocks fingerprint entries now
  spaced : ∀ later again longer earlier,
    entries = later ++ .inserted fingerprint again longer (.answer true) :: earlier →
      ∀ entered window, Stands fingerprint entered window earlier →
        entered.nanos + window.nanos ≤ again.nanos

theorem sound_fresh (fingerprint : Fingerprint) :
    Sound fingerprint fresh.records fresh.entries where
  keeps _ _ stands := by
    obtain ⟨since, earlier, split, _⟩ := stands
    cases since <;> cases split
  blocks now _ live := by cases live
  spaced later _ _ _ split := by cases later <;> cases split

namespace Sound

/-- What is let in at its own time has nothing before it that stands beyond that time. -/
theorem spaced_cons (sound : Sound fingerprint records entries)
    (elapsed : ∀ again longer,
      entry = .inserted fingerprint again longer (.answer true) →
        ∀ entered window, Stands fingerprint entered window entries →
          entered.nanos + window.nanos ≤ again.nanos)
    (later : List Entry) (again : Instant) (longer : Duration) (earlier : List Entry)
    (split : entry :: entries =
      later ++ .inserted fingerprint again longer (.answer true) :: earlier) :
    ∀ entered window, Stands fingerprint entered window earlier →
      entered.nanos + window.nanos ≤ again.nanos := by
  cases later with
  | nil =>
    obtain ⟨rfl, rfl⟩ := List.cons.inj split
    exact elapsed again longer rfl
  | cons first rest => exact sound.spaced rest again longer earlier (List.cons.inj split).2

/-- A history that goes on without letting the fingerprint in and without removing it stays sound as
long as the fingerprint is live when it was before. -/
theorem cons_of_other (sound : Sound fingerprint records entries) {changed : DuplicateRecords}
    (unadmitted : entry.isAdmission fingerprint = false)
    (unremoved : entry.isRemoval fingerprint = false)
    (same : ∀ now, Follows (entry :: entries) now →
      changed.isLive fingerprint now = records.isLive fingerprint now) :
    Sound fingerprint changed (entry :: entries) where
  keeps entered window stands now follows early := by
    rw [same now follows]
    rcases (stands_cons_iff entered window).mp stands with rfl | ⟨_, stood⟩
    · simp [Entry.isAdmission] at unadmitted
    · exact sound.keeps entered window stood now (follows_cons_iff.mp follows).2 early
  blocks now follows live := by
    rw [same now follows] at live
    exact (blocks_cons_of_other unadmitted unremoved now).mpr
      (sound.blocks now (follows_cons_iff.mp follows).2 live)
  spaced := sound.spaced_cons fun again longer admission => by
    rw [admission] at unadmitted
    simp [Entry.isAdmission] at unadmitted

/-- A fingerprint that is let in was not live before, so whatever stood of it has elapsed. -/
theorem cons_of_admission (sound : Sound fingerprint records entries) {now expiresAt : Instant}
    {window : Duration} (new : records.isLive fingerprint now = false)
    (ends : expiresAt.nanos = now.nanos + window.nanos) (follows : Follows entries now) :
    Sound fingerprint (records.insert fingerprint expiresAt)
      (.inserted fingerprint now window (.answer true) :: entries) := by
  have elapsed : ∀ entered length, Stands fingerprint entered length entries →
      entered.nanos + length.nanos ≤ now.nanos := by
    intro entered length stands
    refine Int.not_lt.mp fun early => ?_
    have live := sound.keeps entered length stands now follows early
    rw [new] at live
    cases live
  refine ⟨?_, ?_, sound.spaced_cons fun again longer admission => ?_⟩
  · intro entered length stands later ordered early
    rw [isLive_insert_self, ends]
    rcases (stands_cons_iff entered length).mp stands with admission | ⟨_, stood⟩
    · cases admission
      exact early
    · have before := elapsed entered length stood
      have passed := (follows_cons_iff.mp ordered).1 now rfl
      omega
  · intro later _ live
    rw [isLive_insert_self, ends] at live
    exact (blocks_cons_of_admission now window later).mpr live
  · cases admission
    exact elapsed

theorem cons_of_removal (sound : Sound fingerprint records entries) :
    Sound fingerprint (records.erase fingerprint) (.removed fingerprint :: entries) where
  keeps entered window stands := by
    rcases (stands_cons_iff entered window).mp stands with removal | ⟨unremoved, _⟩
    · cases removal
    · simp [Entry.isRemoval] at unremoved
  blocks now _ live := by
    rw [isLive_erase_self] at live
    cases live
  spaced := sound.spaced_cons nofun

/-- One question keeps a history sound, if it is asked after everything that has happened. -/
theorem ask {history : History} (sound : Sound fingerprint history.records history.entries)
    {question : Question}
    (ordered : ∀ now, question.time? = some now → Follows history.entries now) :
    Sound fingerprint (history.ask question).records (history.ask question).entries := by
  cases question with
  | insert other now window =>
    show Sound fingerprint (history.records.tryInsert other now window).2
      (.inserted other now window (history.records.tryInsert other now window).1 ::
        history.entries)
    rcases history.records.tryInsert_cases other now window with
      ⟨expiresAt, new, ends, entered⟩ | ⟨unanswered, unchanged⟩
    · rw [entered]
      by_cases same : other = fingerprint
      · subst same
        exact sound.cons_of_admission new ends (ordered now rfl)
      · exact sound.cons_of_other (by simp [Entry.isAdmission, same]) rfl fun later _ =>
          isLive_insert_of_ne _ (Ne.symm same) _ _
    · rw [unchanged]
      refine sound.cons_of_other (Bool.eq_false_iff.mpr fun admission => ?_) rfl fun _ _ => rfl
      obtain ⟨_, _, entered⟩ := eq_inserted_of_isAdmission admission
      exact unanswered (Entry.inserted.inj entered).2.2.2
  | remove other =>
    by_cases same : other = fingerprint
    · subst same
      exact sound.cons_of_removal
    · exact sound.cons_of_other rfl (by simp [Entry.isRemoval, same]) fun later _ =>
        isLive_erase_of_ne _ (Ne.symm same) _
  | purge now =>
    exact sound.cons_of_other rfl rfl fun later follows =>
      isLive_dropExpired _ ((follows_cons_iff.mp follows).1 now rfl)

end Sound

theorem follows_ask {history : History} {question : Question} {time : Instant}
    (follows : Follows history.entries time)
    (ordered : ∀ now, question.time? = some now → now.nanos ≤ time.nanos) :
    Follows (history.ask question).entries time := by
  cases question with
  | insert other now window => exact follows_cons_iff.mpr ⟨ordered, follows⟩
  | remove other => exact follows_cons_iff.mpr ⟨nofun, follows⟩
  | purge now => exact follows_cons_iff.mpr ⟨ordered, follows⟩

/-- A history stays sound as long as time does not go back. -/
theorem after_sound {history : History} (fingerprint : Fingerprint) {questions : List Question}
    (sound : Sound fingerprint history.records history.entries) (now : Instant)
    (ordered : InOrder questions now)
    (follows : ∀ time ∈ questions.filterMap Question.time? ++ [now], Follows history.entries time) :
    Sound fingerprint (history.after questions).records (history.after questions).entries ∧
      Follows (history.after questions).entries now := by
  induction questions generalizing history with
  | nil => exact ⟨sound, follows now List.mem_cons_self⟩
  | cons question rest inductionHypothesis =>
    unfold InOrder at ordered
    cases timed : question.time? with
    | none =>
      rw [List.filterMap_cons_none timed] at ordered follows
      refine inductionHypothesis (sound.ask ?_) ordered fun time member =>
        follows_ask (follows time member) ?_
      · rw [timed]
        nofun
      · rw [timed]
        nofun
    | some asked =>
      rw [List.filterMap_cons_some timed, List.cons_append] at ordered follows
      obtain ⟨first, others⟩ := List.pairwise_cons.mp ordered
      refine inductionHypothesis (sound.ask ?_) others fun time member =>
        follows_ask (follows time (List.mem_cons_of_mem _ member)) ?_
      · rw [timed]
        intro time same
        cases same
        exact follows asked List.mem_cons_self
      · rw [timed]
        intro time' same
        cases same
        exact first time member

/-! ### Admissions -/

/-- The latest admission blocks the fingerprint, or there is none, or it has been removed, or its
window has elapsed. -/
theorem not_blocks_iff (entries : List Entry) (now : Instant) :
    ¬ Blocks fingerprint entries now ↔
      entries.find? (Entry.isAdmission fingerprint) = none ∨
        (∃ entry ∈ entries.takeWhile fun entry => !entry.isAdmission fingerprint,
          entry.isRemoval fingerprint = true) ∨
        ∃ entered window, entries.find? (Entry.isAdmission fingerprint) =
            some (.inserted fingerprint entered window (.answer true)) ∧
          entered.nanos + window.nanos ≤ now.nanos := by
  unfold Blocks
  cases found : entries.find? (Entry.isAdmission fingerprint) with
  | none => simp
  | some latest =>
    obtain ⟨entered, window, rfl⟩ := eq_inserted_of_isAdmission (List.find?_some found)
    simp only [Option.some.injEq, Entry.inserted.injEq, true_and, and_true, reduceCtorEq, false_or]
    constructor
    · intro unblocked
      refine Classical.byContradiction fun neither => unblocked ?_
      rw [not_or] at neither
      refine ⟨entered, window, ⟨rfl, rfl⟩, fun entry member => ?_, Int.not_le.mp fun late => ?_⟩
      · exact Bool.eq_false_iff.mpr fun removal => neither.1 ⟨entry, member, removal⟩
      · exact neither.2 ⟨entered, window, ⟨rfl, rfl⟩, late⟩
    · rintro (⟨entry, member, removal⟩ | ⟨_, _, ⟨rfl, rfl⟩, late⟩) ⟨_, _, ⟨rfl, rfl⟩, spared, early⟩
      · rw [spared entry member] at removal
        cases removal
      · omega

/-- Whatever has been asked of the store in the order of time, a fingerprint whose window ends in
time is let in exactly when it has never been let in, or has been removed since the latest time that
it was, or the window of that time has elapsed. Two admissions without a removal between them are at
least the first one's window apart. -/
theorem admits_iff (questions : List Question) (fingerprint : Fingerprint) (now : Instant)
    (window : Duration) (ordered : InOrder questions now)
    (within : now.nanos + window.nanos < Instant.horizon) :
    let history := fresh.after questions
    let reply := history.reply fingerprint now window
    let isAdmission := Entry.isAdmission fingerprint
    (reply = .answer true ∨ reply = .answer false) ∧
      (reply = .answer true ↔
        history.entries.find? isAdmission = none ∨
          (∃ entry ∈ history.entries.takeWhile fun entry => !isAdmission entry,
            entry.isRemoval fingerprint = true) ∨
          ∃ entered length, history.entries.find? isAdmission =
              some (.inserted fingerprint entered length (.answer true)) ∧
            entered.nanos + length.nanos ≤ now.nanos) ∧
      ∀ later again longer earlier, history.entries =
          later ++ .inserted fingerprint again longer (.answer true) :: earlier →
        ∀ entered length, Stands fingerprint entered length earlier →
          entered.nanos + length.nanos ≤ again.nanos := by
  intro history reply isAdmission
  obtain ⟨sound, follows⟩ := after_sound fingerprint (sound_fresh fingerprint) now ordered
    fun _ _ _ member => absurd member List.not_mem_nil
  have said : reply = .answer (!history.records.isLive fingerprint now) :=
    tryInsert_of_within history.records fingerprint now window within
  have live : history.records.isLive fingerprint now = true ↔
      Blocks fingerprint history.entries now := by
    refine ⟨sound.blocks now follows, fun ⟨entered, length, latest, spared, early⟩ => ?_⟩
    refine sound.keeps entered length ?_ now follows early
    exact stands_of_find? latest spared
  refine ⟨?_, ?_, sound.spaced⟩
  · rw [said]
    cases history.records.isLive fingerprint now
    · exact .inl rfl
    · exact .inr rfl
  · rw [← not_blocks_iff, ← live, said]
    simp

/-- A repeated request that is turned away on the way does not put off the end of the window. -/
theorem admits_once_elapsed :
    let fingerprint : Fingerprint := ⟨List.replicate 32 7, rfl⟩
    let questions := [.insert fingerprint ⟨0⟩ ⟨5⟩, .insert fingerprint ⟨4⟩ ⟨5⟩, .purge ⟨4⟩]
    InOrder questions ⟨5⟩ ∧ (fresh.after questions).reply fingerprint ⟨4⟩ ⟨5⟩ = .answer false ∧
      (fresh.after questions).reply fingerprint ⟨5⟩ ⟨5⟩ = .answer true := by
  intro fingerprint questions
  have ordered : InOrder questions ⟨5⟩ := by
    unfold InOrder
    decide
  have admitted := (admits_iff questions fingerprint ⟨5⟩ ⟨5⟩ ordered (by decide)).2.1
  refine ⟨ordered, rfl, admitted.mpr (.inr (.inr ⟨⟨0⟩, ⟨5⟩, rfl, by decide⟩))⟩

end History

end DuplicateRecords

end Gatekeeper
