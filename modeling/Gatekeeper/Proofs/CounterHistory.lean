/-
This file reads the counters in memory off their history. What a counter shows is the number of
attempts of its own user and kind that have been recorded since the last passed verification and in
the window that is open now. A window is opened by the first attempt for which none is open, and
does not move. Nothing else counts: not what failed, not what was read or purged, not what happened
to another counter.
-/
import Gatekeeper.Proofs.Footprint

namespace Gatekeeper

namespace Challenges

variable {ν : Type}

/-! ### Histories -/

/-- What can be asked of the challenges. -/
inductive Task where
  | record (key : ChallengeKey)
  | attempts (key : ChallengeKey)
  | level (key : ChallengeKey)
  | isRequired (key : ChallengeKey)
  | check (key : ChallengeKey) (token : Option CaptchaToken)
  | verify (key : ChallengeKey) (token : CaptchaToken)
  | purge
  deriving DecidableEq

/-- What an activity leaves behind, whatever its result is. -/
def leaves {α : Type} (activity : Activity (Challenges AttemptRecords ν) α)
    (challenges : Challenges AttemptRecords ν) : Challenges AttemptRecords ν × List Event :=
  ((activity.run challenges).state, (activity.run challenges).events)

def Task.perform [CaptchaVerifier ν] (now : Instant) (challenges : Challenges AttemptRecords ν) :
    Task → Challenges AttemptRecords ν × List Event
  | record key => leaves (Challenges.record now key) challenges
  | attempts key => leaves (Challenges.attempts now key) challenges
  | level key | isRequired key => leaves (Challenges.level now key) challenges
  | check key token => leaves (Challenges.check now key token) challenges
  | verify key token => leaves (Challenges.verify now key token) challenges
  | purge => leaves (Challenges.purge now) challenges

/-- A task that has been performed. -/
structure Turn where
  now : Instant
  task : Task
  events : List Event

namespace Turn

/-- An attempt of this user and kind has been recorded. -/
def records (key : ChallengeKey) (turn : Turn) : Bool :=
  turn.task = .record key

/-- A verification of this user and kind has been passed. -/
def passes (key : ChallengeKey) (turn : Turn) : Bool :=
  Event.hasPass key turn.events

/-- When the latest window was opened, unless it has been cleared; of the turns the latest comes
first. -/
def openedAt? (key : ChallengeKey) (length : Duration) : List Turn → Option Instant
  | [] => none
  | turn :: earlier =>
    if turn.passes key then none
    else if turn.records key then
      match openedAt? key length earlier with
      | some opened =>
        if turn.now.nanos < opened.nanos + length.nanos then some opened else some turn.now
      | none => some turn.now
    else openedAt? key length earlier

/-- The turns since the last passed verification. -/
def sincePass (key : ChallengeKey) (turns : List Turn) : List Turn :=
  turns.takeWhile fun turn => !turn.passes key

/-- How many attempts have been recorded since the last passed verification, and not before this
time. -/
def recordedSince (key : ChallengeKey) (opened : Instant) (turns : List Turn) : Nat :=
  (sincePass key turns).countP fun turn => turn.records key && opened ≤ turn.now

/-- How many attempts have been recorded in the window that is open at this time. -/
def countAt (key : ChallengeKey) (length : Duration) (turns : List Turn) (now : Instant) : Nat :=
  match openedAt? key length turns with
  | some opened =>
    if now.nanos < opened.nanos + length.nanos then recordedSince key opened turns else 0
  | none => 0

end Turn

/-- The challenges, and what they have been asked to do, the latest first. -/
structure Journal (ν : Type) where
  challenges : Challenges AttemptRecords ν
  turns : List Turn

namespace Journal

variable [CaptchaVerifier ν]

def begin (challenges : Challenges AttemptRecords ν) : Journal ν := ⟨challenges, []⟩

def take (journal : Journal ν) (now : Instant) (task : Task) : Journal ν :=
  let (challenges, events) := task.perform now journal.challenges
  ⟨challenges, ⟨now, task, events⟩ :: journal.turns⟩

/-- The journal after some more tasks, each at its own time. -/
def after (journal : Journal ν) (tasks : List (Instant × Task)) : Journal ν :=
  tasks.foldl (fun journal (now, task) => journal.take now task) journal

end Journal

/-! ### The windows of a history -/

namespace Turn

variable {key : ChallengeKey} {length : Duration} {turn : Turn} {turns : List Turn}

theorem openedAt?_cons_of_passes (passes : turn.passes key = true) :
    openedAt? key length (turn :: turns) = none := by
  rw [openedAt?, if_pos passes]

theorem openedAt?_cons_of_other (unpassed : turn.passes key = false)
    (unrecorded : turn.records key = false) :
    openedAt? key length (turn :: turns) = openedAt? key length turns := by
  simp [openedAt?, unpassed, unrecorded]

/-- An attempt falls into the window that is open. -/
theorem openedAt?_cons_of_open (unpassed : turn.passes key = false)
    (records : turn.records key = true) {opened : Instant}
    (latest : openedAt? key length turns = some opened)
    (within : turn.now.nanos < opened.nanos + length.nanos) :
    openedAt? key length (turn :: turns) = some opened := by
  simp [openedAt?, unpassed, records, latest, within]

/-- An attempt for which no window is open opens one. -/
theorem openedAt?_cons_of_closed (unpassed : turn.passes key = false)
    (records : turn.records key = true)
    (closed : ∀ opened, openedAt? key length turns = some opened →
      opened.nanos + length.nanos ≤ turn.now.nanos) :
    openedAt? key length (turn :: turns) = some turn.now := by
  unfold openedAt?
  rw [unpassed, records]
  cases latest : openedAt? key length turns with
  | none => rfl
  | some opened =>
    have elapsed := Int.not_lt.mpr (closed opened latest)
    simp [elapsed]

/-- A window is opened by one of the turns. -/
theorem mem_of_openedAt? {opened : Instant} (latest : openedAt? key length turns = some opened) :
    ∃ turn ∈ turns, turn.now = opened := by
  induction turns with
  | nil => cases latest
  | cons turn earlier inductionHypothesis =>
    have below (found : openedAt? key length earlier = some opened) :
        ∃ other ∈ turn :: earlier, other.now = opened := by
      obtain ⟨other, member, same⟩ := inductionHypothesis found
      exact ⟨other, List.mem_cons_of_mem _ member, same⟩
    have here (same : some turn.now = some opened) :
        ∃ other ∈ turn :: earlier, other.now = opened :=
      ⟨turn, List.mem_cons_self, Option.some.inj same⟩
    unfold openedAt? at latest
    split at latest
    · cases latest
    · split at latest
      · split at latest
        · next found =>
          split at latest
          · exact below (found.trans latest)
          · exact here latest
        · exact here latest
      · exact below latest

/-- An attempt falls into the latest window, which is still open, or into a new one after it. -/
theorem openedAt?_cons_of_records (positive : 0 < length.nanos) (unpassed : turn.passes key = false)
    (records : turn.records key = true) :
    ∃ opened, openedAt? key length (turn :: turns) = some opened ∧
      turn.now.nanos < opened.nanos + length.nanos ∧
      ∀ former, openedAt? key length turns = some former →
        former = opened ∨ former.nanos + length.nanos ≤ opened.nanos := by
  cases latest : openedAt? key length turns with
  | none =>
    refine ⟨turn.now, openedAt?_cons_of_closed unpassed records ?_, by omega, nofun⟩
    rw [latest]
    nofun
  | some former =>
    by_cases within : turn.now.nanos < former.nanos + length.nanos
    · refine ⟨former, openedAt?_cons_of_open unpassed records latest within, within, ?_⟩
      rintro _ ⟨⟩
      exact .inl rfl
    · have elapsed := Int.not_lt.mp within
      refine ⟨turn.now, openedAt?_cons_of_closed unpassed records ?_, by omega, ?_⟩
      · rw [latest]
        rintro _ ⟨⟩
        exact elapsed
      · rintro _ ⟨⟩
        exact .inr elapsed

/-- Whatever has been recorded since the last passed verification has been recorded before the
latest window ends. -/
theorem recorded_before_end (positive : 0 < length.nanos) :
    ∀ turn ∈ sincePass key turns, turn.records key = true →
      ∃ opened, openedAt? key length turns = some opened ∧
        turn.now.nanos < opened.nanos + length.nanos := by
  induction turns with
  | nil => exact fun _ member => absurd member List.not_mem_nil
  | cons first earlier inductionHypothesis =>
    intro turn member records
    unfold sincePass at member
    cases unpassed : first.passes key with
    | true => simp [unpassed] at member
    | false =>
      rw [List.takeWhile_cons_of_pos (by simp [unpassed])] at member
      cases recorded : first.records key with
      | false =>
        rw [openedAt?_cons_of_other unpassed recorded]
        rcases List.mem_cons.mp member with rfl | older
        · rw [records] at recorded
          cases recorded
        · exact inductionHypothesis turn older records
      | true =>
        obtain ⟨opened, latest, within, after⟩ :
            ∃ opened, openedAt? key length (first :: earlier) = some opened ∧ _ :=
          openedAt?_cons_of_records positive unpassed recorded
        refine ⟨opened, latest, ?_⟩
        rcases List.mem_cons.mp member with rfl | older
        · exact within
        · obtain ⟨former, found, before⟩ := inductionHypothesis turn older records
          rcases after former found with rfl | elapsed
          · exact before
          · omega

theorem recordedSince_cons_of_other (unpassed : turn.passes key = false)
    (unrecorded : turn.records key = false) (opened : Instant) :
    recordedSince key opened (turn :: turns) = recordedSince key opened turns := by
  simp [recordedSince, sincePass, unpassed, unrecorded]

theorem recordedSince_cons_of_record (unpassed : turn.passes key = false)
    (records : turn.records key = true) {opened : Instant} (started : opened ≤ turn.now) :
    recordedSince key opened (turn :: turns) = recordedSince key opened turns + 1 := by
  simp [recordedSince, sincePass, unpassed, records, started]

/-- Nothing has been recorded since a time at which no window was open. -/
theorem recordedSince_of_closed (positive : 0 < length.nanos) {now : Instant}
    (closed : ∀ opened, openedAt? key length turns = some opened →
      opened.nanos + length.nanos ≤ now.nanos) : recordedSince key now turns = 0 := by
  refine List.countP_eq_zero.mpr fun turn member counted => ?_
  simp only [Bool.and_eq_true, decide_eq_true_eq, Instant.le_iff] at counted
  obtain ⟨opened, latest, before⟩ := recorded_before_end positive turn member counted.1
  have elapsed := closed opened latest
  omega

end Turn

/-! ### One counter -/

/-- What a task may do to a counter: nothing but drop its elapsed window; or clear it by a passed
verification; or count an attempt. -/
inductive Effect (length : Duration) (now : Instant) (before : Option AttemptWindow) :
    Bool → Bool → Option AttemptWindow → Prop where
  | kept {after : Option AttemptWindow}
      (kept : after = before ∨ after = AttemptWindow.live? before now) :
      Effect length now before false false after
  | cleared : Effect length now before true false none
  | counted {window : AttemptWindow}
      (next : AttemptWindow.next? (AttemptWindow.live? before now) now length = some window) :
      Effect length now before false true (some window)

/-- The window in the store is the latest one of the history; if there is none, that has elapsed. -/
structure Matches (key : ChallengeKey) (length : Duration) (now : Instant)
    (stored : Option AttemptWindow) (turns : List Turn) : Prop where
  absent : stored = none → ∀ opened, Turn.openedAt? key length turns = some opened →
    opened.nanos + length.nanos ≤ now.nanos
  present : ∀ window, stored = some window →
    ∃ opened, Turn.openedAt? key length turns = some opened ∧
      window.expiresAt.nanos = opened.nanos + length.nanos ∧
      window.attempts.toNat = min 4294967295 (Turn.recordedSince key opened turns)
  follows : ∀ turn ∈ turns, turn.now.nanos ≤ now.nanos

namespace Matches

variable {key : ChallengeKey} {length : Duration} {now : Instant}
  {stored after : Option AttemptWindow} {turns : List Turn} {turn : Turn}

/-- Where no window is live, the latest one of the history has elapsed. -/
theorem closed (start : Matches key length now stored turns)
    (unopened : AttemptWindow.live? stored now = none) :
    ∀ opened, Turn.openedAt? key length turns = some opened →
      opened.nanos + length.nanos ≤ now.nanos := by
  intro opened latest
  cases found : stored with
  | none => exact start.absent found opened latest
  | some window =>
    obtain ⟨same, opened', ends, _⟩ := start.present window found
    cases latest.symm.trans opened'
    have elapsed := AttemptWindow.live?_eq_none_iff.mp unopened window found
    omega

/-- What a live window counts is what the history counts. -/
theorem count (start : Matches key length now stored turns) :
    (((AttemptWindow.live? stored now).map AttemptWindow.attempts).getD 0).toNat =
      min 4294967295 (Turn.countAt key length turns now) := by
  unfold Turn.countAt
  cases live : AttemptWindow.live? stored now with
  | none =>
    have closed := start.closed live
    cases latest : Turn.openedAt? key length turns with
    | none => rfl
    | some opened =>
      simp only [if_neg (Int.not_lt.mpr (closed opened latest))]
      rfl
  | some window =>
    obtain ⟨found, within⟩ := AttemptWindow.live?_eq_some_iff.mp live
    obtain ⟨opened, latest, ends, counted⟩ := start.present window found
    rw [latest]
    simp only [if_pos (ends ▸ within)]
    exact counted

/-- This turn comes after all others. -/
theorem follows_cons (start : Matches key length turn.now stored turns) :
    ∀ other ∈ turn :: turns, other.now.nanos ≤ turn.now.nanos :=
  List.forall_mem_cons.mpr ⟨Int.le_refl _, start.follows⟩

theorem kept (start : Matches key length turn.now stored turns)
    (unpassed : turn.passes key = false) (unrecorded : turn.records key = false)
    (kept : after = stored ∨ after = AttemptWindow.live? stored turn.now) :
    Matches key length turn.now after (turn :: turns) where
  absent none opened latest := by
    rw [Turn.openedAt?_cons_of_other unpassed unrecorded] at latest
    rcases kept with rfl | rfl
    · exact start.absent none opened latest
    · exact start.closed none opened latest
  present window found := by
    have still : stored = some window := by
      rcases kept with rfl | rfl
      · exact found
      · exact (AttemptWindow.live?_eq_some_iff.mp found).1
    obtain ⟨opened, latest, ends, counted⟩ := start.present window still
    refine ⟨opened, ?_, ends, ?_⟩
    · rw [Turn.openedAt?_cons_of_other unpassed unrecorded, latest]
    · rw [Turn.recordedSince_cons_of_other unpassed unrecorded, counted]
  follows := start.follows_cons

theorem cleared (start : Matches key length turn.now stored turns)
    (passes : turn.passes key = true) : Matches key length turn.now none (turn :: turns) where
  absent _ opened latest := by
    rw [Turn.openedAt?_cons_of_passes passes] at latest
    cases latest
  present _ found := by cases found
  follows := start.follows_cons

theorem counted (start : Matches key length turn.now stored turns) (positive : 0 < length.nanos)
    (unpassed : turn.passes key = false) (records : turn.records key = true)
    {window : AttemptWindow}
    (next : AttemptWindow.next? (AttemptWindow.live? stored turn.now) turn.now length =
      some window) : Matches key length turn.now (some window) (turn :: turns) := by
  refine ⟨nofun, ?_, start.follows_cons⟩
  rintro _ ⟨⟩
  cases live : AttemptWindow.live? stored turn.now with
  | none =>
    rw [live] at next
    obtain ⟨expiresAt, ends, rfl⟩ := AttemptWindow.next?_none_eq_some_iff.mp next
    have closed := start.closed live
    refine ⟨turn.now, Turn.openedAt?_cons_of_closed unpassed records closed,
      ((Instant.after?_eq_some_iff _ _ _).mp ends).1, ?_⟩
    rw [Turn.recordedSince_cons_of_record unpassed records (Int.le_refl _),
      Turn.recordedSince_of_closed positive closed]
    rfl
  | some before =>
    rw [live] at next
    cases next
    obtain ⟨found, within⟩ := AttemptWindow.live?_eq_some_iff.mp live
    obtain ⟨opened, latest, ends, counted⟩ := start.present before found
    obtain ⟨opener, member, rfl⟩ := Turn.mem_of_openedAt? latest
    refine ⟨opener.now, Turn.openedAt?_cons_of_open unpassed records latest (ends ▸ within), ends,
      ?_⟩
    rw [Turn.recordedSince_cons_of_record unpassed records (start.follows opener member)]
    show (saturatingSucc before.attempts).toNat = _
    rw [toNat_saturatingSucc, counted]
    omega

theorem step (start : Matches key length turn.now stored turns) (positive : 0 < length.nanos)
    (effect : Effect length turn.now stored (turn.passes key) (turn.records key) after) :
    Matches key length turn.now after (turn :: turns) := by
  generalize passed : turn.passes key = passes at effect
  generalize recorded : turn.records key = records at effect
  cases effect with
  | kept kept => exact start.kept passed recorded kept
  | cleared => exact start.cleared passed
  | counted next => exact start.counted positive passed recorded next

theorem later (start : Matches key length now stored turns) {later : Instant}
    (ordered : now.nanos ≤ later.nanos) : Matches key length later stored turns where
  absent none opened latest := Int.le_trans (start.absent none opened latest) ordered
  present := start.present
  follows turn member := Int.le_trans (start.follows turn member) ordered

theorem empty (key : ChallengeKey) (length : Duration) (now : Instant) :
    Matches key length now none [] :=
  ⟨nofun, nofun, nofun⟩

end Matches

/-! ### What a task does to each counter -/

section Tasks

variable {key : ChallengeKey} {now : Instant} {before after : AttemptRecords} {events : List Event}

/-- An attempt can be counted if a window that opens now ends in time. -/
theorem exists_next? {length : Duration} (within : now.nanos + length.nanos < Instant.horizon)
    (live : Option AttemptWindow) :
    ∃ window, AttemptWindow.next? live now length = some window := by
  cases live with
  | none =>
    have ends := (Instant.after?_eq_some_iff now length ⟨now.nanos + length.nanos⟩).mpr
      ⟨rfl, within⟩
    exact ⟨_, AttemptWindow.next?_none_eq_some_iff.mpr ⟨_, ends, rfl⟩⟩
  | some window => exact ⟨window.count, rfl⟩

theorem Unpassed.effect {own : ChallengeKey} (unpassed : Unpassed now own before events after)
    (length : Duration) (key : ChallengeKey) :
    Effect length now (before.get? key) (Event.hasPass key events) false (after.get? key) := by
  rw [(unpassed.unmarked key).1]
  by_cases same : key = own
  · subst same
    exact .kept unpassed.own
  · exact .kept (.inl (unpassed.others key same))

theorem Passed.effect {own : ChallengeKey} (passed : Passed own before events after)
    (length : Duration) (now : Instant) (key : ChallengeKey) :
    Effect length now (before.get? key) (Event.hasPass key events) false (after.get? key) := by
  rw [passed.passes]
  by_cases same : key = own
  · subst same
    rw [decide_eq_true rfl, passed.own]
    exact .cleared
  · rw [decide_eq_false same]
    exact .kept (.inl (passed.others key same))

variable {challenges : Challenges AttemptRecords ν}

theorem record_effect (idle : challenges.guarded.breaker.Idle) (own : ChallengeKey)
    (within : own = key → now.nanos + (challenges.limit key.kind).window.nanos < Instant.horizon) :
    ∃ records tally, ((record now own).run challenges).state =
        challenges.changed records challenges.verifier tally ∧
      Effect (challenges.limit key.kind).window now (challenges.guarded.store.get? key)
        (Event.hasPass key ((record now own).run challenges).events) (decide (own = key))
        (records.get? key) := by
  cases recorded : challenges.guarded.store.recorded? own now
      (challenges.limit own.kind).window with
  | none =>
    rw [run_record_of_none idle recorded]
    refine ⟨challenges.guarded.store, challenges.tally, rfl, ?_⟩
    by_cases same : own = key
    · subst same
      rw [AttemptRecords.recorded?_eq] at recorded
      obtain ⟨window, next⟩ := exists_next? (within rfl)
        (challenges.guarded.store.live? own now)
      rw [next] at recorded
      cases recorded
    · rw [decide_eq_false same]
      exact .kept (.inl rfl)
  | some window =>
    rw [run_record_of_some idle recorded]
    refine ⟨_, _, rfl, ?_⟩
    by_cases same : own = key
    · subst same
      rw [AttemptRecords.recorded?_eq] at recorded
      rw [decide_eq_true rfl, KeyedStore.get?_insert_self]
      exact .counted recorded
    · rw [decide_eq_false same, KeyedStore.get?_insert_of_ne _ _ (Ne.symm same)]
      exact .kept (.inl rfl)

/-- Whatever the task is, the settings and the breaker stay, and each counter is left alone, or
cleared, or counts an attempt of its own. -/
theorem perform_effect [CaptchaVerifier ν] (idle : challenges.guarded.breaker.Idle) (task : Task)
    (key : ChallengeKey)
    (within : task = .record key →
      now.nanos + (challenges.limit key.kind).window.nanos < Instant.horizon) :
    let left := task.perform now challenges
    ∃ records verifier tally, left.1 = challenges.changed records verifier tally ∧
      Effect (challenges.limit key.kind).window now (challenges.guarded.store.get? key)
        (Event.hasPass key left.2) (decide (task = .record key)) (records.get? key) := by
  cases task with
  | record own =>
    have inTime : own = key →
        now.nanos + (challenges.limit key.kind).window.nanos < Instant.horizon :=
      fun same => within (congrArg Task.record same)
    obtain ⟨records, tally, left, effect⟩ := record_effect idle own inTime
    refine ⟨records, _, tally, left, ?_⟩
    rw [show decide (Task.record own = .record key) = decide (own = key) by simp]
    exact effect
  | attempts own =>
    refine ⟨_, _, _, congrArg Outcome.state (run_attempts idle), ?_⟩
    show Effect _ _ _ (Event.hasPass key ((Challenges.attempts now own).run challenges).events) _ _
    rw [run_attempts idle, AttemptRecords.get?_attempts]
    by_cases same : key = own
    · rw [if_pos same, same]
      exact .kept (.inr rfl)
    · rw [if_neg same]
      exact .kept (.inl rfl)
  | level own | isRequired own =>
    obtain ⟨level, records, read, dropped, _⟩ := level_cases now own idle
    refine ⟨records, _, _, congrArg Outcome.state read, ?_⟩
    show Effect _ _ _ (Event.hasPass key ((Challenges.level now own).run challenges).events) _ _
    rw [read]
    exact dropped.effect _ key
  | check own token =>
    obtain ⟨records, verifier, tally, left, passed | ⟨unpassed, _⟩⟩ :=
      check_cases now own idle token
    · exact ⟨records, verifier, tally, left, passed.effect _ now key⟩
    · exact ⟨records, verifier, tally, left, unpassed.effect _ key⟩
  | verify own token =>
    obtain ⟨records, verifier, tally, left, passed | ⟨_, unmarked, same⟩⟩ :=
      verify_cases now own idle token
    · exact ⟨records, verifier, tally, left, passed.effect _ now key⟩
    · rw [same] at left
      exact ⟨_, verifier, tally, left,
        (Unpassed.refl now own challenges.guarded.store unmarked).effect _ key⟩
  | purge =>
    exact ⟨_, _, _, rfl, .kept (.inr (KeyedStore.get?_purge _ _ key))⟩

end Tasks

/-! ### All tasks -/

namespace Journal

variable [CaptchaVerifier ν]

/-- The settings are these, nothing has happened to the breaker, and every counter shows what its
history says. -/
structure Sound (settings : ChallengeSettings) (now : Instant) (journal : Journal ν) : Prop where
  configured : journal.challenges.settings = settings
  idle : journal.challenges.guarded.breaker.Idle
  counters : ∀ key, Matches key (settings.limit key.kind).window now
    (journal.challenges.guarded.store.get? key) journal.turns

/-- Every window is open for some time. -/
def Lasting (settings : ChallengeSettings) : Prop :=
  ∀ kind, (settings.limit kind).windowSeconds ≠ 0

/-- Every attempt is recorded early enough for a window that it opens to end in time. -/
def InTime (settings : ChallengeSettings) (tasks : List (Instant × Task)) : Prop :=
  ∀ task ∈ tasks, ∀ key, task.2 = .record key →
    task.1.nanos + (settings.limit key.kind).window.nanos < Instant.horizon

omit [CaptchaVerifier ν] in
theorem Lasting.positive {settings : ChallengeSettings} (lasting : Lasting settings)
    (kind : ActionKind) : 0 < (settings.limit kind).window.nanos := by
  have some : (settings.limit kind).windowSeconds.toNat ≠ 0 := fun none =>
    lasting kind (UInt64.toNat_inj.mp none)
  exact Nat.mul_pos (Nat.pos_of_ne_zero some) (by decide)

variable {settings : ChallengeSettings} {now : Instant} {journal : Journal ν}

omit [CaptchaVerifier ν] in
theorem Sound.later (sound : Sound settings now journal) {later : Instant}
    (ordered : now.nanos ≤ later.nanos) : Sound settings later journal :=
  ⟨sound.configured, sound.idle, fun key => (sound.counters key).later ordered⟩

omit [CaptchaVerifier ν] in
theorem Sound.limit (sound : Sound settings now journal) (kind : ActionKind) :
    journal.challenges.limit kind = settings.limit kind := by
  rw [Challenges.limit, sound.configured]

theorem take_sound (lasting : Lasting settings) (sound : Sound settings now journal) {task : Task}
    (inTime : ∀ key, task = .record key →
      now.nanos + (settings.limit key.kind).window.nanos < Instant.horizon) :
    Sound settings now (journal.take now task) := by
  have each : ∀ key, ∃ records verifier tally,
      (journal.take now task).challenges = journal.challenges.changed records verifier tally ∧
        Matches key (settings.limit key.kind).window now (records.get? key)
          (journal.take now task).turns := by
    intro key
    have within : task = .record key →
        now.nanos + (journal.challenges.limit key.kind).window.nanos < Instant.horizon :=
      sound.limit key.kind ▸ inTime key
    obtain ⟨records, verifier, tally, left, effect⟩ := perform_effect sound.idle task key within
    rw [sound.limit] at effect
    let turn : Turn := ⟨now, task, (task.perform now journal.challenges).2⟩
    have counters : Matches key (settings.limit key.kind).window turn.now
        (journal.challenges.guarded.store.get? key) journal.turns := sound.counters key
    exact ⟨records, verifier, tally, left, counters.step (lasting.positive key.kind) effect⟩
  obtain ⟨records, verifier, tally, left, _⟩ := each ⟨"", .email⟩
  refine ⟨?_, ?_, fun key => ?_⟩
  · rw [left]
    exact sound.configured
  · rw [left]
    exact sound.idle
  · obtain ⟨records, verifier, tally, left, counter⟩ := each key
    rw [left]
    exact counter

/-- A journal that is sound at the times of its tasks is sound after them. -/
theorem after_sound (lasting : Lasting settings) {tasks : List (Instant × Task)}
    (inTime : InTime settings tasks) (now : Instant)
    (ordered : (tasks.map Prod.fst ++ [now]).Pairwise (· ≤ ·)) {journal : Journal ν}
    (sound : ∀ time ∈ tasks.map Prod.fst ++ [now], Sound settings time journal) :
    Sound settings now (journal.after tasks) := by
  induction tasks generalizing journal with
  | nil => exact sound now List.mem_cons_self
  | cons task rest inductionHypothesis =>
    obtain ⟨first, others⟩ := List.pairwise_cons.mp ordered
    have taken := take_sound lasting (sound task.1 List.mem_cons_self)
      (inTime task List.mem_cons_self)
    exact inductionHypothesis (fun other member => inTime other (List.mem_cons_of_mem _ member))
      others fun time member => taken.later (first time member)

omit [CaptchaVerifier ν] in
theorem begin_sound (settings : ChallengeSettings) (breaker : BreakerSettings)
    (start now : Instant) (verifier : ν) :
    Sound settings now (begin (.ofStore settings (.ofSettings breaker start) .empty verifier)) :=
  ⟨rfl, Breaker.idle_ofSettings breaker start, fun key => .empty key _ now⟩

/-! ### What the counters show -/

omit [CaptchaVerifier ν] in
theorem attempts_result (sound : Sound settings now journal) (key : ChallengeKey) :
    ∃ attempts,
      ((Challenges.attempts now key).run journal.challenges).result = .ok (some attempts) ∧
      attempts.toNat = min 4294967295
        (Turn.countAt key (settings.limit key.kind).window journal.turns now) := by
  rw [run_attempts sound.idle]
  exact ⟨_, rfl, (sound.counters key).count⟩

theorem ofAttempts_eq {attempts : UInt32} {count : Nat} (threshold : UInt32)
    (shown : attempts.toNat = min 4294967295 count) :
    ChallengeLevel.ofAttempts attempts threshold =
      if threshold.toNat ≤ count then .required else if count = 0 then .clear else .armed := by
  have most := threshold.toNat_lt
  have reached : threshold ≤ attempts ↔ threshold.toNat ≤ count := by
    rw [UInt32.le_iff_toNat_le]
    omega
  have unused : attempts = 0 ↔ count = 0 := by
    rw [← UInt32.toNat_inj]
    show attempts.toNat = 0 ↔ count = 0
    omega
  unfold ChallengeLevel.ofAttempts
  simp only [reached, unused]

omit [CaptchaVerifier ν] in
theorem level_result (sound : Sound settings now journal) (key : ChallengeKey) :
    let count := Turn.countAt key (settings.limit key.kind).window journal.turns now
    ((level now key).run journal.challenges).result =
      .ok (if (settings.limit key.kind).threshold.toNat ≤ count then .required
        else if count = 0 then .clear else .armed) := by
  dsimp only
  have limit := sound.limit key.kind
  by_cases zero : (settings.limit key.kind).threshold = 0
  · rw [run_level, limit]
    simp [zero]
  · rw [run_level_of_ne_zero sound.idle (limit ▸ zero), limit]
    exact congrArg Except.ok (ofAttempts_eq _ (sound.counters key).count)

end Journal

end Challenges

end Gatekeeper
