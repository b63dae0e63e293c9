/-
This file says what the parts of a gate do when their stores live in memory. Such a store never
refuses, so its breaker never leaves the state it was made in, and each call comes down to what it
does to the records.
-/
import Gatekeeper.Proofs.Parts
import Gatekeeper.Store.Memory

namespace Gatekeeper

variable {α κ ν σ : Type}

/-! ### Breakers that nothing has happened to -/

namespace Breaker

/-- The circuit is closed and no failure has been counted. -/
structure Idle (breaker : Breaker) : Prop where
  state : breaker.state = .closed
  failures : breaker.failures = 0

theorem idle_ofSettings (settings : BreakerSettings) (now : Instant) :
    (ofSettings settings now).Idle :=
  ⟨rfl, rfl⟩

variable {breaker : Breaker}

theorem Idle.allow (idle : breaker.Idle) (now : Instant) : breaker.allow now = (true, breaker) := by
  unfold Breaker.allow
  rw [idle.state]

theorem Idle.succeed (idle : breaker.Idle) : breaker.succeed = breaker := by
  obtain ⟨settings, epoch, state, failures, lastFailure⟩ := breaker
  obtain ⟨closed, none⟩ := idle
  cases closed
  cases none
  rfl

end Breaker

namespace GuardedStore

variable {now : Instant} {policy : FailurePolicy} {call : StoreCall} {subject : StoreSubject}
  {question : σ → Reply α × σ} {guarded : GuardedStore σ}

/-- An answer comes through an idle breaker and leaves it idle. -/
theorem run_ask_of_answer (idle : guarded.breaker.Idle) {value : α} {store : σ}
    (answered : question guarded.store = (.answer value, store)) :
    (ask now policy call subject question).run guarded =
      ⟨.ok (some value), { guarded with store := store }, []⟩ := by
  simp only [Activity.run, ask, idle.allow, answered, if_true, idle.succeed]

theorem run_ask_of_fault (idle : guarded.breaker.Idle) {fault : Fault} {store : σ}
    (faulted : question guarded.store = (.fault fault, store)) :
    (ask now policy call subject question).run guarded =
      ⟨.error fault, { guarded with store := store }, []⟩ := by
  simp only [Activity.run, ask, idle.allow, faulted, if_true]

end GuardedStore

/-! ### Duplicates -/

theorem DuplicateRecords.isLive_eq_true_iff {records : DuplicateRecords} {fingerprint : Fingerprint}
    {now : Instant} :
    records.isLive fingerprint now = true ↔
      ∃ expiresAt, records.get? fingerprint = some expiresAt ∧ now.nanos < expiresAt.nanos := by
  unfold isLive isExpired
  cases records.get? fingerprint with
  | none => simp
  | some expiresAt => simp [Instant.le_iff]

namespace Duplicates

variable {now : Instant} {fingerprint : Fingerprint} {duplicates : Duplicates DuplicateRecords}

/-- While a fingerprint is live it is rejected, and no record changes. -/
theorem run_hold_of_live (idle : duplicates.guarded.breaker.Idle)
    (live : duplicates.guarded.store.isLive fingerprint now = true) :
    (hold now fingerprint).run duplicates =
      ⟨.ok (.error (.duplicateRejected fingerprint)),
        { duplicates with
          tally := { duplicates.tally with rejected := duplicates.tally.rejected + 1 } },
        [.duplicateChecked fingerprint .rejected]⟩ := by
  have answered : entry now fingerprint duplicates duplicates.guarded.store =
      (.answer false, duplicates.guarded.store) := if_pos live
  rw [hold, Activity.run_bind, run_enter, run_ask, GuardedStore.run_ask_of_answer idle answered]
  rfl

/-- A fingerprint that is not live is entered until the window elapses. -/
theorem run_hold_of_new (idle : duplicates.guarded.breaker.Idle)
    (new : duplicates.guarded.store.isLive fingerprint now = false) {expiresAt : Instant}
    (within : now.after? duplicates.settings.window = some expiresAt) :
    (hold now fingerprint).run duplicates =
      ⟨.ok (.ok fingerprint),
        { duplicates with
          guarded := { duplicates.guarded with
            store := duplicates.guarded.store.insert fingerprint expiresAt }
          tally := { duplicates.tally with admitted := duplicates.tally.admitted + 1 } },
        [.duplicateChecked fingerprint .admitted]⟩ := by
  have answered : entry now fingerprint duplicates duplicates.guarded.store =
      (.answer true, duplicates.guarded.store.insert fingerprint expiresAt) := by
    show DuplicateRecords.tryInsert _ _ _ _ = _
    rw [DuplicateRecords.tryInsert, new, within]
    rfl
  rw [hold, Activity.run_bind, run_enter, run_ask, GuardedStore.run_ask_of_answer idle answered]
  rfl

/-- Where the end of the window cannot be represented, entering faults and changes nothing. -/
theorem run_hold_of_overflow (idle : duplicates.guarded.breaker.Idle)
    (new : duplicates.guarded.store.isLive fingerprint now = false)
    (beyond : now.after? duplicates.settings.window = none) :
    (hold now fingerprint).run duplicates = ⟨.error .expiryOverflow, duplicates, []⟩ := by
  have faulted : entry now fingerprint duplicates duplicates.guarded.store =
      (.fault .expiryOverflow, duplicates.guarded.store) := by
    show DuplicateRecords.tryInsert _ _ _ _ = _
    rw [DuplicateRecords.tryInsert, new, beyond]
    rfl
  rw [hold, Activity.run_bind, run_enter, run_ask, GuardedStore.run_ask_of_fault idle faulted]

theorem run_release (idle : duplicates.guarded.breaker.Idle) :
    (release now fingerprint).run duplicates =
      ⟨.ok (),
        { duplicates with
          guarded := { duplicates.guarded with
            store := duplicates.guarded.store.erase fingerprint }
          tally := { duplicates.tally with released := duplicates.tally.released + 1 } },
        [.fingerprintReleased fingerprint]⟩ := by
  have answered : DuplicateStore.remove duplicates.guarded.store fingerprint =
      (.answer (), duplicates.guarded.store.erase fingerprint) := rfl
  rw [release, Activity.run_bind, run_ask, GuardedStore.run_ask_of_answer idle answered]
  rfl

end Duplicates

/-! ### Attempts -/

theorem toNat_saturatingSucc (count : UInt32) :
    (saturatingSucc count).toNat = min 4294967295 (count.toNat + 1) := by
  have most := count.toNat_lt
  by_cases full : count = 4294967295
  · subst full
    rfl
  · have below : count.toNat ≠ 4294967295 := fun same => full (UInt32.toNat_inj.mp same)
    rw [saturatingSucc, if_neg full, UInt32.toNat_add]
    simp
    omega

/-- A count that something is above has not come to its end. -/
theorem toNat_saturatingSucc_of_lt {count bound : UInt32} (below : count < bound) :
    (saturatingSucc count).toNat = count.toNat + 1 := by
  have less := UInt32.lt_iff_toNat_lt.mp below
  have most := bound.toNat_lt
  rw [toNat_saturatingSucc]
  omega

namespace AttemptWindow

/-- A window, unless it has elapsed. -/
def live? (window : Option AttemptWindow) (now : Instant) : Option AttemptWindow :=
  window.filter fun window => !window.isExpired now

/-- The window with one more attempt, or a new one with the first. -/
def next? (live : Option AttemptWindow) (now : Instant) (length : Duration) :
    Option AttemptWindow :=
  match live with
  | some window => some window.count
  | none => (open? now length).map count

theorem live?_eq_some_iff {window : Option AttemptWindow} {now : Instant} {found : AttemptWindow} :
    live? window now = some found ↔
      window = some found ∧ now.nanos < found.expiresAt.nanos := by
  unfold live? isExpired
  rw [Option.filter_eq_some_iff]
  simp only [Instant.le_iff, Bool.not_eq_true', decide_eq_false_iff_not, Int.not_le]

theorem live?_eq_none_iff {window : Option AttemptWindow} {now : Instant} :
    live? window now = none ↔
      ∀ found, window = some found → found.expiresAt.nanos ≤ now.nanos := by
  unfold live? isExpired
  rw [Option.filter_eq_none_iff]
  simp only [Instant.le_iff, Bool.not_eq_true', decide_eq_false_iff_not, Decidable.not_not]

theorem next?_none_eq_some_iff {now : Instant} {length : Duration} {window : AttemptWindow} :
    next? none now length = some window ↔
      ∃ expiresAt, now.after? length = some expiresAt ∧ window = ⟨1, expiresAt⟩ := by
  unfold next? open?
  cases now.after? length with
  | none => simp
  | some expiresAt => simp [count, saturatingSucc, eq_comm]

/-- What has elapsed once does not come back. -/
theorem live?_live? (window : Option AttemptWindow) {now later : Instant}
    (ordered : now.nanos ≤ later.nanos) : live? (live? window now) later = live? window later := by
  refine Option.ext fun found => ?_
  rw [live?_eq_some_iff, live?_eq_some_iff, live?_eq_some_iff]
  constructor
  · rintro ⟨⟨same, _⟩, within⟩
    exact ⟨same, within⟩
  · rintro ⟨same, within⟩
    exact ⟨⟨same, Int.lt_of_le_of_lt ordered within⟩, within⟩

end AttemptWindow

namespace AttemptRecords

variable (records : AttemptRecords) (key : ChallengeKey) (now : Instant)

/-- The window of a key, unless it has elapsed. -/
def live? : Option AttemptWindow :=
  AttemptWindow.live? (records.get? key) now

/-- What the live window of a key counts. -/
def countAt : UInt32 :=
  ((records.live? key now).map AttemptWindow.attempts).getD 0

/-- Reading a counter drops its window if that has elapsed, and nothing else. -/
theorem get?_attempts (other : ChallengeKey) :
    (records.attempts key now).2.get? other =
      if other = key then records.live? key now else records.get? other := by
  unfold attempts live? AttemptWindow.live? KeyedStore.takeIf
  cases found : records.get? key with
  | none =>
    by_cases same : other = key
    · rw [if_pos same, same]
      exact found
    · rw [if_neg same]
  | some window =>
    cases elapsed : window.isExpired now with
    | true =>
      simp only [if_true, KeyedStore.take, KeyedStore.get?_erase, Option.filter, elapsed,
        Bool.not_true, Bool.false_eq_true, if_false]
    | false =>
      simp only [Bool.false_eq_true, if_false, Option.filter, elapsed, Bool.not_false, if_true]
      by_cases same : other = key
      · rw [if_pos same, same, found]
      · rw [if_neg same]

theorem attempts_fst : (records.attempts key now).1 = records.countAt key now := by
  have read := records.get?_attempts key now key
  rw [if_pos rfl] at read
  show (((records.attempts key now).2.get? key).map AttemptWindow.attempts).getD 0 = _
  rw [read]
  rfl

/-- An attempt is counted in the live window, or else in a new one. -/
theorem recorded?_eq (length : Duration) :
    records.recorded? key now length = AttemptWindow.next? (records.live? key now) now length := by
  unfold recorded? live? AttemptWindow.live?
  cases records.get? key with
  | none => rfl
  | some window =>
    cases elapsed : window.isExpired now with
    | true => simp [AttemptWindow.record?, AttemptWindow.next?, Option.filter, elapsed]
    | false => simp [AttemptWindow.record?, AttemptWindow.next?, Option.filter, elapsed]

end AttemptRecords

namespace Challenges

variable {now : Instant} {key : ChallengeKey} {challenges : Challenges AttemptRecords ν}

/-- The part with other records, another verifier and other counts. -/
def changed (challenges : Challenges AttemptRecords ν) (records : AttemptRecords) (verifier : ν)
    (tally : ChallengeTally) : Challenges AttemptRecords ν where
  settings := challenges.settings
  guarded := { challenges.guarded with store := records }
  verifier := verifier
  tally := tally

theorem run_attempts (idle : challenges.guarded.breaker.Idle) :
    (attempts now key).run challenges =
      ⟨.ok (some (challenges.guarded.store.countAt key now)),
        challenges.changed (challenges.guarded.store.attempts key now).2 challenges.verifier
          challenges.tally,
        []⟩ := by
  have answered : AttemptStore.attempts challenges.guarded.store key now =
      (.answer (challenges.guarded.store.countAt key now),
        (challenges.guarded.store.attempts key now).2) := by
    rw [← AttemptRecords.attempts_fst]
    rfl
  rw [attempts, run_ask, GuardedStore.run_ask_of_answer idle answered]
  rfl

theorem run_level_of_ne_zero (idle : challenges.guarded.breaker.Idle)
    (some : (challenges.limit key.kind).threshold ≠ 0) :
    (level now key).run challenges =
      ⟨.ok (.ofAttempts (challenges.guarded.store.countAt key now)
          (challenges.limit key.kind).threshold),
        challenges.changed (challenges.guarded.store.attempts key now).2 challenges.verifier
          challenges.tally,
        []⟩ := by
  rw [run_level]
  dsimp only
  rw [if_neg some]
  have read := @run_attempts ν now key challenges idle
  rw [attempts] at read
  unfold reading
  rw [read]
  rfl

theorem run_clear (idle : challenges.guarded.breaker.Idle) :
    (ask now .clearAttempts key fun store : AttemptRecords => AttemptStore.clear store key).run
        challenges =
      ⟨.ok (some ()),
        challenges.changed (challenges.guarded.store.erase key) challenges.verifier
          challenges.tally,
        []⟩ := by
  have answered : AttemptStore.clear challenges.guarded.store key =
      (.answer (), challenges.guarded.store.erase key) := rfl
  rw [run_ask, GuardedStore.run_ask_of_answer idle answered]
  rfl

/-- The right answer to a captcha clears the counter. -/
theorem run_verify_of_passed [CaptchaVerifier ν] (idle : challenges.guarded.breaker.Idle)
    {token : CaptchaToken}
    (passed : (CaptchaVerifier.verify challenges.verifier now key.user key.kind token).1 =
      .answer true) :
    (verify now key token).run challenges =
      ⟨.ok .passed,
        challenges.changed (challenges.guarded.store.erase key)
          (CaptchaVerifier.verify challenges.verifier now key.user key.kind token).2
          { challenges.tally with passed := challenges.tally.passed + 1 },
        [.verificationPassed key]⟩ := by
  have cleared := @run_clear ν now key { challenges with
    verifier := (CaptchaVerifier.verify challenges.verifier now key.user key.kind token).2
    tally := { challenges.tally with passed := challenges.tally.passed + 1 } } idle
  rw [verify, Activity.run_bind, run_consult]
  dsimp only
  rw [passed]
  simp only [if_true, count, Activity.run_bind, Activity.run_change, cleared]
  rfl

/-- A wrong answer is turned away, and changes nothing but the verifier and the tally. -/
theorem run_verify_of_failed [CaptchaVerifier ν] {token : CaptchaToken}
    (failed : (CaptchaVerifier.verify challenges.verifier now key.user key.kind token).1 =
      .answer false) :
    (verify now key token).run challenges =
      ⟨.ok .failed,
        challenges.changed challenges.guarded.store
          (CaptchaVerifier.verify challenges.verifier now key.user key.kind token).2
          { challenges.tally with failed := challenges.tally.failed + 1 },
        [.verificationFailed key]⟩ := by
  rw [verify, Activity.run_bind, run_consult]
  dsimp only
  rw [failed]
  rfl

/-- Recording counts one more attempt in the window that there is then. -/
theorem run_record_of_some (idle : challenges.guarded.breaker.Idle) {window : AttemptWindow}
    (recorded : challenges.guarded.store.recorded? key now (challenges.limit key.kind).window =
      some window) :
    (record now key).run challenges =
      ⟨.ok (some window.attempts),
        challenges.changed (challenges.guarded.store.insert key window) challenges.verifier
          { challenges.tally with
            attemptsRecorded := challenges.tally.attemptsRecorded + 1 },
        [.attemptRecorded key window.attempts]⟩ := by
  have answered : AttemptStore.increment challenges.guarded.store key now
      (challenges.limit key.kind).window =
        (.answer window.attempts, challenges.guarded.store.insert key window) := by
    show AttemptRecords.increment _ _ _ _ = _
    rw [AttemptRecords.increment, recorded]
  rw [record, Activity.run_state_bind, Activity.run_bind, run_ask,
    GuardedStore.run_ask_of_answer idle answered]
  rfl

theorem run_record_of_none (idle : challenges.guarded.breaker.Idle)
    (beyond : challenges.guarded.store.recorded? key now (challenges.limit key.kind).window =
      none) :
    (record now key).run challenges = ⟨.error .expiryOverflow, challenges, []⟩ := by
  have faulted : AttemptStore.increment challenges.guarded.store key now
      (challenges.limit key.kind).window = (.fault .expiryOverflow, challenges.guarded.store) := by
    show AttemptRecords.increment _ _ _ _ = _
    rw [AttemptRecords.increment, beyond]
  rw [record, Activity.run_state_bind, Activity.run_bind, run_ask,
    GuardedStore.run_ask_of_fault idle faulted]

end Challenges

end Gatekeeper
