/-
This file follows what a request leaves behind at the challenges when the counters live in memory.
It is checked at most once, before its action, and counted at most once, after it; both concern one
counter, that of its user and kind. Everything else that happens to the request leaves the
challenges as they are and logs nothing about them.
-/
import Gatekeeper.Proofs.Marks
import Gatekeeper.Proofs.Memory
import Gatekeeper.Proofs.Screening

namespace Gatekeeper

variable {δ κ ν α β ε : Type}

/-! ### Checks in memory -/

namespace Challenges

variable {now : Instant} {key : ChallengeKey} {challenges : Challenges AttemptRecords ν}

/-- No captcha has been passed, and nothing but an elapsed window has been dropped. -/
structure Unpassed (now : Instant) (key : ChallengeKey) (before : AttemptRecords)
    (events : List Event) (after : AttemptRecords) : Prop where
  unmarked : Event.Unmarked events
  others : ∀ other, other ≠ key → after.get? other = before.get? other
  own : after.get? key = before.get? key ∨ after.get? key = before.live? key now

/-- A captcha has been passed, and the counter has been cleared. -/
structure Passed (key : ChallengeKey) (before : AttemptRecords) (events : List Event)
    (after : AttemptRecords) : Prop where
  passes : ∀ other, Event.hasPass other events = decide (other = key)
  records : ∀ other, Event.hasRecord other events = false
  others : ∀ other, other ≠ key → after.get? other = before.get? other
  own : after.get? key = none

theorem Unpassed.refl (now : Instant) (key : ChallengeKey) (records : AttemptRecords)
    {events : List Event} (unmarked : Event.Unmarked events) :
    Unpassed now key records events records :=
  ⟨unmarked, fun _ _ => rfl, .inl rfl⟩

theorem Passed.erase (key : ChallengeKey) (records : AttemptRecords) :
    Passed key records [.verificationPassed key] (records.erase key) := by
  refine ⟨fun other => ?_, fun _ => rfl, fun other apart => ?_, ?_⟩
  · simp [Event.hasPass, eq_comm]
  · rw [KeyedStore.get?_erase_of_ne _ apart]
  · rw [KeyedStore.get?_erase_self]

/-- An elapsed window that has been dropped before does not show in what a check does after it. -/
theorem Unpassed.then_passed {before pruned after : AttemptRecords} {events : List Event}
    (dropped : Unpassed now key before [] pruned) (passed : Passed key pruned events after) :
    Passed key before events after :=
  ⟨passed.passes, passed.records,
    fun other apart => (passed.others other apart).trans (dropped.others other apart), passed.own⟩

theorem Unpassed.then_unmarked {before pruned : AttemptRecords} {events : List Event}
    (dropped : Unpassed now key before [] pruned) (unmarked : Event.Unmarked events) :
    Unpassed now key before events pruned :=
  ⟨unmarked, dropped.others, dropped.own⟩

/-- Reading a level drops an elapsed window at most, and a level that asks for no captcha is one of
fewer attempts than the threshold. -/
theorem level_cases (now : Instant) (key : ChallengeKey) (idle : challenges.guarded.breaker.Idle) :
    let before := challenges.guarded.store
    let threshold := (challenges.limit key.kind).threshold
    ∃ level records, (Challenges.level now key).run challenges =
        ⟨.ok level, challenges.changed records challenges.verifier challenges.tally, []⟩ ∧
      Unpassed now key before [] records ∧
      (level.isRequired = false → threshold ≠ 0 ∧ before.countAt key now < threshold) := by
  dsimp only
  by_cases zero : (challenges.limit key.kind).threshold = 0
  · refine ⟨.required, challenges.guarded.store, ?_, .refl now key _ fun _ => ⟨rfl, rfl⟩,
      fun free => absurd free (by decide)⟩
    rw [run_level]
    dsimp only
    rw [if_pos zero]
    rfl
  · refine ⟨_, _, run_level_of_ne_zero idle zero, ⟨fun _ => ⟨rfl, rfl⟩,
      fun other apart => ?_, .inr ?_⟩, fun free => ⟨zero, ?_⟩⟩
    · rw [AttemptRecords.get?_attempts, if_neg apart]
    · rw [AttemptRecords.get?_attempts, if_pos rfl]
    · rw [isRequired_ofAttempts] at free
      exact UInt32.not_le.mp (of_decide_eq_false free)

section Captchas

variable [CaptchaVerifier ν]

/-- An answer that is not the right one changes no counter. -/
theorem verify_of_not_passed (now : Instant) (key : ChallengeKey)
    (challenges : Challenges AttemptRecords ν) {token : CaptchaToken}
    (wrong : (CaptchaVerifier.verify challenges.verifier now key.user key.kind token).1 ≠
      .answer true) :
    let outcome := (verify now key token).run challenges
    outcome.result ≠ .ok .passed ∧ Event.Unmarked outcome.events ∧ ∃ verifier tally,
      outcome.state = challenges.changed challenges.guarded.store verifier tally := by
  dsimp only
  rw [verify, Activity.run_bind, run_consult]
  dsimp only
  cases said : (CaptchaVerifier.verify challenges.verifier now key.user key.kind token).1 with
  | fault fault =>
    refine ⟨fun passed => ?_, fun _ => ⟨rfl, rfl⟩, _, _, rfl⟩
    cases passed
  | refused error =>
    refine ⟨fun passed => ?_, fun _ => ⟨rfl, rfl⟩, _, _, rfl⟩
    cases passed
  | answer passed =>
    cases passed with
    | true => exact absurd said wrong
    | false =>
      refine ⟨fun passed => ?_, fun _ => ⟨rfl, rfl⟩, _, _, rfl⟩
      cases passed

/-- The answer to a captcha is either passed, and then the counter is cleared, or not, and then the
counters stay as they are. -/
theorem verify_cases (now : Instant) (key : ChallengeKey) (idle : challenges.guarded.breaker.Idle)
    (token : CaptchaToken) :
    let before := challenges.guarded.store
    let outcome := (verify now key token).run challenges
    ∃ records verifier tally, outcome.state = challenges.changed records verifier tally ∧
      (Passed key before outcome.events records ∨
        outcome.result ≠ .ok .passed ∧ Event.Unmarked outcome.events ∧ records = before) := by
  dsimp only
  by_cases said : (CaptchaVerifier.verify challenges.verifier now key.user key.kind token).1 =
      .answer true
  · rw [run_verify_of_passed idle said]
    exact ⟨_, _, _, rfl, .inl (.erase key challenges.guarded.store)⟩
  · obtain ⟨failed, unmarked, verifier, tally, state⟩ :=
      verify_of_not_passed now key challenges said
    exact ⟨_, verifier, tally, state, .inr ⟨failed, unmarked, rfl⟩⟩

/-- A check passes a captcha, or it does not; then the counters are as before but for an elapsed
window, and if the request goes on fewer attempts than the threshold have been counted. -/
theorem check_cases (now : Instant) (key : ChallengeKey) (idle : challenges.guarded.breaker.Idle)
    (token : Option CaptchaToken) :
    let before := challenges.guarded.store
    let threshold := (challenges.limit key.kind).threshold
    let outcome := (check now key token).run challenges
    ∃ records verifier tally, outcome.state = challenges.changed records verifier tally ∧
      (Passed key before outcome.events records ∨
        Unpassed now key before outcome.events records ∧
          (outcome.result = .ok (.ok ()) →
            threshold ≠ 0 ∧ before.countAt key now < threshold)) := by
  obtain ⟨level, pruned, read, dropped, free⟩ := level_cases now key idle
  have levelled : ((Challenges.level now key).run challenges).result = .ok level := by rw [read]
  dsimp only
  unfold check
  rw [Activity.run_bind_of_ok levelled, read]
  dsimp only
  cases required : level.isRequired with
  | false => exact ⟨pruned, _, _, rfl, .inr ⟨dropped, fun _ => free required⟩⟩
  | true =>
    cases token with
    | none =>
      refine ⟨pruned, _, _, rfl, .inr ⟨dropped, fun verdict => ?_⟩⟩
      simp [Activity.run_bind, Activity.run_pure, count, Activity.run_change] at verdict
    | some given =>
      have stillIdle : (challenges.changed pruned challenges.verifier
        challenges.tally).guarded.breaker.Idle := idle
      obtain ⟨records, verifier, tally, state, verified⟩ := verify_cases now key stillIdle given
      rw [if_pos rfl]
      dsimp only
      rw [Activity.run_bind]
      generalize (verify now key given).run
        (challenges.changed pruned challenges.verifier challenges.tally) = outcome at state verified
      obtain ⟨result, after, events⟩ := outcome
      cases state
      have logged : Passed key challenges.guarded.store events records ∨
          result ≠ .ok .passed ∧ Unpassed now key challenges.guarded.store events records := by
        rcases verified with passed | ⟨failed, unmarked, same⟩
        · exact .inl (dropped.then_passed passed)
        · rw [same]
          exact .inr ⟨failed, dropped.then_unmarked unmarked⟩
      rcases result with fault | verification
      · exact ⟨records, verifier, tally, rfl,
          logged.imp id fun failed => ⟨failed.2, fun verdict => by cases verdict⟩⟩
      · cases verification with
        | passed =>
          simp only [Activity.run_pure, List.append_nil, List.nil_append]
          exact ⟨records, verifier, tally, rfl, logged.imp id fun failed => absurd rfl failed.1⟩
        | failed =>
          simp only [Activity.run_pure, List.append_nil, List.nil_append]
          exact ⟨records, verifier, tally, rfl,
            logged.imp id fun failed => ⟨failed.2, fun verdict => by cases verdict⟩⟩

end Captchas

end Challenges

/-! ### What a check does with the verifier -/

/-- The verifier will say yes or no. -/
def CaptchaVerifier.Answers [CaptchaVerifier ν] (verifier : ν) : Prop :=
  ∀ (now : Instant) (user : String) (kind : ActionKind) (token : CaptchaToken),
    ∃ passed, (CaptchaVerifier.verify verifier now user kind token).1 = .answer passed

namespace Challenges

variable [CaptchaVerifier ν] {now : Instant} {key : ChallengeKey}
  {challenges : Challenges AttemptRecords ν}

/-- The verifier is not asked: no captcha is needed, or none is handed in. -/
structure Unasked (now : Instant) (key : ChallengeKey) (challenges : Challenges AttemptRecords ν)
    (outcome : Outcome (Challenges AttemptRecords ν) (Except Rejection Unit)) : Prop where
  result : outcome.result = .ok (.ok ()) ∨
    outcome.result = .ok (.error (.challengeRequired key.kind))
  left : ∃ records tally,
    outcome.state = challenges.changed records challenges.verifier tally ∧
      Unpassed now key challenges.guarded.store outcome.events records

/-- The verifier says no to the answer that is handed in. -/
structure Failed (now : Instant) (key : ChallengeKey) (token : CaptchaToken)
    (challenges : Challenges AttemptRecords ν)
    (outcome : Outcome (Challenges AttemptRecords ν) (Except Rejection Unit)) : Prop where
  result : outcome.result = .ok (.error (.challengeFailed key.kind))
  left : ∃ records tally,
    outcome.state = challenges.changed records
        (CaptchaVerifier.verify challenges.verifier now key.user key.kind token).2 tally ∧
      Unpassed now key challenges.guarded.store outcome.events records

/-- The verifier says yes to the answer that is handed in. -/
structure Accepted (now : Instant) (key : ChallengeKey) (token : CaptchaToken)
    (challenges : Challenges AttemptRecords ν)
    (outcome : Outcome (Challenges AttemptRecords ν) (Except Rejection Unit)) : Prop where
  said : (CaptchaVerifier.verify challenges.verifier now key.user key.kind token).1 = .answer true
  result : outcome.result = .ok (.ok ())
  left : ∃ records tally,
    outcome.state = challenges.changed records
        (CaptchaVerifier.verify challenges.verifier now key.user key.kind token).2 tally ∧
      Passed key challenges.guarded.store outcome.events records

/-- The three ways in which a check can go. -/
theorem check_trichotomy (now : Instant) (key : ChallengeKey)
    (idle : challenges.guarded.breaker.Idle)
    (answers : CaptchaVerifier.Answers challenges.verifier) (token : Option CaptchaToken) :
    let outcome := (check now key token).run challenges
    Unasked now key challenges outcome ∨ ∃ given, token = some given ∧
      (Failed now key given challenges outcome ∨ Accepted now key given challenges outcome) := by
  obtain ⟨level, pruned, read, dropped, _⟩ := level_cases now key idle
  have levelled : ((Challenges.level now key).run challenges).result = .ok level := by rw [read]
  dsimp only
  unfold check
  rw [Activity.run_bind_of_ok levelled, read]
  dsimp only
  cases required : level.isRequired with
  | false => exact .inl ⟨.inl rfl, pruned, _, rfl, dropped⟩
  | true =>
    cases token with
    | none => exact .inl ⟨.inr rfl, pruned, _, rfl, dropped⟩
    | some given =>
      refine .inr ⟨given, rfl, ?_⟩
      let read := challenges.changed pruned challenges.verifier challenges.tally
      have still : read.guarded.breaker.Idle := idle
      rw [if_pos rfl]
      obtain ⟨passed, said⟩ := answers now key.user key.kind given
      cases passed with
      | false =>
        have verified := @run_verify_of_failed ν now key read _ given said
        have ended : ((verify now key given).run read).result = .ok .failed := by rw [verified]
        dsimp only
        rw [Activity.run_bind_of_ok ended, verified]
        exact .inl ⟨rfl, pruned, _, rfl, dropped.then_unmarked fun _ => ⟨rfl, rfl⟩⟩
      | true =>
        have verified := @run_verify_of_passed ν now key read _ still given said
        have ended : ((verify now key given).run read).result = .ok .passed := by rw [verified]
        dsimp only
        rw [Activity.run_bind_of_ok ended, verified]
        exact .inr ⟨said, rfl, pruned.erase key, _, rfl, dropped.then_passed (.erase key pruned)⟩

end Challenges

/-! ### Requests -/

namespace Gate

/-- What an activity at a gate leaves at the challenges, and what it says of the counters. It takes
no time. -/
structure Shows (gate : Gate δ κ ν) (outcome : Outcome (Gate δ κ ν) α)
    (challenges : Challenges κ ν) (events : List Event) : Prop where
  now : outcome.state.now = gate.now
  challenges : outcome.state.challenges = challenges
  passes : ∀ key, Event.hasPass key outcome.events = Event.hasPass key events
  records : ∀ key, Event.hasRecord key outcome.events = Event.hasRecord key events

namespace Shows

variable {gate : Gate δ κ ν} {activity : Activity (Gate δ κ ν) α}
  {next : α → Activity (Gate δ κ ν) β} {challenges later : Challenges κ ν}
  {events others : List Event}

theorem pure (value : α) (gate : Gate δ κ ν) :
    Shows gate ((pure value : Activity (Gate δ κ ν) α).run gate) gate.challenges [] :=
  ⟨rfl, rfl, fun _ => rfl, fun _ => rfl⟩

theorem fault (fault : Fault) (gate : Gate δ κ ν) :
    Shows gate ((Activity.fault fault : Activity (Gate δ κ ν) α).run gate) gate.challenges [] :=
  ⟨rfl, rfl, fun _ => rfl, fun _ => rfl⟩

theorem log {event : Event} (unmarked : Event.Unmarked [event]) (gate : Gate δ κ ν) :
    Shows gate ((Activity.log event).run gate) gate.challenges [] :=
  ⟨rfl, rfl, fun key => (unmarked key).1, fun key => (unmarked key).2⟩

theorem onDuplicates {activity : Instant → Activity (Duplicates δ) α}
    (unmarked : ∀ now, (activity now).Unmarked) (gate : Gate δ κ ν) :
    Shows gate ((Gate.onDuplicates activity).run gate) gate.challenges [] :=
  ⟨rfl, rfl, fun key => (unmarked gate.now gate.duplicates key).1,
    fun key => (unmarked gate.now gate.duplicates key).2⟩

theorem onPermissions {activity : Activity Permissions α} (unmarked : activity.Unmarked)
    (gate : Gate δ κ ν) :
    Shows gate ((Gate.onPermissions activity).run gate) gate.challenges [] :=
  ⟨rfl, rfl, fun key => (unmarked gate.permissions key).1,
    fun key => (unmarked gate.permissions key).2⟩

theorem bind_of_error (shows : Shows gate (activity.run gate) challenges events) {fault : Fault}
    (ended : (activity.run gate).result = .error fault) :
    Shows gate ((activity >>= next).run gate) challenges events := by
  rw [Activity.run_bind_of_error ended]
  exact ⟨shows.now, shows.challenges, shows.passes, shows.records⟩

theorem bind_of_ok (shows : Shows gate (activity.run gate) challenges events) {value : α}
    (ended : (activity.run gate).result = .ok value)
    (afterwards : Shows (activity.run gate).state ((next value).run (activity.run gate).state) later
      others) :
    Shows gate ((activity >>= next).run gate) later (events ++ others) := by
  rw [Activity.run_bind_of_ok ended]
  refine ⟨afterwards.now.trans shows.now, afterwards.challenges, fun key => ?_, fun key => ?_⟩
  · rw [Event.hasPass_append, Event.hasPass_append, shows.passes, afterwards.passes]
  · rw [Event.hasRecord_append, Event.hasRecord_append, shows.records, afterwards.records]

/-- Going on with something that does not touch the challenges shows nothing more. -/
theorem bind_quiet (shows : Shows gate (activity.run gate) challenges events)
    (quiet : ∀ value state, Shows state ((next value).run state) state.challenges []) :
    Shows gate ((activity >>= next).run gate) challenges events := by
  cases ended : (activity.run gate).result with
  | error fault => exact shows.bind_of_error ended
  | ok value =>
    have both := shows.bind_of_ok ended (quiet value (activity.run gate).state)
    rw [List.append_nil, shows.challenges] at both
    exact both

end Shows

section Quiet

variable [DuplicateStore δ]

theorem holdAny_shows (fingerprint : Option Fingerprint) (gate : Gate δ κ ν) :
    Shows gate ((holdAny fingerprint).run gate) gate.challenges [] := by
  cases fingerprint with
  | none => exact .pure _ gate
  | some fingerprint =>
    exact (Shows.onDuplicates (fun now => Duplicates.hold_unmarked now fingerprint) gate).bind_quiet
      fun _ state => .pure _ state

theorem releaseAny_shows (fingerprint : Option Fingerprint) (gate : Gate δ κ ν) :
    Shows gate ((releaseAny fingerprint).run gate) gate.challenges [] := by
  cases fingerprint with
  | none => exact .pure _ gate
  | some fingerprint =>
    exact .onDuplicates (fun now => Duplicates.release_unmarked now fingerprint) gate

theorem releasingOnFault_shows (fingerprint : Option Fingerprint) {gate : Gate δ κ ν}
    {activity : Activity (Gate δ κ ν) α} {challenges : Challenges κ ν} {events : List Event}
    (shows : Shows gate (activity.run gate) challenges events) :
    Shows gate ((releasingOnFault fingerprint activity).run gate) challenges events := by
  have attempted : Shows gate (activity.attempt.run gate) challenges events :=
    ⟨shows.now, shows.challenges, shows.passes, shows.records⟩
  refine attempted.bind_quiet fun outcome state => ?_
  cases outcome with
  | ok value => exact .pure _ state
  | error fault =>
    exact (releaseAny_shows fingerprint state).bind_quiet fun _ later => .fault _ later

end Quiet

theorem permission_shows (query : PermissionQuery) (gate : Gate δ κ ν) :
    Shows gate ((onPermissions (Permissions.authorize query)).run gate) gate.challenges [] :=
  .onPermissions (Permissions.authorize_unmarked query) gate

section Whole

variable [AttemptStore κ]

theorem recordAny_shows (user : String) (kind : Option ActionKind) (gate : Gate δ κ ν) :
    let recorded := (recordAny user kind).run gate
    Shows gate recorded recorded.state.challenges recorded.events := by
  refine ⟨?_, rfl, fun _ => rfl, fun _ => rfl⟩
  cases kind with
  | none => rfl
  | some kind =>
    unfold recordAny
    rw [Activity.run_bind]
    split <;> rfl

section Settling

variable [DuplicateStore δ] (pass : Pass)

omit [AttemptStore κ] in
/-- What follows on the action of a request, once its attempt has been counted, shows nothing. -/
theorem ending_shows (result : Except ε α) (gate : Gate δ κ ν) :
    let ending : Activity (Gate δ κ ν) (Except (RunError ε) α) :=
      match result with
      | .ok value => do
        .log (.actionCompleted pass.user pass.action)
        return .ok value
      | .error error => do
        releaseAny pass.held
        return .error (.action error)
    Shows gate (ending.run gate) gate.challenges [] := by
  cases result with
  | ok value =>
    exact (Shows.log (fun _ => ⟨rfl, rfl⟩) gate).bind_quiet fun _ later => .pure _ later
  | error error => exact (releaseAny_shows _ gate).bind_quiet fun _ later => .pure _ later

/-- Settling a request whose action has been cut short shows nothing. -/
theorem settle_shows_of_error (fault : Fault) (gate : Gate δ κ ν) :
    let outcome := (settle pass (.error fault : Except Fault (Except ε α))).run gate
    Shows gate outcome gate.challenges [] :=
  (releasingOnFault_shows _ (.fault fault gate)).bind_quiet (ending_shows pass)

/-- Settling a request whose action has come to its end shows what counting its attempt shows. -/
theorem settle_shows_of_ok (result : Except ε α) (gate : Gate δ κ ν) :
    let recorded := (recordAny pass.user pass.counted).run gate
    let outcome := (settle pass (.ok result)).run gate
    Shows gate outcome recorded.state.challenges recorded.events := by
  have counted := (recordAny_shows pass.user pass.counted gate).bind_quiet
    fun _ state => .pure result state
  exact (releasingOnFault_shows _ counted).bind_quiet (ending_shows pass)

/-- Settling a request shows what counting its attempt shows, unless its action has been cut short;
then it shows nothing. -/
theorem settle_shows (ended : Except Fault (Except ε α)) (gate : Gate δ κ ν) :
    let recorded := (recordAny pass.user pass.counted).run gate
    let outcome := (settle pass ended).run gate
    Shows gate outcome gate.challenges [] ∨
      Shows gate outcome recorded.state.challenges recorded.events := by
  cases ended with
  | error fault => exact .inl (settle_shows_of_error pass fault gate)
  | ok result => exact .inr (settle_shows_of_ok pass result gate)

end Settling

variable [CaptchaVerifier ν]

/-- A check sees the challenges and the time, and nothing else of a gate. -/
theorem checkAny_congr (user : String) (kind : Option ActionKind) (token : Option CaptchaToken)
    {first second : Gate δ κ ν} (now : first.now = second.now)
    (challenges : first.challenges = second.challenges) :
    let outcome := (checkAny user kind token).run first
    let other := (checkAny user kind token).run second
    outcome.result = other.result ∧ outcome.state.challenges = other.state.challenges ∧
      outcome.events = other.events := by
  cases kind with
  | none => exact ⟨rfl, challenges, rfl⟩
  | some kind =>
    dsimp only [checkAny]
    rw [run_onChallenges, run_onChallenges, now, challenges]
    exact ⟨rfl, rfl, rfl⟩

theorem checkAny_shows (user : String) (kind : Option ActionKind) (token : Option CaptchaToken)
    (gate : Gate δ κ ν) :
    let checked := (checkAny user kind token).run gate
    Shows gate checked checked.state.challenges checked.events := by
  cases kind <;> exact ⟨rfl, rfl, fun _ => rfl, fun _ => rfl⟩

/-- The checks show what the challenge shows, or nothing if they end before it; a request that they
let through has been let through by the challenge. -/
theorem checks_shows (request : Request) (kind : Option ActionKind) (gate : Gate δ κ ν) :
    let checked := (checkAny request.actor.id kind request.token).run gate
    let outcome := (checks request kind).run gate
    Shows gate outcome gate.challenges [] ∧ outcome.result ≠ .ok (.ok ()) ∨
      Shows gate outcome checked.state.challenges checked.events ∧
        (outcome.result = .ok (.ok ()) → checked.result = .ok (.ok ())) := by
  dsimp only
  have permission := permission_shows request.query gate
  have challenge := checkAny_shows request.actor.id kind request.token gate
  unfold checks
  cases request.order with
  | permissionFirst =>
    dsimp only
    cases ended : ((onPermissions (Permissions.authorize request.query)).run gate).result with
    | error fault =>
      refine .inl ⟨permission.bind_of_error ended, ?_⟩
      rw [Activity.run_bind_of_error ended]
      simp
    | ok verdict =>
      cases verdict with
      | error rejection =>
        refine .inl ⟨permission.bind_of_ok ended (.pure _ _), ?_⟩
        rw [Activity.run_bind_of_ok ended]
        simp [Activity.run_pure]
      | ok granted =>
        obtain ⟨sameResult, sameState, sameEvents⟩ := checkAny_congr request.actor.id kind
          request.token permission.now permission.challenges
        have later := checkAny_shows request.actor.id kind request.token
          ((onPermissions (Permissions.authorize request.query)).run gate).state
        dsimp only at later
        rw [sameState, sameEvents] at later
        refine .inr ⟨permission.bind_of_ok ended later, fun granted => ?_⟩
        rw [← sameResult]
        exact ((both_eq_ok_iff _ _ gate).mp granted).2
  | challengeFirst =>
    refine .inr ⟨challenge.bind_quiet fun verdict state => ?_, fun granted => ?_⟩
    · cases verdict with
      | ok granted => exact permission_shows request.query state
      | error rejection => exact .pure _ state
    · exact ((both_eq_ok_iff _ _ gate).mp granted).1

/-- Whatever the checks of a request show, what comes before and after them adds nothing to it. -/
theorem screen_shows_of_entered [DuplicateStore δ] {request : Request} {gate : Gate δ κ ν}
    (entered : ((holdAny (gate.enteredFingerprint request)).run gate).result = .ok (.ok ()))
    {challenges : Challenges κ ν} {events : List Event}
    (shows :
      let held := ((holdAny (gate.enteredFingerprint request)).run gate).state
      Shows held ((checks request (gate.challengedKind request)).run held) challenges events) :
    Shows gate ((screen request).run gate) challenges events := by
  unfold screen
  rw [Activity.run_state_bind]
  refine (holdAny_shows _ gate).bind_of_ok entered ((releasingOnFault_shows _ shows).bind_quiet
    fun verdict state => ?_)
  cases verdict with
  | ok granted => exact .pure _ state
  | error rejection => exact (releaseAny_shows _ state).bind_quiet fun _ later => .pure _ later

/-- Screening a request shows what its challenge shows, or nothing if it ends before that. A request
that is let through has been let through by its challenge, and owes an attempt of that kind. -/
theorem screen_shows [DuplicateStore δ] (request : Request) (gate : Gate δ κ ν) :
    let kind := gate.challengedKind request
    let checked := (checkAny request.actor.id kind request.token).run gate
    let outcome := (screen request).run gate
    Shows gate outcome gate.challenges [] ∧ (∀ pass, outcome.result ≠ .ok (.ok pass)) ∨
      Shows gate outcome checked.state.challenges checked.events ∧
        ∀ pass, outcome.result = .ok (.ok pass) →
          checked.result = .ok (.ok ()) ∧ pass.user = request.actor.id ∧ pass.counted = kind := by
  dsimp only
  have held := holdAny_shows (gate.enteredFingerprint request) gate
  have passing := fun pass => (screen_result_eq_ok_iff request gate pass).mp
  cases entered : ((holdAny (gate.enteredFingerprint request)).run gate).result with
  | error fault =>
    refine .inl ⟨?_, fun pass granted => ?_⟩
    · unfold screen
      rw [Activity.run_state_bind]
      exact held.bind_of_error entered
    · exact absurd (entered.symm.trans (passing pass granted).1) nofun
  | ok verdict =>
    cases verdict with
    | error rejection =>
      have after := Shows.pure (.error rejection : Except Rejection Pass)
        ((holdAny (gate.enteredFingerprint request)).run gate).state
      rw [held.challenges] at after
      refine .inl ⟨?_, fun pass granted => ?_⟩
      · unfold screen
        rw [Activity.run_state_bind]
        exact held.bind_of_ok entered after
      · exact absurd (entered.symm.trans (passing pass granted).1) nofun
    | ok granted =>
      obtain ⟨sameResult, sameState, sameEvents⟩ := checkAny_congr request.actor.id
        (gate.challengedKind request) request.token held.now held.challenges
      have checked := checks_shows request (gate.challengedKind request)
        ((holdAny (gate.enteredFingerprint request)).run gate).state
      dsimp only at checked
      rw [sameResult, sameState, sameEvents, held.challenges] at checked
      rcases checked with ⟨shows, fails⟩ | ⟨shows, passes⟩
      · refine .inl ⟨screen_shows_of_entered entered shows, fun pass granted => ?_⟩
        exact fails (passing pass granted).2.1
      · refine .inr ⟨screen_shows_of_entered entered shows, fun pass granted => ?_⟩
        obtain ⟨_, verdict, owed⟩ := passing pass granted
        rw [owed]
        exact ⟨passes verdict, rfl, rfl⟩

/-- A request that is not let through shows what screening it shows. For one that is, settling it
follows on its action. -/
theorem runRequest_shows [DuplicateStore δ] (request : Request)
    {action : Activity (Gate δ κ ν) (Except ε α)} (unmarked : action.Unmarked) (gate : Gate δ κ ν) :
    let screened := (screen request).run gate
    let outcome := (runRequest request action).run gate
    (∀ pass, screened.result ≠ .ok (.ok pass)) ∧ outcome.state = screened.state ∧
        outcome.events = screened.events ∨
      ∃ pass, screened.result = .ok (.ok pass) ∧
        let acted := action.run screened.state
        let settled := (settle pass acted.result).run acted.state
        outcome.state = settled.state ∧ ∀ key,
          Event.hasPass key outcome.events =
              (Event.hasPass key screened.events || Event.hasPass key settled.events) ∧
            Event.hasRecord key outcome.events =
              (Event.hasRecord key screened.events || Event.hasRecord key settled.events) := by
  dsimp only
  cases ended : ((screen request).run gate).result with
  | error fault =>
    rw [run_runRequest_of_fault ended]
    exact .inl ⟨by simp, rfl, rfl⟩
  | ok verdict =>
    cases verdict with
    | error rejection =>
      rw [run_runRequest_of_rejection ended]
      exact .inl ⟨by simp, rfl, rfl⟩
    | ok pass =>
      rw [run_runRequest_of_pass ended]
      refine .inr ⟨pass, rfl, rfl, fun key => ?_⟩
      simp only [Event.hasPass_append, Event.hasRecord_append,
        (unmarked ((screen request).run gate).state key).1,
        (unmarked ((screen request).run gate).state key).2, Bool.false_or, and_self]

end Whole

/-! ### Requests on counters in memory -/

section Memory

variable {gate : Gate δ AttemptRecords ν}

/-- Counting an attempt writes the window it falls into, or faults and changes nothing. -/
theorem recordAny_cases (idle : gate.challenges.guarded.breaker.Idle) (user : String)
    (kind : ActionKind) :
    let key : ChallengeKey := ⟨user, kind⟩
    let records := gate.challenges.guarded.store
    let outcome := (recordAny user (some kind)).run gate
    outcome.state.challenges = gate.challenges ∧ Event.Unmarked outcome.events ∨
      ∃ window tally,
        records.recorded? key gate.now (gate.challenges.limit kind).window = some window ∧
        outcome.state.challenges =
          gate.challenges.changed (records.insert key window) gate.challenges.verifier tally ∧
        ∀ other, Event.hasPass other outcome.events = false ∧
          Event.hasRecord other outcome.events = decide (key = other) := by
  dsimp only
  unfold recordAny
  rw [Activity.run_bind, run_onChallenges]
  cases recorded : gate.challenges.guarded.store.recorded? ⟨user, kind⟩ gate.now
      (gate.challenges.limit kind).window with
  | none =>
    dsimp only
    rw [Challenges.run_record_of_none idle recorded]
    exact .inl ⟨rfl, fun _ => ⟨rfl, rfl⟩⟩
  | some window =>
    dsimp only
    rw [Challenges.run_record_of_some idle recorded]
    refine .inr ⟨window, _, rfl, rfl, fun other => ⟨rfl, ?_⟩⟩
    simp [Activity.run_pure, Event.hasRecord]

/-- Settling a request counts its attempt or leaves the counters as they are. -/
theorem settle_cases [DuplicateStore δ] (idle : gate.challenges.guarded.breaker.Idle) (pass : Pass)
    (ended : Except Fault (Except ε α)) :
    let records := gate.challenges.guarded.store
    let outcome := (settle pass ended).run gate
    outcome.state.now = gate.now ∧
      (outcome.state.challenges = gate.challenges ∧ Event.Unmarked outcome.events ∨
        ∃ kind window tally, pass.counted = some kind ∧
          records.recorded? ⟨pass.user, kind⟩ gate.now (gate.challenges.limit kind).window =
            some window ∧
          outcome.state.challenges =
            gate.challenges.changed (records.insert ⟨pass.user, kind⟩ window)
              gate.challenges.verifier tally ∧
          ∀ other, Event.hasPass other outcome.events = false ∧
            Event.hasRecord other outcome.events = decide (⟨pass.user, kind⟩ = other)) := by
  rcases settle_shows pass ended gate with shows | shows
  · exact ⟨shows.now, .inl ⟨shows.challenges, fun key => ⟨shows.passes key, shows.records key⟩⟩⟩
  · refine ⟨shows.now, ?_⟩
    cases owed : pass.counted with
    | none =>
      rw [owed] at shows
      exact .inl ⟨shows.challenges, fun key => ⟨shows.passes key, shows.records key⟩⟩
    | some kind =>
      rw [owed] at shows
      rcases recordAny_cases idle pass.user kind with ⟨same, unmarked⟩ | ⟨window, tally, recorded,
        written, marked⟩
      · refine .inl ⟨shows.challenges.trans same, fun key => ⟨?_, ?_⟩⟩
        · exact (shows.passes key).trans (unmarked key).1
        · exact (shows.records key).trans (unmarked key).2
      · refine .inr ⟨kind, window, tally, rfl, recorded, shows.challenges.trans written,
          fun key => ⟨?_, ?_⟩⟩
        · exact (shows.passes key).trans (marked key).1
        · exact (shows.records key).trans (marked key).2

/-- Screening a request leaves the counters as they are and lets through, if anything, a request
that is not challenged; or it checks the challenge of the request. -/
theorem screen_cases [DuplicateStore δ] [CaptchaVerifier ν]
    (idle : gate.challenges.guarded.breaker.Idle) (request : Request) :
    let before := gate.challenges.guarded.store
    let outcome := (screen request).run gate
    outcome.state.now = gate.now ∧ ∃ records verifier tally,
      outcome.state.challenges = gate.challenges.changed records verifier tally ∧
      (records = before ∧ Event.Unmarked outcome.events ∧
          (∀ pass, outcome.result = .ok (.ok pass) →
            gate.challengedKind request = none ∧ pass.counted = none) ∨
        ∃ kind, gate.challengedKind request = some kind ∧
          (∀ pass, outcome.result = .ok (.ok pass) →
            pass.user = request.actor.id ∧ pass.counted = some kind) ∧
          (Challenges.Passed ⟨request.actor.id, kind⟩ before outcome.events records ∨
            Challenges.Unpassed gate.now ⟨request.actor.id, kind⟩ before outcome.events records ∧
              ∀ pass, outcome.result = .ok (.ok pass) →
                (gate.challenges.limit kind).threshold ≠ 0 ∧
                  before.countAt ⟨request.actor.id, kind⟩ gate.now <
                    (gate.challenges.limit kind).threshold)) := by
  rcases screen_shows request gate with ⟨shows, fails⟩ | ⟨shows, passes⟩
  · refine ⟨shows.now, gate.challenges.guarded.store, _, _, shows.challenges, .inl ⟨rfl,
      fun key => ⟨shows.passes key, shows.records key⟩, fun pass granted => ?_⟩⟩
    exact absurd granted (fails pass)
  · refine ⟨shows.now, ?_⟩
    cases challenged : gate.challengedKind request with
    | none =>
      rw [challenged] at shows passes
      exact ⟨gate.challenges.guarded.store, _, _, shows.challenges, .inl ⟨rfl,
        fun key => ⟨shows.passes key, shows.records key⟩,
        fun pass granted => ⟨rfl, (passes pass granted).2.2⟩⟩⟩
    | some kind =>
      rw [challenged] at shows passes
      obtain ⟨records, verifier, tally, state, checked⟩ := Challenges.check_cases gate.now
        ⟨request.actor.id, kind⟩ idle request.token
      refine ⟨records, verifier, tally, shows.challenges.trans state, .inr ⟨kind, rfl,
        fun pass granted => (passes pass granted).2, ?_⟩⟩
      refine checked.imp (fun passed => ⟨fun other => ?_, fun other => ?_, passed.others,
        passed.own⟩) fun ⟨unpassed, free⟩ => ⟨⟨fun other => ⟨?_, ?_⟩, unpassed.others,
          unpassed.own⟩, fun pass granted => free (passes pass granted).1⟩
      · exact (shows.passes other).trans (passed.passes other)
      · exact (shows.records other).trans (passed.records other)
      · exact (shows.passes other).trans (unpassed.unmarked other).1
      · exact (shows.records other).trans (unpassed.unmarked other).2

end Memory

end Gate

end Gatekeeper
