/-
This file keeps the books of a gate. A gate beside whose stores records are kept is compared with
the same gate without, over any stores and any verifier, while breakers open and close. The argument
follows the text of what each part of the gate does, and then of how a request is screened and
settled. Every piece agrees with its log, so what is put together from the pieces does.
-/
import Gatekeeper.Gate.Run
import Gatekeeper.Gate.Sweep
import Gatekeeper.Proofs.Chronicles

namespace Gatekeeper

open Activity (Agrees)
open Books (Booked)
open StoreRelation (OnPermissions OnDuplicates OnChallenges OnGates)

variable {α ε δ κ ν : Type} {breaker : BreakerSettings} {start now : Instant}

/-! ### The books of a gate -/

def PermissionTally.books (tally : PermissionTally) : Books where
  counters
    | .configurationMissing => tally.configurationMissing
    | _ => 0
  openings _ := 0

def DuplicateTally.books (tally : DuplicateTally) : Books where
  counters
    | .released => tally.released
    | _ => 0
  openings _ := 0

def ChallengeTally.books (tally : ChallengeTally) : Books where
  counters
    | .storeFailures => tally.verifierFailures
    | .attemptsRecorded => tally.attemptsRecorded
    | .challengesFailed => tally.failed
    | .challengesPassed => tally.passed
    | _ => 0
  openings _ := 0

def Permissions.books (permissions : Permissions) : Books :=
  permissions.tally.books

def Duplicates.books (duplicates : Duplicates (Chronicled δ)) : Books :=
  duplicates.guarded.books .duplicates + duplicates.tally.books

def Challenges.books (challenges : Challenges (Chronicled κ) ν) : Books :=
  challenges.guarded.books .challenges + challenges.tally.books

def Gate.books (gate : Gate (Chronicled δ) (Chronicled κ) ν) : Books :=
  gate.permissions.books + (gate.duplicates.books + gate.challenges.books)

variable (δ κ ν) in
/-- On one side a record is kept beside both stores, and that is all the difference. -/
def chronicle (breaker : BreakerSettings) (start : Instant) :
    StoreRelation (Chronicled δ) δ (Chronicled κ) κ ν ν where
  scope := .everything
  counts := True
  duplicates := GuardedStore.Chronicles breaker start
  attempts := GuardedStore.Chronicles breaker start
  verifiers _ := Eq

/-! ### Permissions -/

namespace Permissions

theorem count_agrees (decision : Decision) :
    Agrees (chronicle δ κ ν breaker start).OnPermissions books (count decision)
      (count decision) := by
  refine Agrees.change fun first second given => ⟨?_, ?_⟩
  · cases decision <;> exact ⟨given.rules, fun counts => by rw [given.tally counts]⟩
  · cases decision <;> rfl

theorem evaluate_agrees (query : PermissionQuery) :
    Agrees (chronicle δ κ ν breaker start).OnPermissions books (evaluate query)
      (evaluate query) := by
  refine Agrees.read fun first second given => ?_
  rw [given.rules]
  split
  · exact (count_agrees _).bind fun _ => .pure _
  · split
    · refine Agrees.counted (fun first second given => ⟨⟨given.rules, fun counts => ?_⟩, ?_⟩)
        (.pure _)
      · simp only [given.tally counts]
      · exact Books.booked_of_counter rfl rfl (fun counter => by cases counter <;> rfl) fun _ => rfl
    · exact (count_agrees _).bind fun _ => (Agrees.log ⟨rfl, rfl⟩).bind fun _ => .pure _

theorem permits_agrees (query : PermissionQuery) :
    Agrees (chronicle δ κ ν breaker start).OnPermissions books (permits query)
      (permits query) := by
  refine (evaluate_agrees query).bind fun decided => ?_
  cases decided <;> exact .pure _

theorem permitsAll_agrees (queries : List PermissionQuery) :
    Agrees (chronicle δ κ ν breaker start).OnPermissions books (permitsAll queries)
      (permitsAll queries) :=
  Agrees.mapM permits_agrees queries

theorem authorize_agrees (query : PermissionQuery) :
    Agrees (chronicle δ κ ν breaker start).OnPermissions books (authorize query)
      (authorize query) := by
  refine (evaluate_agrees query).bind fun decided => ?_
  rcases decided with rejection | decision
  · exact .pure _
  · cases decision <;> exact .pure _

end Permissions

/-! ### Duplicates -/

namespace Duplicates

theorem ask_agrees (call : StoreCall) (fingerprint : Fingerprint) (question : δ → Reply α × δ) :
    Agrees ((chronicle δ κ ν breaker start).OnDuplicates now) books
      (ask now call fingerprint fun store : Chronicled δ => store.call question)
      (ask now call fingerprint question) := by
  refine Agrees.read fun first second given => ?_
  rw [given.settings]
  exact Agrees.on (fun _ _ given => given.guarded)
    (fun _ _ _ _ given guarded => ⟨given.settings, guarded, given.tally⟩)
    (fun duplicates => ⟨duplicates.tally.books, rfl, fun _ => rfl⟩)
    (GuardedStore.ask_agrees _ call (.fingerprint fingerprint) question)

theorem books_entered (policy : FailurePolicy) (tally : DuplicateTally) (answer : Option Bool) :
    (entered policy tally answer).books = tally.books := by
  rcases answer with _ | _ | _
  · cases policy <;> rfl
  · rfl
  · rfl

variable [DuplicateStore δ]

theorem enter_agrees (fingerprint : Fingerprint) :
    Agrees ((chronicle δ κ ν breaker start).OnDuplicates now) books (enter now fingerprint)
      (enter now fingerprint) := by
  intro first second given
  have asks : entry now fingerprint first =
      fun store => store.call (entry now fingerprint second) := by
    unfold entry
    rw [given.settings]
    rfl
  obtain ⟨sameAnswer, sameEvents, asked, booked⟩ :=
    ask_agrees .tryInsert fingerprint (entry now fingerprint second) given
  rw [run_enter, run_enter, asks]
  dsimp only
  rw [given.settings, ← sameAnswer, ← sameEvents]
  generalize (ask now .tryInsert fingerprint fun store : Chronicled δ =>
    store.call (entry now fingerprint second)).run first = outcome at *
  obtain ⟨answer, after, events⟩ := outcome
  cases answer with
  | error fault => exact ⟨rfl, rfl, asked, booked⟩
  | ok answer =>
    refine ⟨rfl, rfl, ⟨asked.settings, asked.guarded, fun counts => ?_⟩, ?_⟩
    · rw [asked.tally counts]
    · show Booked _ (after.guarded.books .duplicates + (entered _ after.tally answer).books) _
      rw [books_entered]
      exact booked.trans (Books.booked_of_unbooked ⟨rfl, rfl⟩ _)

theorem hold_agrees (fingerprint : Fingerprint) :
    Agrees ((chronicle δ κ ν breaker start).OnDuplicates now) books (hold now fingerprint)
      (hold now fingerprint) := by
  refine (enter_agrees fingerprint).bind fun admission => ?_
  cases admission <;> exact .pure _

theorem release_agrees (fingerprint : Fingerprint) :
    Agrees ((chronicle δ κ ν breaker start).OnDuplicates now) books (release now fingerprint)
      (release now fingerprint) := by
  refine (ask_agrees .remove fingerprint _).bind fun answer => ?_
  cases answer with
  | none => exact .pure _
  | some done =>
    refine Agrees.counted_last fun first second given =>
      ⟨⟨given.settings, given.guarded, fun counts => by rw [given.tally counts]⟩, ?_⟩
    have released : Booked first.tally.books
        { first.tally with released := first.tally.released + 1 }.books
        [.fingerprintReleased fingerprint] :=
      Books.booked_of_counter rfl rfl (fun counter => by cases counter <;> rfl) fun _ => rfl
    exact released.behind _

theorem purge_agrees :
    Agrees ((chronicle δ κ ν breaker start).OnDuplicates now) books (purge now) (purge now) := by
  rintro first ⟨_, guarded, _⟩ ⟨settings, ⟨plain, breaker, clock, begun⟩, tally⟩
  obtain rfl : first.guarded.plain = guarded := plain
  exact ⟨rfl, rfl, ⟨settings, ⟨rfl, breaker, clock, begun⟩, tally⟩, .refl _⟩

end Duplicates

/-! ### Challenges -/

namespace Challenges

theorem ask_agrees (call : StoreCall) (key : ChallengeKey) (question : κ → Reply α × κ) :
    Agrees ((chronicle δ κ ν breaker start).OnChallenges now) books
      (ask now call key fun store : Chronicled κ => store.call question)
      (ask now call key question) := by
  refine Agrees.read fun first second given => ?_
  rw [given.settings]
  exact Agrees.on (fun _ _ given => given.guarded)
    (fun _ _ _ _ given guarded => ⟨given.settings, guarded, given.verifier, given.tally⟩)
    (fun challenges => ⟨challenges.tally.books, rfl, fun _ => rfl⟩)
    (GuardedStore.ask_agrees _ call (.counter key) question)

section Counts

variable {β : Type} {update : ChallengeTally → ChallengeTally} {event : Event}

/-- A count that is not in the books. -/
theorem count_agrees (kept : ∀ tally, (update tally).books = tally.books) :
    Agrees ((chronicle δ κ ν breaker start).OnChallenges now) books (count update)
      (count update) :=
  Agrees.change fun first _ given =>
    ⟨⟨given.settings, given.guarded, given.verifier,
      fun counts => congrArg update (given.tally counts)⟩,
      congrArg (first.guarded.books .challenges + ·) (kept first.tally)⟩

/-- A count that is in the books is logged, perhaps not at once. -/
theorem counted_around_agrees {first : Activity (Challenges (Chronicled κ) ν) α}
    {second : Activity (Challenges κ ν) α} {next : Activity (Challenges (Chronicled κ) ν) β}
    {next' : Activity (Challenges κ ν) β}
    (booked : ∀ tally : ChallengeTally, Booked tally.books (update tally).books [event])
    (agrees : Agrees ((chronicle δ κ ν breaker start).OnChallenges now) books first second)
    (never : ∀ state fault, (first.run state).result ≠ .error fault)
    (afterwards : Agrees ((chronicle δ κ ν breaker start).OnChallenges now) books next next') :
    Agrees ((chronicle δ κ ν breaker start).OnChallenges now) books
      (count update >>= fun _ => first >>= fun _ => .log event >>= fun _ => next)
      (count update >>= fun _ => second >>= fun _ => .log event >>= fun _ => next') :=
  Agrees.counted_around (fun first _ given => ⟨⟨given.settings, given.guarded, given.verifier,
    fun counts => congrArg update (given.tally counts)⟩, (booked first.tally).behind _⟩)
    agrees never afterwards

theorem counted_agrees {next : Activity (Challenges (Chronicled κ) ν) β}
    {next' : Activity (Challenges κ ν) β}
    (booked : ∀ tally : ChallengeTally, Booked tally.books (update tally).books [event])
    (afterwards : Agrees ((chronicle δ κ ν breaker start).OnChallenges now) books next next') :
    Agrees ((chronicle δ κ ν breaker start).OnChallenges now) books
      (count update >>= fun _ => .log event >>= fun _ => next)
      (count update >>= fun _ => .log event >>= fun _ => next') :=
  counted_around_agrees booked (.pure ()) (fun _ _ => nofun) afterwards

end Counts

section Attempts

variable [AttemptStore κ]

theorem attempts_agrees (key : ChallengeKey) :
    Agrees ((chronicle δ κ ν breaker start).OnChallenges now) books (attempts now key)
      (attempts now key) :=
  ask_agrees .readAttempts key _

theorem level_agrees (key : ChallengeKey) :
    Agrees ((chronicle δ κ ν breaker start).OnChallenges now) books (level now key)
      (level now key) := by
  refine Agrees.read fun first second given => ?_
  unfold limit
  rw [given.settings]
  dsimp only
  split
  · exact .pure _
  · refine (attempts_agrees key).bind fun answer => ?_
    cases answer with
    | some attempts => exact .pure _
    | none => cases second.settings.onStoreError <;> exact .pure _

theorem record_agrees (key : ChallengeKey) :
    Agrees ((chronicle δ κ ν breaker start).OnChallenges now) books (record now key)
      (record now key) := by
  refine Agrees.read fun first second given => ?_
  unfold limit
  rw [given.settings]
  refine (ask_agrees .increment key _).bind fun answer => ?_
  cases answer with
  | none => exact .pure _
  | some attempts =>
    exact counted_agrees (fun tally => Books.booked_of_counter rfl rfl
      (fun counter => by cases counter <;> rfl) fun _ => rfl) (.pure _)

theorem purge_agrees :
    Agrees ((chronicle δ κ ν breaker start).OnChallenges now) books (purge now) (purge now) := by
  rintro first ⟨_, guarded, _, _⟩ ⟨settings, ⟨plain, breaker, clock, begun⟩, verifier, tally⟩
  obtain rfl : first.guarded.plain = guarded := plain
  exact ⟨rfl, rfl, ⟨settings, ⟨rfl, breaker, clock, begun⟩, verifier, tally⟩, .refl _⟩

end Attempts

section Captchas

variable [CaptchaVerifier ν]

theorem consult_agrees (key : ChallengeKey) (token : CaptchaToken) :
    Agrees ((chronicle δ κ ν breaker start).OnChallenges now) books (consult now key token)
      (consult now key token) := by
  intro first second given
  rw [run_consult, run_consult, ← given.verifier]
  dsimp only
  cases (CaptchaVerifier.verify first.verifier now key.user key.kind token).1 with
  | answer passed =>
    exact ⟨rfl, rfl, ⟨given.settings, given.guarded, rfl, given.tally⟩, .refl _⟩
  | fault fault =>
    exact ⟨rfl, rfl, ⟨given.settings, given.guarded, rfl, given.tally⟩, .refl _⟩
  | refused error =>
    refine ⟨rfl, rfl, ⟨given.settings, given.guarded, rfl, fun counts => ?_⟩, Booked.behind ?_ _⟩
    · simp only [given.tally counts]
    · exact Books.booked_of_counter rfl rfl (fun counter => by cases counter <;> rfl) fun _ => rfl

theorem purgeTokens_agrees :
    Agrees ((chronicle δ κ ν breaker start).OnChallenges now) books (purgeTokens now)
      (purgeTokens now) := by
  rintro first ⟨_, _, verifier, _⟩ ⟨settings, guarded, same, tally⟩
  obtain rfl : first.verifier = verifier := same
  exact ⟨rfl, rfl, ⟨settings, guarded, rfl, tally⟩, .refl _⟩

variable [AttemptStore κ] (replies : AttemptStore.Replies κ)
include replies

/-- The count of a solved captcha is logged only once the store has been told to clear the counter.
In between the store may refuse, but it must not fault. -/
theorem verify_agrees (key : ChallengeKey) (token : CaptchaToken) :
    Agrees ((chronicle δ κ ν breaker start).OnChallenges now) books (verify now key token)
      (verify now key token) := by
  refine (consult_agrees key token).bind fun passed => ?_
  cases passed with
  | false =>
    exact counted_agrees (fun tally => Books.booked_of_counter rfl rfl
      (fun counter => by cases counter <;> rfl) fun _ => rfl) (.pure _)
  | true =>
    exact counted_around_agrees (fun tally => Books.booked_of_counter rfl rfl
      (fun counter => by cases counter <;> rfl) fun _ => rfl) (ask_agrees .clearAttempts key _)
      (fun challenges fault => clear_ne_error now key challenges (Chronicled.replies replies) fault)
      (.pure _)

theorem check_agrees (key : ChallengeKey) (token : Option CaptchaToken) :
    Agrees ((chronicle δ κ ν breaker start).OnChallenges now) books (check now key token)
      (check now key token) := by
  refine (level_agrees key).bind fun level => ?_
  split
  · cases token with
    | none =>
      refine Agrees.bind (count_agrees ?_) fun _ => .pure _
      exact fun tally => rfl
    | some given =>
      refine (verify_agrees replies key given).bind fun verification => ?_
      cases verification <;> exact .pure _
  · exact .pure _

end Captchas

end Challenges

/-! ### Gates -/

namespace Gate

variable (δ κ ν) in
/-- The gates differ in the records only, and their parts count into their metrics. -/
structure Chronicles (breaker : BreakerSettings) (start : Instant)
    (first : Gate (Chronicled δ) (Chronicled κ) ν) (second : Gate δ κ ν) : Prop
    extends StoreRelation.OnGates (chronicle δ κ ν breaker start) first second where
  shares : first.sharesMetrics = true

theorem onPermissions_agrees {activity : Activity Permissions α}
    (agrees : Agrees (chronicle δ κ ν breaker start).OnPermissions Permissions.books activity
      activity) :
    Agrees (Chronicles δ κ ν breaker start) books (onPermissions activity)
      (onPermissions activity) :=
  Agrees.on (fun _ _ given => given.permissions)
    (fun _ _ _ _ given permissions =>
      ⟨⟨given.now, permissions, given.duplicates, given.challenges, given.sharesMetrics⟩,
        given.shares⟩)
    (fun _ => ⟨_, rfl, fun _ => rfl⟩) agrees

theorem onDuplicates_agrees {activity : Instant → Activity (Duplicates (Chronicled δ)) α}
    {activity' : Instant → Activity (Duplicates δ) α}
    (agrees : ∀ now, Agrees ((chronicle δ κ ν breaker start).OnDuplicates now) Duplicates.books
      (activity now) (activity' now)) :
    Agrees (Chronicles δ κ ν breaker start) books (onDuplicates activity)
      (onDuplicates activity') := by
  intro first second given
  obtain ⟨sameResult, sameEvents, duplicates, booked⟩ := agrees first.now given.duplicates
  rw [run_onDuplicates, run_onDuplicates, ← given.now]
  refine ⟨sameResult, sameEvents, ⟨⟨rfl, given.permissions, duplicates, given.challenges,
    given.sharesMetrics⟩, given.shares⟩, ?_⟩
  exact (booked.beside _).behind _

theorem onChallenges_agrees {activity : Instant → Activity (Challenges (Chronicled κ) ν) α}
    {activity' : Instant → Activity (Challenges κ ν) α}
    (agrees : ∀ now, Agrees ((chronicle δ κ ν breaker start).OnChallenges now) Challenges.books
      (activity now) (activity' now)) :
    Agrees (Chronicles δ κ ν breaker start) books (onChallenges activity)
      (onChallenges activity') := by
  intro first second given
  obtain ⟨sameResult, sameEvents, challenges, booked⟩ := agrees first.now given.challenges
  rw [run_onChallenges, run_onChallenges, ← given.now]
  refine ⟨sameResult, sameEvents, ⟨⟨rfl, given.permissions, given.duplicates, challenges,
    given.sharesMetrics⟩, given.shares⟩, ?_⟩
  exact (booked.behind _).behind _

/-! ### Time -/

/-- Lets time pass, and writes it down beside both stores. -/
def waitChronicled (length : Duration) : Activity (Gate (Chronicled δ) (Chronicled κ) ν) Unit := do
  wait length
  .change fun gate =>
    (gate.mapDuplicateStore (Chronicled.wait length)).mapAttemptStore (Chronicled.wait length)

theorem waitChronicled_agrees (length : Duration) :
    Agrees (Chronicles δ κ ν breaker start) books (waitChronicled length)
      (wait length) := by
  intro first second given
  rw [waitChronicled, Activity.run_bind, run_wait, run_wait, ← given.now]
  cases passed : first.now.after? length with
  | none => exact ⟨rfl, rfl, given, .refl _⟩
  | some later =>
    obtain ⟨duplicates, duplicateBooks⟩ := given.duplicates.guarded.wait passed
    obtain ⟨attempts, attemptBooks⟩ := given.challenges.guarded.wait passed
    refine ⟨rfl, rfl, ⟨⟨rfl, given.permissions,
      ⟨given.duplicates.settings, duplicates, given.duplicates.tally⟩,
      ⟨given.challenges.settings, attempts, given.challenges.verifier, given.challenges.tally⟩,
      given.sharesMetrics⟩, given.shares⟩, ?_⟩
    exact ((((duplicateBooks .duplicates).beside _).beside _).behind _).trans
      ((((attemptBooks .challenges).beside _).behind _).behind _)

/-! ### Requests -/

section Requests

variable [DuplicateStore δ]

theorem holdAny_agrees (fingerprint : Option Fingerprint) :
    Agrees (Chronicles δ κ ν breaker start) books (holdAny fingerprint)
      (holdAny fingerprint) := by
  cases fingerprint with
  | none => exact .pure _
  | some fingerprint =>
    exact (onDuplicates_agrees fun now => Duplicates.hold_agrees fingerprint).bind fun _ => .pure _

theorem releaseAny_agrees (fingerprint : Option Fingerprint) :
    Agrees (Chronicles δ κ ν breaker start) books (releaseAny fingerprint)
      (releaseAny fingerprint) := by
  cases fingerprint with
  | none => exact .pure _
  | some fingerprint =>
    exact onDuplicates_agrees fun now => Duplicates.release_agrees fingerprint

theorem releasingOnFault_agrees (fingerprint : Option Fingerprint)
    {activity : Activity (Gate (Chronicled δ) (Chronicled κ) ν) α}
    {activity' : Activity (Gate δ κ ν) α}
    (agrees : Agrees (Chronicles δ κ ν breaker start) books activity activity') :
    Agrees (Chronicles δ κ ν breaker start) books (releasingOnFault fingerprint activity)
      (releasingOnFault fingerprint activity') := by
  refine agrees.attempt.bind fun outcome => ?_
  cases outcome with
  | ok value => exact .pure _
  | error fault => exact (releaseAny_agrees fingerprint).bind fun _ => .fault _

variable [AttemptStore κ]

omit [DuplicateStore δ] in
theorem recordAny_agrees (user : String) (kind : Option ActionKind) :
    Agrees (Chronicles δ κ ν breaker start) books (recordAny user kind)
      (recordAny user kind) := by
  cases kind with
  | none => exact .pure _
  | some kind =>
    exact (onChallenges_agrees fun now => Challenges.record_agrees ⟨user, kind⟩).bind
      fun _ => .pure _

theorem settle_agrees (pass : Pass) (ended : Except Fault (Except ε α)) :
    Agrees (Chronicles δ κ ν breaker start) books (settle pass ended)
      (settle pass ended) := by
  refine Agrees.bind (releasingOnFault_agrees pass.held ?_) fun result => ?_
  · cases ended with
    | ok result => exact (recordAny_agrees pass.user pass.counted).bind fun _ => .pure _
    | error fault => exact .fault _
  · cases result with
    | ok value => exact (Agrees.log ⟨rfl, rfl⟩).bind fun _ => .pure _
    | error error => exact (releaseAny_agrees pass.held).bind fun _ => .pure _

variable [CaptchaVerifier ν]

theorem sweep_agrees :
    Agrees (Chronicles δ κ ν breaker start) books sweep sweep := by
  refine (onDuplicates_agrees fun now => Duplicates.purge_agrees).bind fun duplicates => ?_
  refine (onChallenges_agrees fun now => Challenges.purge_agrees).bind fun challenges => ?_
  refine (onChallenges_agrees fun now => Challenges.purgeTokens_agrees).bind fun tokens => ?_
  dsimp only
  split
  · exact (Agrees.log ⟨rfl, rfl⟩).bind fun _ => .pure _
  · exact .pure _

theorem sweepTimes_agrees (times : Nat) :
    Agrees (Chronicles δ κ ν breaker start) books (sweepTimes times) (sweepTimes times) := by
  induction times with
  | zero => exact .pure _
  | succ times inductionHypothesis => exact sweep_agrees.bind fun _ => inductionHypothesis

theorem passTask_agrees (task : SweepTask) (length : Duration) :
    Agrees (Chronicles δ κ ν breaker start) books (task.pass length) (task.pass length) := by
  unfold SweepTask.pass
  cases task.state with
  | running =>
    refine (sweepTimes_agrees _).attempt.bind fun swept => ?_
    cases swept <;> exact .pure _
  | abandoned => exact (Agrees.log ⟨rfl, rfl⟩).bind fun _ => .pure _
  | stopped | failed fault => exact .pure _

omit [DuplicateStore δ] [AttemptStore κ] [CaptchaVerifier ν] in
theorem shutDownTask_agrees (task : SweepTask) :
    Agrees (Chronicles δ κ ν breaker start) books task.shutDown task.shutDown := by
  unfold SweepTask.shutDown
  cases task.state with
  | running | abandoned => exact (Agrees.log ⟨rfl, rfl⟩).bind fun _ => .pure _
  | stopped | failed fault => exact .pure _

omit [DuplicateStore δ] [AttemptStore κ] [CaptchaVerifier ν] in
theorem mapVerifier_agrees (change : ν → ν) :
    Agrees (Chronicles δ κ ν breaker start) books (.change (mapVerifier change))
      (.change (mapVerifier change)) :=
  Agrees.change fun _ _ given => ⟨⟨⟨given.now, given.permissions, given.duplicates,
    ⟨given.challenges.settings, given.challenges.guarded, congrArg change given.challenges.verifier,
      given.challenges.tally⟩, given.sharesMetrics⟩, given.shares⟩, rfl⟩

variable (replies : AttemptStore.Replies κ)
include replies

omit [DuplicateStore δ] in
theorem checkAny_agrees (user : String) (kind : Option ActionKind) (token : Option CaptchaToken) :
    Agrees (Chronicles δ κ ν breaker start) books (checkAny user kind token)
      (checkAny user kind token) := by
  cases kind with
  | none => exact .pure _
  | some kind =>
    exact onChallenges_agrees fun now => Challenges.check_agrees replies ⟨user, kind⟩ token

omit [DuplicateStore δ] in
theorem checks_agrees (request : Request) (kind : Option ActionKind) :
    Agrees (Chronicles δ κ ν breaker start) books (checks request kind)
      (checks request kind) := by
  have permission : Agrees (Chronicles δ κ ν breaker start) books
      (onPermissions (Permissions.authorize request.query))
      (onPermissions (Permissions.authorize request.query)) :=
    onPermissions_agrees (Permissions.authorize_agrees request.query)
  have challenge : Agrees (Chronicles δ κ ν breaker start) books
      (checkAny request.actor.id kind request.token)
      (checkAny request.actor.id kind request.token) :=
    checkAny_agrees replies request.actor.id kind request.token
  unfold checks
  cases request.order with
  | permissionFirst =>
    refine permission.bind fun permitted => ?_
    cases permitted with
    | ok granted => exact challenge
    | error rejection => exact .pure _
  | challengeFirst =>
    refine challenge.bind fun passed => ?_
    cases passed with
    | ok granted => exact permission
    | error rejection => exact .pure _

theorem screen_agrees (request : Request) :
    Agrees (Chronicles δ κ ν breaker start) books (screen request) (screen request) := by
  refine Agrees.read fun first second given => ?_
  rw [given.enteredFingerprint, given.challengedKind]
  refine (holdAny_agrees _).bind fun held => ?_
  cases held with
  | error rejection => exact .pure _
  | ok held =>
    refine Agrees.bind (releasingOnFault_agrees _ (checks_agrees replies request _))
      fun checked => ?_
    cases checked with
    | ok granted => exact .pure _
    | error rejection => exact (releaseAny_agrees _).bind fun _ => .pure _

end Requests

end Gate

end Gatekeeper
