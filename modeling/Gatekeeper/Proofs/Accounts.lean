/-
This file says what a request does to the counters of a gate whose stores live in memory. The
counters are not looked at one by one but through figures, each of which is a sum or a difference of
counters: releasing a fingerprint, say, undoes its admission in the figure of the requests that have
been kept, and does not show in the figure of those that have been entered.

Counters wrap, and figures wrap with them. So what an activity charges to a figure is itself a
number that wraps, and what is undone is charged negatively.
-/
import Gatekeeper.Proofs.Screening
import Gatekeeper.Proofs.Upkeep
import Mathlib.Algebra.Group.Pi.Basic
import Mathlib.Data.UInt
import Mathlib.Tactic.Abel

namespace Gatekeeper

variable {σ τ α β ε : Type}

/-! ### Figures -/

/-- A figure that can be read off the counters of a gate, and that the requests run at it explain
by themselves. -/
inductive Account where
  /-- The requests that the duplicates have been asked about. -/
  | entered
  | duplicatesRejected
  /-- The requests whose fingerprints have been admitted and not been released. -/
  | kept
  | denials
  | configurationMissing
  | challengesRequired
  | challengesFailed
  | permits
  | attemptsRecorded
  | storeFailures
  deriving DecidableEq

namespace Metrics

/-- Counter by counter. -/
def sub (first second : Metrics) : Metrics :=
  ⟨first.admitted - second.admitted,
    first.duplicatesRejected - second.duplicatesRejected,
    first.released - second.released,
    first.permits - second.permits,
    first.denials - second.denials,
    first.configurationMissing - second.configurationMissing,
    first.challengesRequired - second.challengesRequired,
    first.challengesPassed - second.challengesPassed,
    first.challengesFailed - second.challengesFailed,
    first.attemptsRecorded - second.attemptsRecorded,
    first.storeFailures - second.storeFailures⟩

instance : Sub Metrics := ⟨sub⟩

/-- What the counters say of an account. -/
def figure (metrics : Metrics) : Account → UInt64
  | .entered => metrics.admitted + metrics.duplicatesRejected
  | .duplicatesRejected => metrics.duplicatesRejected
  | .kept => metrics.admitted - metrics.released
  | .denials => metrics.denials
  | .configurationMissing => metrics.configurationMissing
  | .challengesRequired => metrics.challengesRequired
  | .challengesFailed => metrics.challengesFailed
  | .permits => metrics.permits
  | .attemptsRecorded => metrics.attemptsRecorded
  | .storeFailures => metrics.storeFailures

theorem figure_add (first second : Metrics) :
    (first + second).figure = first.figure + second.figure := by
  funext account
  cases account with
  | entered => exact add_add_add_comm _ _ _ _
  | kept => exact add_sub_add_comm _ _ _ _
  | _ => rfl

theorem figure_sub (first second : Metrics) :
    (first - second).figure = first.figure - second.figure := by
  funext account
  cases account with
  | entered => exact sub_add_sub_comm _ _ _ _
  | kept => exact sub_sub_sub_comm _ _ _ _
  | _ => rfl

end Metrics

/-- One more in this account, and nothing in the others. -/
def Account.one (account : Account) : Account → UInt64 :=
  Pi.single account 1

/-! ### Charges -/

namespace Activity

/-- Started in a state with the invariant, the activity leaves a state with it if it has a result,
and what it has charged to the accounts is then allowed with that result. -/
def Charges (invariant : σ → Prop) (reading : σ → Account → UInt64) (activity : Activity σ α)
    (allowed : α → (Account → UInt64) → Prop) : Prop :=
  ∀ ⦃state value⦄, invariant state → (activity.run state).result = .ok value →
    invariant (activity.run state).state ∧ ∃ charge, allowed value charge ∧
      reading (activity.run state).state = reading state + charge

namespace Charges

variable {invariant : σ → Prop} {reading : σ → Account → UInt64} {activity : Activity σ α}
  {allowed : α → (Account → UInt64) → Prop}

theorem pure {value : α} (free : allowed value 0) :
    Charges invariant reading (pure value) allowed := by
  rintro state _ start ⟨⟩
  exact ⟨start, 0, free, (add_zero _).symm⟩

theorem log {event : Event} {allowed : Unit → (Account → UInt64) → Prop} (free : allowed () 0) :
    Charges invariant reading (log event) allowed := by
  rintro state _ start ⟨⟩
  exact ⟨start, 0, free, (add_zero _).symm⟩

theorem change {update : σ → σ} (charge : Account → UInt64)
    {allowed : Unit → (Account → UInt64) → Prop}
    (keeps : ∀ ⦃state⦄, invariant state → invariant (update state))
    (charged : ∀ ⦃state⦄, invariant state → reading (update state) = reading state + charge)
    (due : allowed () charge) : Charges invariant reading (change update) allowed := by
  rintro state _ start ⟨⟩
  exact ⟨keeps start, charge, due, charged start⟩

theorem mono {wider : α → (Account → UInt64) → Prop}
    (charges : Charges invariant reading activity allowed)
    (allows : ∀ value charge, allowed value charge → wider value charge) :
    Charges invariant reading activity wider := by
  intro state value start ended
  obtain ⟨left, charge, due, charged⟩ := charges start ended
  exact ⟨left, charge, allows value charge due, charged⟩

/-- Charges add up. -/
theorem bind {next : α → Activity σ β} {allowed : β → (Account → UInt64) → Prop}
    (charges : Charges invariant reading activity fun value charge =>
      Charges invariant reading (next value) fun other more => allowed other (charge + more)) :
    Charges invariant reading (activity >>= next) allowed := by
  intro state value start ended
  obtain ⟨middle, first, second⟩ := result_bind_eq_ok_iff.mp ended
  obtain ⟨between, charge, afterwards, charged⟩ := charges start first
  obtain ⟨finish, more, due, chargedMore⟩ := afterwards between second
  rw [run_bind_of_ok first]
  exact ⟨finish, charge + more, due, by rw [chargedMore, charged, add_assoc]⟩

/-- What is read of a state has the invariant. -/
theorem read {next : σ → Activity σ α}
    (afterwards : ∀ ⦃state⦄, invariant state → Charges invariant reading (next state) allowed) :
    Charges invariant reading (state >>= next) allowed :=
  fun _ _ start ended => afterwards start start ended

/-- Where a fault is not made up for, all that counts is how an activity that ends goes on. -/
theorem bind_attempt {next : Except Fault α → Activity σ β}
    {allowed : β → (Account → UInt64) → Prop}
    (charges : Charges invariant reading activity fun value charge =>
      Charges invariant reading (next (.ok value)) fun other more => allowed other (charge + more))
    (lost : ∀ fault state value, ((next (.error fault)).run state).result ≠ .ok value) :
    Charges invariant reading (activity.attempt >>= next) allowed := by
  intro state value start ended
  obtain ⟨_, ⟨⟩, followed⟩ := result_bind_eq_ok_iff.mp ended
  cases first : (activity.run state).result with
  | error fault =>
    have after : ((next (.error fault)).run (activity.run state).state).result = .ok value := by
      rw [← first]
      exact followed
    exact absurd after (lost fault _ value)
  | ok middle =>
    have same : (activity.attempt >>= next).run state =
        (activity >>= fun value => next (.ok value)).run state := by
      rw [run_bind, run_bind, run_attempt, first]
    rw [same] at ended ⊢
    exact bind charges start ended

/-- An activity on a part charges what it charges to the part. -/
theorem on {part : σ → τ} {replace : τ → σ → σ} {inner : τ → Prop}
    {innerReading : τ → Account → UInt64} {activity : Activity τ α}
    (charges : Charges inner innerReading activity allowed)
    (enters : ∀ ⦃state⦄, invariant state → inner (part state))
    (leaves : ∀ ⦃state⦄, invariant state → ∀ ⦃left⦄, inner left →
      invariant (replace left state) ∧ ∀ charge,
        innerReading left = innerReading (part state) + charge →
          reading (replace left state) = reading state + charge) :
    Charges invariant reading (activity.on part replace) allowed := by
  intro state value start ended
  obtain ⟨left, charge, due, charged⟩ := charges (enters start) ended
  obtain ⟨kept, passedOn⟩ := leaves start left
  exact ⟨kept, charge, due, passedOn charge charged⟩

end Charges

end Activity

open Activity (Charges)

attribute [local simp] Metrics.figure Account.one

/-! ### Permissions -/

namespace Permissions

/-- The rules are these. -/
def GoesBy (rules : RuleTable) (permissions : Permissions) : Prop :=
  permissions.rules = rules

def figure (permissions : Permissions) : Account → UInt64 :=
  (Metrics.ofPermissions permissions.tally).figure

variable {rules : RuleTable}

theorem count_charges (decision : Decision) {allowed : Unit → (Account → UInt64) → Prop}
    (permit : decision = .permit → allowed () (Account.one .permits))
    (deny : decision = .deny → allowed () (Account.one .denials)) :
    Charges (GoesBy rules) figure (count decision) allowed := by
  cases decision with
  | permit =>
    refine .change _ (fun _ start => start) (fun permissions _ => ?_) (permit rfl)
    funext account
    cases account <;> simp [figure, Metrics.ofPermissions]
  | deny =>
    refine .change _ (fun _ start => start) (fun permissions _ => ?_) (deny rfl)
    funext account
    cases account <;> simp [figure, Metrics.ofPermissions]

/-- Each query is charged to the account of its answer. -/
theorem evaluate_charges (query : PermissionQuery)
    {allowed : Except Rejection Decision → (Account → UInt64) → Prop}
    (permit : allowed (.ok .permit) (Account.one .permits))
    (deny : allowed (.ok .deny) (Account.one .denials))
    (missing : allowed (.error (.configurationMissing query.action.name))
      (Account.one .configurationMissing)) :
    Charges (GoesBy rules) figure (evaluate query) allowed := by
  refine .read fun permissions _ => ?_
  split
  · exact .bind (count_charges .permit (fun _ => .pure (by simpa using permit)) nofun)
  · split
    · refine .bind (.change (Account.one .configurationMissing) (fun _ start => start)
        (fun permissions _ => ?_) (.bind (.log (.pure (by simpa using missing)))))
      funext account
      cases account <;> simp [figure, Metrics.ofPermissions]
    · next rule _ =>
      refine .bind (count_charges _ (fun decided => ?_) fun decided => ?_)
      · exact .bind (.log (.pure (by simpa [decided] using permit)))
      · exact .bind (.log (.pure (by simpa [decided] using deny)))

theorem authorize_charges (query : PermissionQuery)
    {allowed : Except Rejection Unit → (Account → UInt64) → Prop}
    (granted : allowed (.ok ()) (Account.one .permits))
    (denied : ∀ name, allowed (.error (.permissionDenied name)) (Account.one .denials))
    (missing : ∀ name,
      allowed (.error (.configurationMissing name)) (Account.one .configurationMissing)) :
    Charges (GoesBy rules) figure (authorize query) allowed := by
  refine .bind (evaluate_charges query (.pure ?_) (.pure ?_) (.pure ?_))
  · simpa using granted
  · simpa using denied _
  · simpa using missing _

end Permissions

/-! ### Duplicates -/

namespace Duplicates

/-- The settings are these, and no call of the store has failed. -/
structure Quiet (settings : DuplicateSettings) (duplicates : Duplicates DuplicateRecords) :
    Prop where
  settings : duplicates.settings = settings
  idle : duplicates.guarded.breaker.Idle

def figure (duplicates : Duplicates DuplicateRecords) : Account → UInt64 :=
  duplicates.metrics.figure

variable {settings : DuplicateSettings}

theorem hold_charges (now : Instant) (fingerprint : Fingerprint)
    {allowed : Except Rejection Fingerprint → (Account → UInt64) → Prop}
    (admitted : allowed (.ok fingerprint) (Account.one .entered + Account.one .kept))
    (rejected : allowed (.error (.duplicateRejected fingerprint))
      (Account.one .entered + Account.one .duplicatesRejected)) :
    Charges (Quiet settings) figure (hold now fingerprint) allowed := by
  intro duplicates value start ended
  cases live : duplicates.guarded.store.isLive fingerprint now with
  | true =>
    rw [run_hold_of_live start.idle live] at ended ⊢
    cases ended
    refine ⟨⟨start.settings, start.idle⟩, _, rejected, funext fun account => ?_⟩
    cases account <;> simp [figure, metrics, Metrics.ofDuplicates, add_assoc]
  | false =>
    cases within : now.after? duplicates.settings.window with
    | none =>
      rw [run_hold_of_overflow start.idle live within] at ended
      cases ended
    | some expiresAt =>
      rw [run_hold_of_new start.idle live within] at ended ⊢
      cases ended
      refine ⟨⟨start.settings, start.idle⟩, _, admitted, funext fun account => ?_⟩
      cases account <;> simp [figure, metrics, Metrics.ofDuplicates] <;> abel

/-- What is released has not been kept. -/
theorem release_charges (now : Instant) (fingerprint : Fingerprint)
    {allowed : Unit → (Account → UInt64) → Prop} (released : allowed () (-Account.one .kept)) :
    Charges (Quiet settings) figure (release now fingerprint) allowed := by
  intro duplicates value start ended
  rw [run_release start.idle] at ended ⊢
  cases ended
  refine ⟨⟨start.settings, start.idle⟩, _, released, funext fun account => ?_⟩
  cases account <;> simp [figure, metrics, Metrics.ofDuplicates]
  abel

end Duplicates

/-! ### Challenges -/

namespace Challenges

/-- The settings are these, and no call of the store has failed. -/
structure Quiet (settings : ChallengeSettings)
    (challenges : Challenges AttemptRecords CaptchaDesk) : Prop where
  settings : challenges.settings = settings
  idle : challenges.guarded.breaker.Idle

def figure (challenges : Challenges AttemptRecords CaptchaDesk) : Account → UInt64 :=
  challenges.metrics.figure

variable {settings : ChallengeSettings} (now : Instant) (key : ChallengeKey)

theorem record_charges {allowed : Option UInt32 → (Account → UInt64) → Prop}
    (recorded : ∀ count, allowed count (Account.one .attemptsRecorded)) :
    Charges (Quiet settings) figure (record now key) allowed := by
  intro challenges value start ended
  cases counted : challenges.guarded.store.recorded? key now
      (challenges.limit key.kind).window with
  | none =>
    rw [run_record_of_none start.idle counted] at ended
    cases ended
  | some window =>
    rw [run_record_of_some start.idle counted] at ended ⊢
    cases ended
    refine ⟨⟨start.settings, start.idle⟩, _, recorded _, funext fun account => ?_⟩
    cases account <;> simp [figure, metrics, changed, Metrics.ofChallenges]

/-- Reading a level is free. -/
theorem level_charges {allowed : ChallengeLevel → (Account → UInt64) → Prop}
    (free : ∀ level, allowed level 0) :
    Charges (Quiet settings) figure (level now key) allowed := by
  intro challenges value start ended
  by_cases zero : (challenges.limit key.kind).threshold = 0
  · rw [run_level]
    dsimp only
    rw [if_pos zero]
    exact ⟨start, 0, free value, (add_zero _).symm⟩
  · rw [run_level_of_ne_zero start.idle zero]
    exact ⟨⟨start.settings, start.idle⟩, 0, free value, (add_zero _).symm⟩

/-- A captcha that is passed is in no account. -/
theorem verify_charges (token : CaptchaToken)
    {allowed : Verification → (Account → UInt64) → Prop} (passed : allowed .passed 0)
    (failed : allowed .failed (Account.one .challengesFailed)) :
    Charges (Quiet settings) figure (verify now key token) allowed := by
  intro challenges value start ended
  cases said : (challenges.verifier.verify now key.user key.kind token).1 with
  | true =>
    rw [run_verify_of_passed start.idle (congrArg Reply.answer said)] at ended ⊢
    cases ended
    refine ⟨⟨start.settings, start.idle⟩, _, passed, funext fun account => ?_⟩
    cases account <;> simp [figure, metrics, changed, Metrics.ofChallenges]
  | false =>
    rw [run_verify_of_failed (congrArg Reply.answer said)] at ended ⊢
    cases ended
    refine ⟨⟨start.settings, start.idle⟩, _, failed, funext fun account => ?_⟩
    cases account <;> simp [figure, metrics, changed, Metrics.ofChallenges]

theorem check_charges (token : Option CaptchaToken)
    {allowed : Except Rejection Unit → (Account → UInt64) → Prop} (cleared : allowed (.ok ()) 0)
    (required : allowed (.error (.challengeRequired key.kind)) (Account.one .challengesRequired))
    (failed : allowed (.error (.challengeFailed key.kind)) (Account.one .challengesFailed)) :
    Charges (Quiet settings) figure (check now key token) allowed := by
  refine .bind (level_charges now key fun level => ?_)
  split
  · cases token with
    | none =>
      refine .bind (.change (Account.one .challengesRequired)
        (fun _ start => ⟨start.settings, start.idle⟩) (fun challenges _ => ?_)
        (.pure (by simpa using required)))
      funext account
      cases account <;> simp [figure, metrics, Metrics.ofChallenges]
    | some given =>
      refine .bind (verify_charges now key given (.pure ?_) (.pure ?_))
      · simpa using cleared
      · simpa using failed
  · exact .pure (by simpa using cleared)

end Challenges

/-! ### Requests -/

/-- Whether the ending of a request counts in an account, given whether the duplicates were to be
asked about it. -/
def Account.countsEnding (enters : Bool) (order : CheckOrder) (result : Except (RunError ε) α) :
    Account → Bool
  | .entered => enters
  | .duplicatesRejected => (result matches .error (.rejected (.duplicateRejected _)))
  | .kept => enters && (result matches .ok _)
  | .denials => (result matches .error (.rejected (.permissionDenied _)))
  | .configurationMissing => (result matches .error (.rejected (.configurationMissing _)))
  | .challengesRequired => (result matches .error (.rejected (.challengeRequired _)))
  | .challengesFailed => (result matches .error (.rejected (.challengeFailed _)))
  | .permits => order = .permissionFirst &&
    (result matches .error (.rejected (.challengeRequired _)) |
      .error (.rejected (.challengeFailed _)))
  | .attemptsRecorded => false
  | .storeFailures => false

/-- Whether an action that is carried out counts in an account, given whether its request is
challenged. -/
def Account.countsExecution (challenged : Bool) : Account → Bool
  | .permits => true
  | .attemptsRecorded => challenged
  | _ => false

/-- One in each account in which something counts. -/
def Account.charge (counts : Account → Bool) : Account → UInt64 := fun account =>
  UInt64.ofNat (counts account).toNat

/-- What turning a request away charges, but for its having been entered. -/
def Rejection.charge (order : CheckOrder) : Rejection → Account → UInt64
  | .permissionDenied _ => Account.one .denials
  | .configurationMissing _ => Account.one .configurationMissing
  | .duplicateRejected _ => Account.one .duplicatesRejected
  | .challengeRequired _ =>
    (if order = .permissionFirst then Account.one .permits else 0) +
      Account.one .challengesRequired
  | .challengeFailed _ =>
    (if order = .permissionFirst then Account.one .permits else 0) +
      Account.one .challengesFailed

attribute [local simp] Rejection.charge

namespace Account

variable (enters : Bool) (order : CheckOrder)

theorem charge_rejected (rejection : Rejection) :
    charge (countsEnding enters order (.error (.rejected rejection) : Except (RunError ε) α)) =
      (if enters then one .entered else 0) + rejection.charge order := by
  funext account
  cases rejection <;> cases enters <;> cases order <;> cases account <;> rfl

theorem charge_failed (error : ε) :
    charge (countsEnding enters order (.error (.action error) : Except (RunError ε) α)) =
      if enters then one .entered else 0 := by
  funext account
  cases enters <;> cases order <;> cases account <;> rfl

theorem charge_succeeded (value : α) :
    charge (countsEnding enters order (.ok value : Except (RunError ε) α)) =
      if enters then one .entered + one .kept else 0 := by
  funext account
  cases enters <;> cases order <;> cases account <;> rfl

theorem charge_execution (challenged : Bool) :
    charge (countsExecution challenged) =
      one .permits + if challenged then one .attemptsRecorded else 0 := by
  funext account
  cases challenged <;> cases account <;> rfl

end Account

namespace Gate

/-- The gate is as the first one but for what its stores hold and what it has counted, and no call
of a store has failed. -/
structure Settled (start gate : MemoryGate) : Prop where
  shares : gate.sharesMetrics = true
  permissions : gate.permissions.GoesBy start.permissions.rules
  duplicates : gate.duplicates.Quiet start.duplicates.settings
  challenges : gate.challenges.Quiet start.challenges.settings

def figure (gate : MemoryGate) : Account → UInt64 :=
  gate.metrics.figure

variable {start gate : MemoryGate}

/-- The figures of the parts add up. -/
theorem figure_eq (shares : gate.sharesMetrics = true) :
    gate.figure = gate.permissions.figure + gate.challenges.figure + gate.duplicates.figure := by
  rw [figure, metrics, if_pos shares, Metrics.figure_add, Metrics.figure_add]
  rfl

theorem onPermissions_charges {activity : Activity Permissions α}
    {allowed : α → (Account → UInt64) → Prop}
    (charges : Charges (Permissions.GoesBy start.permissions.rules) Permissions.figure activity
      allowed) :
    Charges (Settled start) figure (onPermissions activity) allowed := by
  refine charges.on (fun gate given => given.permissions) fun gate given left after =>
    ⟨⟨given.shares, after, given.duplicates, given.challenges⟩, fun charge charged => ?_⟩
  refine Eq.trans (figure_eq given.shares) ?_
  rw [figure_eq given.shares, charged]
  abel

theorem onDuplicates_charges {activity : Instant → Activity (Duplicates DuplicateRecords) α}
    {allowed : α → (Account → UInt64) → Prop}
    (charges : ∀ now, Charges (Duplicates.Quiet start.duplicates.settings) Duplicates.figure
      (activity now) allowed) :
    Charges (Settled start) figure (onDuplicates activity) allowed := by
  refine .read fun _ _ => (charges _).on (fun gate given => given.duplicates)
    fun gate given left after =>
      ⟨⟨given.shares, given.permissions, after, given.challenges⟩, fun charge charged => ?_⟩
  refine Eq.trans (figure_eq given.shares) ?_
  rw [figure_eq given.shares, charged]
  abel

theorem onChallenges_charges
    {activity : Instant → Activity (Challenges AttemptRecords CaptchaDesk) α}
    {allowed : α → (Account → UInt64) → Prop}
    (charges : ∀ now, Charges (Challenges.Quiet start.challenges.settings) Challenges.figure
      (activity now) allowed) :
    Charges (Settled start) figure (onChallenges activity) allowed := by
  refine .read fun _ _ => (charges _).on (fun gate given => given.challenges)
    fun gate given left after =>
      ⟨⟨given.shares, given.permissions, given.duplicates, after⟩, fun charge charged => ?_⟩
  refine Eq.trans (figure_eq given.shares) ?_
  rw [figure_eq given.shares, charged]
  abel

theorem holdAny_charges (fingerprint : Option Fingerprint)
    {allowed : Except Rejection Unit → (Account → UInt64) → Prop}
    (held : allowed (.ok ())
      (if fingerprint.isSome then Account.one .entered + Account.one .kept else 0))
    (rejected : ∀ other, fingerprint = some other → allowed (.error (.duplicateRejected other))
      (Account.one .entered + Account.one .duplicatesRejected)) :
    Charges (Settled start) figure (holdAny fingerprint) allowed := by
  cases fingerprint with
  | none => exact .pure held
  | some fingerprint =>
    refine .bind (onDuplicates_charges fun now => Duplicates.hold_charges now fingerprint
      (.pure ?_) (.pure ?_))
    · simpa [Except.map] using held
    · simpa [Except.map] using rejected fingerprint rfl

theorem releaseAny_charges (fingerprint : Option Fingerprint)
    {allowed : Unit → (Account → UInt64) → Prop}
    (released : allowed () (if fingerprint.isSome then -Account.one .kept else 0)) :
    Charges (Settled start) figure (releaseAny fingerprint) allowed := by
  cases fingerprint with
  | none => exact .pure released
  | some fingerprint =>
    exact onDuplicates_charges fun now => Duplicates.release_charges now fingerprint released

theorem recordAny_charges (user : String) (kind : Option ActionKind)
    {allowed : Unit → (Account → UInt64) → Prop}
    (recorded : allowed () (if kind.isSome then Account.one .attemptsRecorded else 0)) :
    Charges (Settled start) figure (recordAny user kind) allowed := by
  cases kind with
  | none => exact .pure recorded
  | some kind =>
    exact .bind (onChallenges_charges fun now => Challenges.record_charges now ⟨user, kind⟩
      fun _ => .pure (by simpa using recorded))

theorem releasingOnFault_charges {fingerprint : Option Fingerprint}
    {activity : Activity MemoryGate α} {allowed : α → (Account → UInt64) → Prop}
    (charges : Charges (Settled start) figure activity allowed) :
    Charges (Settled start) figure (releasingOnFault fingerprint activity) allowed := by
  intro gate value given ended
  have plain := result_releasingOnFault_eq_ok_iff.mp ended
  rw [run_releasingOnFault_of_ok plain]
  exact charges given plain

theorem checkAny_charges (user : String) (kind : Option ActionKind) (token : Option CaptchaToken)
    {allowed : Except Rejection Unit → (Account → UInt64) → Prop} (cleared : allowed (.ok ()) 0)
    (required : ∀ kind,
      allowed (.error (.challengeRequired kind)) (Account.one .challengesRequired))
    (failed : ∀ kind, allowed (.error (.challengeFailed kind)) (Account.one .challengesFailed)) :
    Charges (Settled start) figure (checkAny user kind token) allowed := by
  cases kind with
  | none => exact .pure cleared
  | some kind =>
    exact onChallenges_charges fun now => Challenges.check_charges now ⟨user, kind⟩ token cleared
      (required kind) (failed kind)

/-- Checks that let a request through have found it permitted. Otherwise one of the two has turned
it away, and the permission counts as granted if it has come first. -/
theorem checks_charges (request : Request) (kind : Option ActionKind)
    {allowed : Except Rejection Unit → (Account → UInt64) → Prop}
    (granted : allowed (.ok ()) (Account.one .permits))
    (refused : ∀ rejection, allowed (.error rejection) (rejection.charge request.order)) :
    Charges (Settled start) figure (checks request kind) allowed := by
  unfold checks
  cases order : request.order with
  | permissionFirst =>
    rw [order] at refused
    refine .bind (onPermissions_charges (Permissions.authorize_charges _
      (checkAny_charges _ kind _ ?_ (fun kind => ?_) fun kind => ?_)
      (fun name => .pure ?_) fun name => .pure ?_))
    · simpa using granted
    · simpa using refused (.challengeRequired kind)
    · simpa using refused (.challengeFailed kind)
    · simpa using refused (.permissionDenied name)
    · simpa using refused (.configurationMissing name)
  | challengeFirst =>
    rw [order] at refused
    refine .bind (checkAny_charges _ kind _
      (onPermissions_charges (Permissions.authorize_charges _ ?_ (fun name => ?_) fun name => ?_))
      (fun kind => .pure ?_) fun kind => .pure ?_)
    · simpa using granted
    · simpa using refused (.permissionDenied name)
    · simpa using refused (.configurationMissing name)
    · simpa using refused (.challengeRequired kind)
    · simpa using refused (.challengeFailed kind)

/-- What a request owes is up to the settings and the rules. -/
theorem Settled.owes (settled : Settled start gate) (request : Request) :
    gate.owes request = start.owes request := by
  have rules : gate.permissions.rules = start.permissions.rules := settled.permissions
  unfold Gate.owes enteredFingerprint challengedKind isExempt hasExemptRank Challenges.isExempt
  rw [settled.duplicates.settings, settled.challenges.settings, rules]

theorem held_owes (request : Request) :
    (start.owes request).held = start.enteredFingerprint request := rfl

theorem counted_owes (request : Request) :
    (start.owes request).counted = start.challengedKind request := rfl

/-- A request that is let through is charged as entered and as permitted; one that is turned away is
charged to the account of its rejection, and if it was entered it has been released. -/
theorem screen_charges (request : Request)
    {allowed : Except Rejection Pass → (Account → UInt64) → Prop}
    (passed : allowed (.ok (start.owes request))
      ((if (start.enteredFingerprint request).isSome then Account.one .entered + Account.one .kept
          else 0) + Account.one .permits))
    (refused : ∀ rejection, allowed (.error rejection)
      ((if (start.enteredFingerprint request).isSome then Account.one .entered else 0) +
        rejection.charge request.order)) :
    Charges (Settled start) figure (screen request) allowed := by
  refine .read fun gate settled => ?_
  have entering : start.enteredFingerprint request = gate.enteredFingerprint request :=
    congrArg Pass.held (settled.owes request).symm
  rw [← settled.owes request, entering] at passed
  rw [entering] at refused
  refine .bind (holdAny_charges _ ?_ fun other entered => .pure ?_)
  · refine .bind (releasingOnFault_charges (checks_charges request _ (.pure ?_)
      fun rejection => .bind (releaseAny_charges _ (.pure ?_))))
    · rw [add_zero]
      exact passed
    · convert refused rejection using 1
      split_ifs <;> abel
  · have rejected := refused (.duplicateRejected other)
    rw [entered] at rejected
    rw [add_zero]
    exact rejected

theorem settle_error_ne_ok (pass : Pass) (fault : Fault) (gate : MemoryGate)
    (result : Except (RunError ε) α) :
    ((settle pass (.error fault)).run gate).result ≠ .ok result := by
  intro ended
  obtain ⟨_, first, _⟩ := Activity.result_bind_eq_ok_iff.mp ended
  cases result_releasingOnFault_eq_ok_iff.mp first

/-- A request that has been let through is charged for its attempt, and if its action has failed it
has not been kept. -/
theorem settle_charges (pass : Pass) (result : Except ε α)
    {allowed : Except (RunError ε) α → (Account → UInt64) → Prop}
    (succeeded : ∀ value, result = .ok value → allowed (.ok value)
      (if pass.counted.isSome then Account.one .attemptsRecorded else 0))
    (failed : ∀ error, result = .error error → allowed (.error (.action error))
      ((if pass.counted.isSome then Account.one .attemptsRecorded else 0) +
        if pass.held.isSome then -Account.one .kept else 0)) :
    Charges (Settled start) figure (settle pass (.ok result)) allowed := by
  refine .bind (releasingOnFault_charges (.bind (recordAny_charges _ _ (.pure ?_))))
  cases result with
  | ok value =>
    refine .bind (.log (.pure ?_))
    simpa using succeeded value rfl
  | error error =>
    refine .bind (releaseAny_charges _ (.pure ?_))
    simpa using failed error rfl

/-- Issuing a captcha is free. -/
theorem issue_charges (user : String) (kind : ActionKind) (answer : String)
    {allowed : String → (Account → UInt64) → Prop} (free : ∀ id, allowed id 0) :
    Charges (Settled start) figure (issue user kind answer) allowed := by
  refine .bind (onChallenges_charges fun now challenges id given ended => ?_)
  refine ⟨⟨given.settings, given.idle⟩, 0, .bind (.log (.pure ?_)), (add_zero _).symm⟩
  simpa using free id

end Gate

end Gatekeeper
