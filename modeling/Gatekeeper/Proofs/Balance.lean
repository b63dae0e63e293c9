/-
This file proves that the metrics of a gate add up. A client does nothing with a gate but run
requests, one after the other or one inside the action of another, while its clock is set and
captchas are issued. A ledger is kept of the requests whose actions have been carried out and of how
each request has ended. As long as nothing faults, every figure that can be read off the counters is
the number that the ledger says, up to wrapping.

No request is in balance while it is under way: it may have been admitted and not yet ended. What
stays the same is how far the figures are ahead of the ledger once every request has ended.
-/
import Gatekeeper.Proofs.Accounts
import Gatekeeper.Proofs.Mediation

namespace Gatekeeper

open Activity (Charges Mirrors)

variable {α β ε : Type}

/-! ### Driving a gate -/

/-- What a client does with a gate at which it only runs requests, in order. It may go by what comes
back. -/
inductive Drive (ε α : Type) where
  | done (result : Except ε α)
  /-- The clock comes to show a time. -/
  | clock (now : Instant) (rest : Drive ε α)
  | issue (user : String) (kind : ActionKind) (answer : String) (rest : String → Drive ε α)
  /-- Runs a request whose action is a drive of its own. -/
  | run (request : Request) (action : Drive ε α) (rest : Except (RunError ε) α → Drive ε α)

/-- A gate, and what has become of the requests that were run at it. -/
structure Ledger (ε α : Type) where
  gate : MemoryGate
  /-- The requests whose actions have been carried out. -/
  executed : List Request
  ended : List (Request × Except (RunError ε) α)

namespace Ledger

/-- A ledger without entries. -/
def opened (gate : MemoryGate) : Ledger ε α := ⟨gate, [], []⟩

/-- How many entries count in an account, given the gate that the ledger was opened with. -/
def number (start : MemoryGate) (ledger : Ledger ε α) (account : Account) : Nat :=
  ledger.executed.countP (fun request =>
      account.countsExecution (start.challengedKind request).isSome) +
    ledger.ended.countP fun entry =>
      account.countsEnding (start.enteredFingerprint entry.1).isSome entry.1.order entry.2

def gatePlace : Place (Ledger ε α) MemoryGate where
  read := Ledger.gate
  write gate ledger := { ledger with gate := gate }
  read_write _ _ := rfl

def onGate (activity : Activity MemoryGate β) : Activity (Ledger ε α) β :=
  activity.within gatePlace

def noteExecuted (request : Request) : Activity (Ledger ε α) Unit :=
  .change fun ledger => { ledger with executed := request :: ledger.executed }

def noteEnded (request : Request) (result : Except (RunError ε) α) : Activity (Ledger ε α) Unit :=
  .change fun ledger => { ledger with ended := (request, result) :: ledger.ended }

/-- Runs a request whose action is written down when it is carried out. -/
def serve (request : Request) (action : Activity (Ledger ε α) (Except ε α)) :
    Activity (Ledger ε α) (Except (RunError ε) α) :=
  Gate.runRequestWithin gatePlace request do
    noteExecuted request
    action

/-- Runs a request and writes down how it has ended. -/
def runRequest (request : Request) (action : Activity (Ledger ε α) (Except ε α)) :
    Activity (Ledger ε α) (Except (RunError ε) α) := do
  let result ← serve request action
  noteEnded request result
  return result

theorem noteExecuted_mirrors (request : Request) :
    Mirrors gatePlace (noteExecuted request : Activity (Ledger ε α) Unit) (pure ()) :=
  fun _ => ⟨rfl, rfl, rfl⟩

theorem noteEnded_mirrors (request : Request) (result : Except (RunError ε) α) :
    Mirrors gatePlace (noteEnded request result : Activity (Ledger ε α) Unit) (pure ()) :=
  fun _ => ⟨rfl, rfl, rfl⟩

/-- Keeping a ledger changes nothing about a request. -/
theorem runRequest_mirrors (request : Request) {action : Activity (Ledger ε α) (Except ε α)}
    {plain : Activity MemoryGate (Except ε α)} (mirrors : Mirrors gatePlace action plain) :
    Mirrors gatePlace (runRequest request action) (Gate.runRequest request plain) := by
  have acted : Mirrors gatePlace (noteExecuted request >>= fun _ => action) plain :=
    (noteExecuted_mirrors request).bind fun _ => mirrors
  have noted : Mirrors gatePlace (runRequest request action)
      (Gate.runRequest request plain >>= fun result => pure result) :=
    (Gate.runRequestWithin_mirrors request acted).bind fun result =>
      (noteEnded_mirrors request result).bind fun _ => .pure result
  rwa [Activity.bind_pure] at noted

end Ledger

/-- Does what the client does, and keeps the ledger. -/
def Drive.perform : Drive ε α → Activity (Ledger ε α) (Except ε α)
  | done result => return result
  | clock now rest => do
    Ledger.onGate (.change fun gate => { gate with now := now })
    rest.perform
  | issue user kind answer rest => do
    let id ← Ledger.onGate (Gate.issue user kind answer)
    (rest id).perform
  | run request action rest => do
    let result ← Ledger.runRequest request action.perform
    (rest result).perform

/-! ### What the ledger says -/

namespace Ledger

variable {start : MemoryGate}

/-- The numbers of the ledger, as they would be counted. -/
def figure (start : MemoryGate) (ledger : Ledger ε α) : Account → UInt64 := fun account =>
  UInt64.ofNat (ledger.number start account)

theorem figure_noteExecuted (request : Request) (ledger : Ledger ε α) :
    ((noteExecuted request).run ledger).state.figure start =
      ledger.figure start +
        Account.charge (Account.countsExecution (start.challengedKind request).isSome) := by
  funext account
  show UInt64.ofNat _ = UInt64.ofNat _ + UInt64.ofNat _
  rw [← UInt64.ofNat_add]
  congr 1
  show List.countP _ (request :: ledger.executed) + List.countP _ ledger.ended = _
  rw [List.countP_cons, number]
  cases account.countsExecution (start.challengedKind request).isSome
  · rfl
  · exact Nat.add_right_comm _ _ _

theorem figure_noteEnded (request : Request) (result : Except (RunError ε) α)
    (ledger : Ledger ε α) :
    ((noteEnded request result).run ledger).state.figure start =
      ledger.figure start + Account.charge (Account.countsEnding
        (start.enteredFingerprint request).isSome request.order result) := by
  funext account
  show UInt64.ofNat _ = UInt64.ofNat _ + UInt64.ofNat _
  rw [← UInt64.ofNat_add]
  congr 1
  show List.countP _ ledger.executed + List.countP _ ((request, result) :: ledger.ended) = _
  rw [List.countP_cons, number]
  dsimp only
  cases account.countsEnding (start.enteredFingerprint request).isSome request.order result <;> rfl

/-- How far the figures of the gate are ahead of the ledger. -/
def surplus (start : MemoryGate) (ledger : Ledger ε α) : Account → UInt64 :=
  ledger.gate.figure - ledger.figure start

/-- The gate is as it was but for what it stores and counts. -/
def Settled (start : MemoryGate) (ledger : Ledger ε α) : Prop :=
  start.Settled ledger.gate

theorem onGate_charges {activity : Activity MemoryGate β}
    {allowed : β → (Account → UInt64) → Prop}
    (charges : Charges (Gate.Settled start) Gate.figure activity allowed) :
    Charges (Settled start) (surplus start) (onGate activity : Activity (Ledger ε α) β)
      allowed := by
  refine charges.on (fun ledger given => given) fun ledger given left after =>
    ⟨after, fun charge charged => ?_⟩
  have charged : left.figure = ledger.gate.figure + charge := charged
  show left.figure - ledger.figure start = ledger.gate.figure - ledger.figure start + charge
  rw [charged]
  abel

theorem noteExecuted_charges (request : Request) {allowed : Unit → (Account → UInt64) → Prop}
    (noted : allowed () (-Account.charge
      (Account.countsExecution (start.challengedKind request).isSome))) :
    Charges (Settled start) (surplus start) (noteExecuted request : Activity (Ledger ε α) Unit)
      allowed := by
  refine .change _ (fun ledger given => given) (fun ledger _ => ?_) noted
  show ledger.gate.figure - ((noteExecuted request).run ledger).state.figure start = _
  rw [figure_noteExecuted, surplus]
  abel

theorem noteEnded_charges (request : Request) (result : Except (RunError ε) α)
    {allowed : Unit → (Account → UInt64) → Prop}
    (noted : allowed () (-Account.charge (Account.countsEnding
      (start.enteredFingerprint request).isSome request.order result))) :
    Charges (Settled start) (surplus start) (noteEnded request result) allowed := by
  refine .change _ (fun ledger given => given) (fun ledger _ => ?_) noted
  show ledger.gate.figure - ((noteEnded request result).run ledger).state.figure start = _
  rw [figure_noteEnded, surplus]
  abel

/-- What a request charges is what is written down about it, so that a request that has ended leaves
the ledger as far behind as it was. -/
theorem runRequest_charges (request : Request) {action : Activity (Ledger ε α) (Except ε α)}
    (balanced : Charges (Settled start) (surplus start) action fun _ charge => charge = 0) :
    Charges (Settled start) (surplus start) (runRequest request action) fun _ charge =>
      charge = 0 := by
  refine .bind (.bind (onGate_charges (Gate.screen_charges request ?_ fun rejection => .pure ?_)))
  · refine .bind_attempt (.bind (noteExecuted_charges request (balanced.mono ?_)))
      fun fault ledger result => Gate.settle_error_ne_ok _ fault ledger.gate result
    rintro result _ rfl
    refine onGate_charges (Gate.settle_charges _ result (fun value _ => ?_) fun error _ => ?_)
    · refine .bind (noteEnded_charges request _ (.pure ?_))
      rw [Account.charge_succeeded, Account.charge_execution, Gate.counted_owes]
      abel
    · refine .bind (noteEnded_charges request _ (.pure ?_))
      rw [Account.charge_failed, Account.charge_execution, Gate.counted_owes, Gate.held_owes]
      split_ifs <;> abel
  · refine .bind (noteEnded_charges request _ (.pure ?_))
    rw [Account.charge_rejected]
    abel

end Ledger

open Ledger (Settled surplus)

/-- A drive that ends without a fault leaves the ledger as far behind as it was. -/
theorem Drive.perform_charges (start : MemoryGate) (drive : Drive ε α) :
    Charges (Settled start) (surplus start) drive.perform fun _ charge => charge = 0 := by
  induction drive with
  | done result => exact .pure rfl
  | clock now rest inductionHypothesis =>
    refine .bind (Ledger.onGate_charges (.change 0 ?_ ?_ (inductionHypothesis.mono ?_)))
    · exact fun gate given => ⟨given.shares, given.permissions, given.duplicates, given.challenges⟩
    · exact fun gate given => (add_zero gate.figure).symm
    · rintro _ _ rfl
      rfl
  | issue user kind answer rest inductionHypothesis =>
    refine .bind (Ledger.onGate_charges (Gate.issue_charges user kind answer fun id =>
      (inductionHypothesis id).mono ?_))
    rintro _ _ rfl
    rfl
  | run request action rest actionHypothesis restHypothesis =>
    refine .bind ((Ledger.runRequest_charges request actionHypothesis).mono ?_)
    rintro result _ rfl
    refine (restHypothesis result).mono ?_
    rintro _ _ rfl
    rfl

/-! ### The metrics -/

namespace Gate

theorem assembled_of_build {config : Config} {settings : Option BreakerSettings} {now : Instant}
    {records : DuplicateRecords} {windows : AttemptRecords} {desk : CaptchaDesk} {gate : MemoryGate}
    (built : (build config settings now records windows desk).1 = .ok gate) :
    ∃ breaker, gate = assemble { config with breaker := breaker } breaker true now records windows
      desk := by
  unfold build at built
  dsimp only at built
  split at built
  · cases built
  · cases built
    exact ⟨_, rfl⟩

/-- The gate, counting into metrics that are in use already. Each counter goes on where it stands
with the part that counts into it; failed calls go on with the challenges. -/
def reportingInto (gate : MemoryGate) (metrics : Metrics) : MemoryGate :=
  { gate with
    permissions :=
      { gate.permissions with
        tally := ⟨metrics.permits, metrics.denials, metrics.configurationMissing⟩ }
    duplicates :=
      { gate.duplicates with
        tally := ⟨metrics.admitted, metrics.duplicatesRejected, metrics.released⟩ }
    challenges :=
      { gate.challenges with
        tally := ⟨metrics.challengesRequired, metrics.challengesPassed, metrics.challengesFailed,
          metrics.attemptsRecorded, metrics.storeFailures⟩ } }

theorem metrics_reportingInto (config : Config) (settings : BreakerSettings) (now : Instant)
    (records : DuplicateRecords) (windows : AttemptRecords) (desk : CaptchaDesk)
    (metrics : Metrics) :
    ((assemble config settings true now records windows desk).reportingInto metrics).metrics =
      metrics := by
  show (⟨0 + 0 + metrics.admitted, 0 + 0 + metrics.duplicatesRejected, 0 + 0 + metrics.released,
    metrics.permits + 0 + 0, metrics.denials + 0 + 0, metrics.configurationMissing + 0 + 0,
    0 + metrics.challengesRequired + 0, 0 + metrics.challengesPassed + 0,
    0 + metrics.challengesFailed + 0, 0 + metrics.attemptsRecorded + 0,
    0 + (0 + metrics.storeFailures) + 0⟩ : Metrics) = metrics
  simp only [zero_add, add_zero]

end Gate

/-- The metrics add up. A gate is built around stores in memory, counting into metrics that may be
in use already, and is driven without a fault. Then each figure has grown by the number that the
ledger says. -/
theorem metrics_add_up {config : Config} {settings : Option BreakerSettings} {now : Instant}
    {records : DuplicateRecords} {windows : AttemptRecords} {desk : CaptchaDesk} {gate : MemoryGate}
    (built : (Gate.build config settings now records windows desk).1 = .ok gate)
    (metrics : Metrics) (drive : Drive ε α) {result : Except ε α}
    (ended : (drive.perform.run (.opened (gate.reportingInto metrics))).result = .ok result)
    (account : Account) :
    let start := gate.reportingInto metrics
    let ledger := (drive.perform.run (.opened start)).state
    (ledger.gate.metrics - metrics).figure account =
      UInt64.ofNat (ledger.number start account) := by
  intro start ledger
  obtain ⟨breaker, rfl⟩ := Gate.assembled_of_build built
  have settled : Settled start (.opened start : Ledger ε α) :=
    ⟨rfl, rfl, ⟨rfl, rfl, rfl⟩, ⟨rfl, rfl, rfl⟩⟩
  obtain ⟨_, _, rfl, charged⟩ := drive.perform_charges start settled ended
  have even : ledger.gate.figure - ledger.figure start = start.figure := by
    rw [add_zero] at charged
    exact charged.trans (sub_zero start.figure)
  have grown : (ledger.gate.metrics - metrics).figure = ledger.figure start := by
    calc (ledger.gate.metrics - metrics).figure
      _ = (ledger.gate.metrics - start.metrics).figure := by
        rw [Gate.metrics_reportingInto]
      _ = ledger.gate.figure - start.figure := Metrics.figure_sub _ _
      _ = ledger.figure start := by rw [← even, sub_sub_cancel]
  exact congrFun grown account

/-- Ada's question is posted, and posting it again from within is a duplicate; another one of hers
lacks its captcha once her rank has been found to be enough. The counter of admissions wraps. -/
theorem metrics_add_up_of_duplicate :
    let metrics : Metrics := { Metrics.zero with admitted := 0xFFFFFFFFFFFFFFFF }
    let start := Gate.questionGate.reportingInto metrics
    let other : Request :=
      { Gate.question with
        token := none
        fingerprint := some ⟨List.replicate 32 1, rfl⟩
        order := .permissionFirst }
    let drive : Drive Unit Unit :=
      .run Gate.question (.run Gate.question (.done (.ok ())) fun _ => .done (.ok ())) fun _ =>
        .run other (.done (.ok ())) fun _ => .done (.ok ())
    let outcome := drive.perform.run (.opened start)
    let moved := outcome.state.gate.metrics - metrics
    outcome.result = .ok (.ok ()) ∧ moved.figure .entered = 3 ∧
      moved.figure .duplicatesRejected = 1 ∧ moved.figure .kept = 1 ∧ moved.figure .permits = 2 ∧
      moved.figure .attemptsRecorded = 1 := by
  intro metrics start other drive outcome moved
  have ended : outcome.result = .ok (.ok ()) := by decide +kernel
  have built : (Gate.build { Config.standard with
      permissions := RuleTable.ofRules [(.standard .questionAdd, ⟨10, none⟩)]
      challenge := { ChallengeSettings.standard with defaultLimit := ⟨0, 300⟩ } }
    (some .standard) ⟨0⟩ KeyedStore.empty KeyedStore.empty
      Gate.questionGate.challenges.verifier).1 = .ok Gate.questionGate := rfl
  have grown := metrics_add_up built metrics drive ended
  refine ⟨ended, ?_⟩
  simp only [moved, outcome, start, grown]
  decide +kernel

end Gatekeeper
