/-
This file writes down what a client of a gate sees, and proves that upkeep is no part of it. A
client makes calls, lets time pass and runs requests, whose actions may themselves use the gate, and
goes on by what comes back. Aside from that the gate may be swept, and its counters may be read, at
any point. Without these asides the client sees the same answers, and the same counters after each
of them.
-/
import Gatekeeper.Gate.Holding
import Gatekeeper.Gate.Run
import Gatekeeper.Gate.Sweep
import Gatekeeper.Proofs.Upkeep

namespace Gatekeeper

open Activity (Alike Unnoticed)

variable {α ε : Type}

/-! ### Calls and asides -/

/-- A gate whose stores live in memory, and what is held at it. -/
abbrev MemoryHolding := Holding DuplicateRecords AttemptRecords CaptchaDesk

/-- What a client may do with a gate, other than run a request. It may want to know the counters
too. -/
inductive Call where
  /-- Enters a fingerprint without holding it. -/
  | enter (fingerprint : Fingerprint)
  | hold (name : String) (fingerprint : Fingerprint)
  | complete (name : String)
  | drop (name : String)
  | release (fingerprint : Fingerprint)
  | record (key : ChallengeKey)
  | check (key : ChallengeKey) (token : Option CaptchaToken)
  | verify (key : ChallengeKey) (token : CaptchaToken)
  | issue (user : String) (kind : ActionKind) (answer : String)
  | attempts (key : ChallengeKey)
  | level (key : ChallengeKey)
  | wait (length : Duration)

/-- What comes back from a call. -/
inductive Answer where
  | admission (admission : Admission)
  | held (held : Except Rejection Fingerprint)
  | ended (wasHeld : Bool)
  | done
  | counted (attempts : Option UInt32)
  | checked (passed : Except Rejection Unit)
  | verified (verification : Verification)
  | issued (id : String)
  | level (level : ChallengeLevel)

open Holding in
def Call.perform : Call → Activity MemoryHolding Answer
  | enter fingerprint => do
    return .admission (← onGate (Gate.onDuplicates fun now => Duplicates.enter now fingerprint))
  | hold name fingerprint => return .held (← Holding.hold name fingerprint)
  | complete name => return .ended (← Holding.complete name)
  | drop name => return .ended (← Holding.drop name)
  | release fingerprint => do
    onGate (Gate.onDuplicates fun now => Duplicates.release now fingerprint)
    return .done
  | record key =>
    return .counted (← onGate (Gate.onChallenges fun now => Challenges.record now key))
  | check key token =>
    return .checked (← onGate (Gate.onChallenges fun now => Challenges.check now key token))
  | verify key token =>
    return .verified (← onGate (Gate.onChallenges fun now => Challenges.verify now key token))
  | issue user kind answer => return .issued (← onGate (Gate.issue user kind answer))
  | attempts key =>
    return .counted (← onGate (Gate.onChallenges fun now => Challenges.attempts now key))
  | level key => return .level (← onGate (Gate.onChallenges fun now => Challenges.level now key))
  | wait length => do
    onGate (Gate.wait length)
    return .done

/-- What may be done to a gate without the client taking part. -/
inductive Aside where
  | sweep
  | purgeDuplicates
  | purgeAttempts
  | purgeTokens
  | attempts (key : ChallengeKey)
  | level (key : ChallengeKey)
  | isRequired (key : ChallengeKey)

open Holding in
/-- Nobody is told what is read. -/
def Aside.perform : Aside → Activity MemoryHolding Unit
  | sweep => do
    let _ ← onGate Gate.sweep
    return ()
  | purgeDuplicates => do
    let _ ← onGate (Gate.onDuplicates Duplicates.purge)
    return ()
  | purgeAttempts => do
    let _ ← onGate (Gate.onChallenges Challenges.purge)
    return ()
  | purgeTokens => do
    let _ ← onGate (Gate.onChallenges Challenges.purgeTokens)
    return ()
  | attempts key => do
    let _ ← onGate (Gate.onChallenges fun now => Challenges.attempts now key)
    return ()
  | level key => do
    let _ ← onGate (Gate.onChallenges fun now => Challenges.level now key)
    return ()
  | isRequired key => do
    let level ← onGate (Gate.onChallenges fun now => Challenges.level now key)
    let _ := level.isRequired
    return ()

/-! ### Scripts -/

/-- What a client does with a gate, in order. It may go by what comes back. -/
inductive Script (ε α : Type) where
  /-- There is nothing more to do, or a fault puts an end to it. -/
  | done (ending : Except Fault (Except ε α))
  | call (call : Call) (rest : Except Fault Answer → Script ε α)
  | aside (aside : Aside) (rest : Script ε α)
  /-- Runs a request whose action is a script of its own. -/
  | run (request : Request) (action : Script ε α)
    (rest : Except Fault (Except (RunError ε) α) → Script ε α)

/-- The script without its asides. -/
def Script.bare : Script ε α → Script ε α
  | done ending => done ending
  | call asked rest => .call asked fun answer => (rest answer).bare
  | aside _ rest => rest.bare
  | run request action rest => .run request action.bare fun result => (rest result).bare

/-! ### Sessions -/

/-- Something that the client sees. -/
inductive Observation (ε α : Type) where
  | answered (answer : Except Fault Answer)
  /-- The action of a request is being carried out. -/
  | started
  | ended (result : Except Fault (Except (RunError ε) α))

/-- The counters of the gate and of each of its parts. -/
def Gate.allMetrics {δ κ ν : Type} (gate : Gate δ κ ν) : List Metrics :=
  [gate.metrics, .ofPermissions gate.permissions.tally, gate.duplicates.metrics,
    gate.challenges.metrics]

/-- A gate and what its client has seen, each time with the counters as they were then. -/
structure Session (ε α : Type) where
  holding : MemoryHolding
  seen : List (Observation ε α × List Metrics)

namespace Session

/-- A gate that has just been assembled, around stores that may already hold something. -/
def opened (config : Config) (breaker : BreakerSettings) (sharesMetrics : Bool) (now : Instant)
    (duplicates : DuplicateRecords) (attempts : AttemptRecords) (desk : CaptchaDesk) :
    Session ε α :=
  ⟨⟨.assemble config breaker sharesMetrics now duplicates attempts desk, .empty⟩, []⟩

def onHolding {β : Type} (activity : Activity MemoryHolding β) : Activity (Session ε α) β :=
  activity.on Session.holding fun holding session => { session with holding := holding }

def gatePlace : Place (Session ε α) (Gate DuplicateRecords AttemptRecords CaptchaDesk) where
  read session := session.holding.gate
  write gate session := { session with holding := { session.holding with gate := gate } }
  read_write _ _ := rfl

def onGate {β : Type} (activity : Activity (Gate DuplicateRecords AttemptRecords CaptchaDesk) β) :
    Activity (Session ε α) β :=
  activity.within gatePlace

/-- Adds to what the client has seen. -/
def note (observation : Observation ε α) : Activity (Session ε α) Unit :=
  .change fun session =>
    { session with seen := (observation, session.holding.gate.allMetrics) :: session.seen }

/-- Runs a request whose action is part of the session. -/
def runRequest (request : Request) (action : Activity (Session ε α) (Except ε α)) :
    Activity (Session ε α) (Except (RunError ε) α) :=
  Gate.runRequestWithin gatePlace request action

end Session

/-- Carries a script out, and writes down what its client sees. -/
def Script.perform : Script ε α → Activity (Session ε α) (Except ε α)
  | done (.ok value) => return value
  | done (.error fault) => .fault fault
  | call asked rest => do
    let answer ← (Session.onHolding asked.perform).attempt
    Session.note (.answered answer)
    (rest answer).perform
  | aside upkeep rest => do
    Session.onHolding upkeep.perform
    rest.perform
  | run request action rest => do
    let result ← (Session.runRequest request do
      Session.note .started
      action.perform).attempt
    Session.note (.ended result)
    (rest result).perform

/-! ### What matches at the gate -/

variable {counts : Prop}

namespace Holding

/-- The gates show the same, and the same is held at them. -/
structure Matches (counts : Prop) (first second : MemoryHolding) : Prop where
  gate : (StoreRelation.upToExpired .everything counts).OnGates first.gate second.gate
  held : first.held = second.held

theorem Matches.allMetrics {first second : MemoryHolding} (start : Matches counts first second)
    (counted : counts) : first.gate.allMetrics = second.gate.allMetrics := by
  obtain ⟨permissions, duplicates, challenges, gate⟩ := start.gate.counters counted
  unfold Gate.allMetrics
  rw [permissions, duplicates, challenges, gate]

theorem Matches.symm {first second : MemoryHolding} (start : Matches counts first second) :
    Matches counts second first :=
  ⟨start.gate.symm StoreRelation.upToExpired_symmetric, start.held.symm⟩

theorem Matches.trans {first second third : MemoryHolding} (start : Matches counts first second)
    (next : Matches counts second third) : Matches counts first third :=
  ⟨start.gate.trans StoreRelation.upToExpired_transitive next.gate, start.held.trans next.held⟩

theorem onGate_alike {β : Type}
    {first second : Activity (Gate DuplicateRecords AttemptRecords CaptchaDesk) β}
    (alike : Alike (StoreRelation.upToExpired .everything counts).OnGates first second) :
    Alike (Matches counts) (onGate first) (onGate second) :=
  Alike.on (fun _ _ start => start.gate) (fun _ _ _ _ start gate => ⟨gate, start.held⟩) alike

theorem onGate_unnoticed {β : Type}
    {activity : Activity (Gate DuplicateRecords AttemptRecords CaptchaDesk) β}
    (unnoticed : Unnoticed (StoreRelation.upToExpired .everything counts).OnGates activity) :
    Unnoticed (Matches counts) (onGate activity) :=
  Unnoticed.on (fun _ _ start => start.gate) (fun _ _ _ start gate => ⟨gate, start.held⟩) unnoticed

theorem releaseOld_alike (old : Option Fingerprint) :
    Alike (Matches counts) (releaseOld old) (releaseOld old) := by
  cases old with
  | none => exact .pure _
  | some fingerprint =>
    exact onGate_alike (StoreRelation.onDuplicates_alike fun now =>
      StoreRelation.upToExpired_kept.release now rfl)

theorem change_held_alike (update : KeyedStore String Fingerprint → KeyedStore String Fingerprint) :
    Alike (Matches counts) (.change fun holding => { holding with held := update holding.held })
      (.change fun holding => { holding with held := update holding.held }) :=
  Alike.change fun _ _ start => ⟨start.gate, congrArg update start.held⟩

theorem hold_alike (name : String) (fingerprint : Fingerprint) :
    Alike (Matches counts) (hold name fingerprint) (hold name fingerprint) := by
  refine Alike.bind (onGate_alike (StoreRelation.onDuplicates_alike fun now =>
    StoreRelation.upToExpired_kept.hold now rfl)) fun entered => ?_
  cases entered with
  | error rejection => exact .pure _
  | ok fingerprint =>
    refine Alike.read fun first second start => ?_
    rw [start.held]
    exact (change_held_alike fun held => held.insert name fingerprint).bind fun _ =>
      (releaseOld_alike _).bind fun _ => .pure _

theorem complete_alike (name : String) :
    Alike (Matches counts) (complete name) (complete name) := by
  refine Alike.read fun first second start => ?_
  rw [start.held]
  exact (change_held_alike fun held => held.erase name).bind fun _ => .pure _

theorem drop_alike (name : String) : Alike (Matches counts) (drop name) (drop name) := by
  refine Alike.read fun first second start => ?_
  rw [start.held]
  exact (change_held_alike fun held => held.erase name).bind fun _ =>
    (releaseOld_alike _).bind fun _ => .pure _

end Holding

/-- Each call has the same answer at both. -/
theorem Call.perform_alike (call : Call) :
    Alike (Holding.Matches counts) call.perform call.perform := by
  have kept := @StoreRelation.upToExpired_kept .everything counts
  cases call with
  | enter fingerprint =>
    exact (Holding.onGate_alike (StoreRelation.onDuplicates_alike fun now =>
      kept.enter now rfl)).bind fun _ => .pure _
  | hold name fingerprint => exact (Holding.hold_alike name fingerprint).bind fun _ => .pure _
  | complete name => exact (Holding.complete_alike name).bind fun _ => .pure _
  | drop name => exact (Holding.drop_alike name).bind fun _ => .pure _
  | release fingerprint =>
    exact (Holding.onGate_alike (StoreRelation.onDuplicates_alike fun now =>
      kept.release now rfl)).bind fun _ => .pure _
  | record key =>
    exact (Holding.onGate_alike (StoreRelation.onChallenges_alike fun now =>
      kept.record now rfl)).bind fun _ => .pure _
  | check key token =>
    exact (Holding.onGate_alike (StoreRelation.onChallenges_alike fun now =>
      kept.check now rfl token)).bind fun _ => .pure _
  | verify key token =>
    exact (Holding.onGate_alike (StoreRelation.onChallenges_alike fun now =>
      kept.verification now rfl token)).bind fun _ => .pure _
  | issue user kind answer =>
    exact (Holding.onGate_alike (StoreRelation.issue_alike user kind answer)).bind fun _ => .pure _
  | attempts key =>
    exact (Holding.onGate_alike (StoreRelation.onChallenges_alike fun now =>
      kept.attempts now rfl)).bind fun _ => .pure _
  | level key =>
    exact (Holding.onGate_alike (StoreRelation.onChallenges_alike fun now =>
      kept.level now rfl)).bind fun _ => .pure _
  | wait length =>
    exact (Holding.onGate_alike (StoreRelation.wait_alike length)).bind fun _ => .pure _

/-- No aside is noticed. -/
theorem Aside.perform_unnoticed (aside : Aside) :
    Unnoticed (Holding.Matches counts) aside.perform := by
  cases aside with
  | sweep => exact (Holding.onGate_unnoticed StoreRelation.sweep_unnoticed).bind fun _ => .pure _
  | purgeDuplicates =>
    exact (Holding.onGate_unnoticed (StoreRelation.onDuplicates_unnoticed
      StoreRelation.purge_unnoticed)).bind fun _ => .pure _
  | purgeAttempts =>
    exact (Holding.onGate_unnoticed (StoreRelation.onChallenges_unnoticed
      StoreRelation.purgeAttempts_unnoticed)).bind fun _ => .pure _
  | purgeTokens =>
    exact (Holding.onGate_unnoticed (StoreRelation.onChallenges_unnoticed
      StoreRelation.purgeTokens_unnoticed)).bind fun _ => .pure _
  | attempts key =>
    exact (Holding.onGate_unnoticed (StoreRelation.onChallenges_unnoticed fun now =>
      StoreRelation.attempts_unnoticed now key)).bind fun _ => .pure _
  | level key | isRequired key =>
    exact (Holding.onGate_unnoticed (StoreRelation.onChallenges_unnoticed fun now =>
      StoreRelation.level_unnoticed now key)).bind fun _ => .pure _

/-! ### What matches in a session -/

namespace Session

/-- Nothing shows a difference, and nothing has shown one before. -/
structure Matches (counts : Prop) (first second : Session ε α) : Prop where
  holding : Holding.Matches counts first.holding second.holding
  observed : first.seen.map Prod.fst = second.seen.map Prod.fst
  counted : counts → first.seen = second.seen

theorem Matches.seen {first second : Session ε α} (start : Matches True first second) :
    first.seen = second.seen :=
  start.counted trivial

theorem Matches.allMetrics {first second : Session ε α} (start : Matches True first second) :
    first.holding.gate.allMetrics = second.holding.gate.allMetrics :=
  start.holding.allMetrics trivial

theorem Matches.symm {first second : Session ε α} (start : Matches counts first second) :
    Matches counts second first :=
  ⟨start.holding.symm, start.observed.symm, fun counted => (start.counted counted).symm⟩

theorem Matches.trans {first second third : Session ε α} (start : Matches counts first second)
    (next : Matches counts second third) : Matches counts first third :=
  ⟨start.holding.trans next.holding, start.observed.trans next.observed,
    fun counted => (start.counted counted).trans (next.counted counted)⟩

theorem opened_matches (config : Config) (breaker : BreakerSettings) (sharesMetrics : Bool)
    (now : Instant) (duplicates : DuplicateRecords) (attempts : AttemptRecords)
    (desk : CaptchaDesk) :
    Matches counts (opened config breaker sharesMetrics now duplicates attempts desk : Session ε α)
      (opened config breaker sharesMetrics now duplicates attempts desk) where
  holding := ⟨.assemble config breaker sharesMetrics now duplicates attempts desk, rfl⟩
  observed := rfl
  counted _ := rfl

theorem onHolding_alike {β : Type} {first second : Activity MemoryHolding β}
    (alike : Alike (Holding.Matches counts) first second) :
    Alike (Matches counts) (onHolding first : Activity (Session ε α) β) (onHolding second) :=
  Alike.on (fun _ _ start => start.holding)
    (fun _ _ _ _ start holding => ⟨holding, start.observed, start.counted⟩) alike

theorem onHolding_unnoticed {β : Type} {activity : Activity MemoryHolding β}
    (unnoticed : Unnoticed (Holding.Matches counts) activity) :
    Unnoticed (Matches counts) (onHolding activity : Activity (Session ε α) β) :=
  Unnoticed.on (fun _ _ start => start.holding)
    (fun _ _ _ start holding => ⟨holding, start.observed, start.counted⟩) unnoticed

theorem onGate_alike {β : Type}
    {first second : Activity (Gate DuplicateRecords AttemptRecords CaptchaDesk) β}
    (alike : Alike (StoreRelation.upToExpired .everything counts).OnGates first second) :
    Alike (Matches counts) (onGate first : Activity (Session ε α) β) (onGate second) :=
  onHolding_alike (Holding.onGate_alike alike)

/-- What is seen comes with the counters; where they are compared they have to be the same too. -/
theorem note_alike (observation : Observation ε α) :
    Alike (Matches counts) (note observation) (note observation) := by
  refine Alike.change fun first second start => ⟨start.holding, ?_, fun counted => ?_⟩
  · exact congrArg (observation :: ·) start.observed
  · rw [start.holding.allMetrics counted, start.counted counted]

theorem runRequest_alike (request : Request)
    {first second : Activity (Session ε α) (Except ε α)}
    (alike : Alike (Matches counts) first second) :
    Alike (Matches counts) (runRequest request first) (runRequest request second) :=
  StoreRelation.upToExpired_kept.runRequestWithin (Scope.everything_covers request)
    (fun _ _ start => start.holding.gate)
    (fun _ _ _ _ start gate => ⟨⟨gate, start.holding.held⟩, start.observed, start.counted⟩) alike

end Session

namespace Script

/-- With its asides or without them, a script does the same. The induction is on the script; the
asides are skipped, and everything else is done on both sides. -/
theorem perform_alike (script : Script ε α) :
    Alike (Session.Matches counts) script.perform script.bare.perform := by
  induction script with
  | done ending =>
    cases ending with
    | ok value => exact .pure _
    | error fault => exact .fault _
  | call asked rest restAlike =>
    refine (Session.onHolding_alike asked.perform_alike).attempt.bind fun answer => ?_
    exact (Session.note_alike _).bind fun _ => restAlike answer
  | aside upkeep rest restAlike =>
    exact (Session.onHolding_unnoticed upkeep.perform_unnoticed).skip restAlike
  | run request action rest actionAlike restAlike =>
    have started : Alike (Session.Matches counts)
        (do Session.note .started; action.perform)
        (do Session.note .started; action.bare.perform) :=
      (Session.note_alike _).bind fun _ => actionAlike
    refine (Session.runRequest_alike request started).attempt.bind fun result => ?_
    exact (Session.note_alike _).bind fun _ => restAlike result

/-- Upkeep is unobservable: whatever a client does, and wherever sweeps, purges and readings fall in
between, it comes to the same end, and the client sees the same answers, with the same counters
after each of them and at the end, as without any. -/
theorem asides_unobservable (script : Script ε α) (config : Config) (breaker : BreakerSettings)
    (sharesMetrics : Bool) (now : Instant) (duplicates : DuplicateRecords)
    (attempts : AttemptRecords) (desk : CaptchaDesk) :
    let start : Session ε α :=
      .opened config breaker sharesMetrics now duplicates attempts desk
    let full := script.perform.run start
    let bare := script.bare.perform.run start
    full.result = bare.result ∧ full.state.seen = bare.state.seen ∧
      full.state.holding.gate.allMetrics = bare.state.holding.gate.allMetrics := by
  intro start full bare
  obtain ⟨sameResult, sameState⟩ := script.perform_alike
    (Session.opened_matches config breaker sharesMetrics now duplicates attempts desk)
  exact ⟨sameResult, sameState.seen, sameState.allMetrics⟩

end Script

end Gatekeeper
