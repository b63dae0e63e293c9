/-
This file runs a request through a gate. First it is screened: its fingerprint is entered, its
permission and its challenge are checked, in either order. If it is let through, its own action is
carried out, and then the request is settled: the attempt is counted, whatever came of the action,
and the fingerprint is released again unless the action has succeeded. A request that is turned away
has its fingerprint released at once, and so has one that a fault cuts short.

The gate may have its place within a larger state, which the action may use as well. That makes no
difference to what happens at the gate.
-/
import Gatekeeper.Gate

namespace Gatekeeper

/-- Which check comes first. -/
inductive CheckOrder where
  | permissionFirst
  | challengeFirst
  deriving DecidableEq

structure Request where
  actor : Actor
  action : Action
  isOwner : Bool
  /-- The kind of action that may be challenged. -/
  challenge : Option ActionKind
  token : Option CaptchaToken
  fingerprint : Option Fingerprint
  order : CheckOrder

/-- What a request that has been let through still owes. -/
structure Pass where
  user : String
  action : String
  /-- The fingerprint that is released unless the action succeeds. -/
  held : Option Fingerprint
  /-- The kind of attempt that is going to be counted. -/
  counted : Option ActionKind

namespace Request

def query (request : Request) : PermissionQuery :=
  ⟨request.actor.rank, request.action, request.isOwner, request.actor.isAdmin⟩

end Request

namespace Gate

variable {δ κ ν α ε : Type}

/-- The fingerprint that a request has to be entered with. -/
def enteredFingerprint (gate : Gate δ κ ν) (request : Request) : Option Fingerprint :=
  if request.actor.isAdmin && gate.duplicates.settings.adminsBypass then none
  else request.fingerprint

/-- The kind that a request is challenged for. -/
def challengedKind (gate : Gate δ κ ν) (request : Request) : Option ActionKind :=
  if gate.isExempt request.actor then none else request.challenge

variable [DuplicateStore δ] [AttemptStore κ]

/-- Enters a fingerprint, if there is one. -/
def holdAny (fingerprint : Option Fingerprint) :
    Activity (Gate δ κ ν) (Except Rejection Unit) :=
  match fingerprint with
  | some fingerprint => do
    return (← onDuplicates fun now => Duplicates.hold now fingerprint).map fun _ => ()
  | none => return .ok ()

/-- Releases a fingerprint, if there is one. -/
def releaseAny (fingerprint : Option Fingerprint) : Activity (Gate δ κ ν) Unit :=
  match fingerprint with
  | some fingerprint => onDuplicates fun now => Duplicates.release now fingerprint
  | none => return ()

/-- Releases a fingerprint if a fault cuts the activity short. -/
def releasingOnFault (fingerprint : Option Fingerprint) (activity : Activity (Gate δ κ ν) α) :
    Activity (Gate δ κ ν) α := do
  match ← activity.attempt with
  | .ok value => return value
  | .error fault => do
    releaseAny fingerprint
    .fault fault

/-- Counts an attempt, if one is to be counted. -/
def recordAny (user : String) (kind : Option ActionKind) : Activity (Gate δ κ ν) Unit :=
  match kind with
  | some kind => do
    let _ ← onChallenges fun now => Challenges.record now ⟨user, kind⟩
    return ()
  | none => return ()

/-- Settles a request whose action has ended. -/
def settle (pass : Pass) (ended : Except Fault (Except ε α)) :
    Activity (Gate δ κ ν) (Except (RunError ε) α) := do
  let result ← releasingOnFault pass.held do
    match ended with
    | .ok result => do
      recordAny pass.user pass.counted
      return result
    | .error fault => .fault fault
  match result with
  | .ok value => do
    .log (.actionCompleted pass.user pass.action)
    return .ok value
  | .error error => do
    releaseAny pass.held
    return .error (.action error)

variable [CaptchaVerifier ν]

/-- Checks the challenge of a kind, if there is one. -/
def checkAny (user : String) (kind : Option ActionKind) (token : Option CaptchaToken) :
    Activity (Gate δ κ ν) (Except Rejection Unit) :=
  match kind with
  | some kind => onChallenges fun now => Challenges.check now ⟨user, kind⟩ token
  | none => return .ok ()

/-- The permission and the challenge of a request, in the order it asks for. What the first turns
away the second does not see. -/
def checks (request : Request) (kind : Option ActionKind) :
    Activity (Gate δ κ ν) (Except Rejection Unit) := do
  let permission : Activity (Gate δ κ ν) (Except Rejection Unit) :=
    onPermissions (Permissions.authorize request.query)
  let challenge := checkAny request.actor.id kind request.token
  let (first, second) :=
    match request.order with
    | .permissionFirst => (permission, challenge)
    | .challengeFirst => (challenge, permission)
  match ← first with
  | .ok () => second
  | .error rejection => return .error rejection

/-- Screens a request. -/
def screen (request : Request) : Activity (Gate δ κ ν) (Except Rejection Pass) := do
  let gate ← .state
  let held := gate.enteredFingerprint request
  match ← holdAny held with
  | .error rejection => return .error rejection
  | .ok () => do
    let kind := gate.challengedKind request
    match ← releasingOnFault held (checks request kind) with
    | .ok () => return .ok ⟨request.actor.id, request.action.name, held, kind⟩
    | .error rejection => do
      releaseAny held
      return .error rejection

/-- Runs a request at a gate that has its place within a larger state: its action is carried out if
it is let through, and not otherwise. The action may use all of that state. -/
def runRequestWithin {σ : Type} (place : Place σ (Gate δ κ ν)) (request : Request)
    (action : Activity σ (Except ε α)) : Activity σ (Except (RunError ε) α) := do
  match ← (screen request).within place with
  | .ok pass => (settle pass (← action.attempt)).within place
  | .error rejection => return .error (.rejected rejection)

/-- Runs a request at a gate that stands alone. -/
def runRequest (request : Request) (action : Activity (Gate δ κ ν) (Except ε α)) :
    Activity (Gate δ κ ν) (Except (RunError ε) α) :=
  runRequestWithin .whole request action

theorem runRequest_eq (request : Request) (action : Activity (Gate δ κ ν) (Except ε α)) :
    runRequest request action = (do
      match ← screen request with
      | .ok pass => settle pass (← action.attempt)
      | .error rejection => return .error (.rejected rejection)) := rfl

/-! ### What running a request comes to -/

section Outcomes

variable {request : Request} {gate : Gate δ κ ν}

theorem run_runRequest_of_pass {pass : Pass}
    (passed : ((screen request).run gate).result = .ok (.ok pass))
    (action : Activity (Gate δ κ ν) (Except ε α)) :
    (runRequest request action).run gate =
      let screened := (screen request).run gate
      let acted := action.run screened.state
      let settled := (settle pass acted.result).run acted.state
      { settled with events := screened.events ++ (acted.events ++ settled.events) } := by
  rw [runRequest_eq, Activity.run_bind_of_ok passed]
  rfl

theorem run_runRequest_of_rejection {rejection : Rejection}
    (rejected : ((screen request).run gate).result = .ok (.error rejection))
    (action : Activity (Gate δ κ ν) (Except ε α)) :
    (runRequest request action).run gate =
      { (screen request).run gate with result := .ok (.error (.rejected rejection)) } := by
  rw [runRequest_eq, Activity.run_bind_of_ok rejected]
  exact congrArg (Outcome.mk _ _) (List.append_nil _)

theorem run_runRequest_of_fault {fault : Fault}
    (ended : ((screen request).run gate).result = .error fault)
    (action : Activity (Gate δ κ ν) (Except ε α)) :
    (runRequest request action).run gate =
      { (screen request).run gate with result := .error fault } := by
  rw [runRequest_eq, Activity.run_bind_of_error ended]

end Outcomes

/-- A request that is let through is settled once its action has ended. One that is not leaves what
screening it leaves, and does not succeed. -/
theorem runRequest_cases (request : Request) (action : Activity (Gate δ κ ν) (Except ε α))
    (gate : Gate δ κ ν) :
    let screened := (screen request).run gate
    let outcome := (runRequest request action).run gate
    (∃ pass, screened.result = .ok (.ok pass) ∧
        let acted := action.run screened.state
        let settled := (settle pass acted.result).run acted.state
        outcome.result = settled.result ∧ outcome.state = settled.state) ∨
      (¬ ∃ pass, screened.result = .ok (.ok pass)) ∧
        (¬ ∃ value, outcome.result = .ok (.ok value)) ∧ outcome.state = screened.state := by
  dsimp only
  cases ended : ((screen request).run gate).result with
  | error fault =>
    rw [run_runRequest_of_fault ended]
    exact .inr ⟨nofun, nofun, rfl⟩
  | ok verdict =>
    cases verdict with
    | error rejection =>
      rw [run_runRequest_of_rejection ended]
      exact .inr ⟨nofun, nofun, rfl⟩
    | ok pass =>
      rw [run_runRequest_of_pass ended]
      exact .inl ⟨pass, rfl, rfl, rfl⟩

open Activity (Mirrors) in
/-- Wherever a gate has its place, a request is run there as at a gate that stands alone. -/
theorem runRequestWithin_mirrors {σ : Type} {place : Place σ (Gate δ κ ν)} (request : Request)
    {action : Activity σ (Except ε α)} {plain : Activity (Gate δ κ ν) (Except ε α)}
    (mirrors : Mirrors place action plain) :
    Mirrors place (runRequestWithin place request action) (runRequest request plain) := by
  refine Mirrors.bind (.within (screen request)) fun screened => ?_
  cases screened with
  | ok pass => exact mirrors.attempt.bind fun ended => .within (settle pass ended)
  | error rejection => exact .pure _

end Gate

end Gatekeeper
