/-
This file says how a gate can be used, whatever its stores are. Its parts are used one at a time,
requests are run, and what the action of a request does is again a use of the gate. Nobody looks at
what comes of a use: all that counts is what it leaves behind and what it logs, also where a fault
cuts it short.

How time passes is a parameter. A gate may have stores that have to be told the time, and then
waiting is more than moving the clock.
-/
import Gatekeeper.Gate.Holding
import Gatekeeper.Gate.Run
import Gatekeeper.Gate.Sweep

namespace Gatekeeper

variable {δ κ ν α ε : Type}

/-- The activity, whatever comes of it. -/
def Activity.ignored {σ : Type} (activity : Activity σ α) : Activity σ Unit := do
  let _ ← activity.attempt
  return ()

/-! ### Requests -/

namespace Holding

variable [DuplicateStore δ] [AttemptStore κ] [CaptchaVerifier ν]

/-- Runs a request whose action may also take hold of fingerprints. -/
def runRequest (request : Request) (action : Activity (Holding δ κ ν) (Except ε α)) :
    Activity (Holding δ κ ν) (Except (RunError ε) α) :=
  Gate.runRequestWithin gatePlace request action

end Holding

/-! ### Uses of a gate -/

/-- A use of a gate or of one of its parts, other than running a request. -/
inductive Use (ν : Type) where
  | evaluate (query : PermissionQuery)
  | permits (query : PermissionQuery)
  | permitsAll (queries : List PermissionQuery)
  | authorize (query : PermissionQuery)
  /-- Enters a fingerprint without holding it. -/
  | enter (fingerprint : Fingerprint)
  | hold (name : String) (fingerprint : Fingerprint)
  | complete (name : String)
  | drop (name : String)
  | release (fingerprint : Fingerprint)
  | purgeDuplicates
  | attempts (key : ChallengeKey)
  | level (key : ChallengeKey)
  | record (key : ChallengeKey)
  | verify (key : ChallengeKey) (token : CaptchaToken)
  | check (key : ChallengeKey) (token : Option CaptchaToken)
  | purgeAttempts
  | purgeTokens
  | sweep
  /-- A task that sweeps at intervals does what is due while some time passes. -/
  | passTask (task : SweepTask) (length : Duration)
  | shutDownTask (task : SweepTask)
  /-- The verifier is changed from outside. -/
  | alterVerifier (change : ν → ν)
  /-- A captcha is issued, which is a change of the verifier too. -/
  | issue (user : String) (kind : ActionKind) (change : ν → ν)
  | wait (length : Duration)

section Perform

variable [DuplicateStore δ] [AttemptStore κ] [CaptchaVerifier ν]

open Gate (onPermissions onDuplicates onChallenges)

/-- What a use does, given how time passes. -/
def Use.perform (pass : Duration → Activity (Gate δ κ ν) Unit) :
    Use ν → Activity (Holding δ κ ν) Unit
  | evaluate query => (Holding.onGate (onPermissions (Permissions.evaluate query))).ignored
  | permits query => (Holding.onGate (onPermissions (Permissions.permits query))).ignored
  | permitsAll queries => (Holding.onGate (onPermissions (Permissions.permitsAll queries))).ignored
  | authorize query => (Holding.onGate (onPermissions (Permissions.authorize query))).ignored
  | enter fingerprint =>
    (Holding.onGate (onDuplicates fun now => Duplicates.enter now fingerprint)).ignored
  | hold name fingerprint => (Holding.hold name fingerprint).ignored
  | complete name => (Holding.complete name).ignored
  | drop name => (Holding.drop name).ignored
  | release fingerprint =>
    (Holding.onGate (onDuplicates fun now => Duplicates.release now fingerprint)).ignored
  | purgeDuplicates => (Holding.onGate (onDuplicates Duplicates.purge)).ignored
  | attempts key => (Holding.onGate (onChallenges fun now => Challenges.attempts now key)).ignored
  | level key => (Holding.onGate (onChallenges fun now => Challenges.level now key)).ignored
  | record key => (Holding.onGate (onChallenges fun now => Challenges.record now key)).ignored
  | verify key token =>
    (Holding.onGate (onChallenges fun now => Challenges.verify now key token)).ignored
  | check key token =>
    (Holding.onGate (onChallenges fun now => Challenges.check now key token)).ignored
  | purgeAttempts => (Holding.onGate (onChallenges Challenges.purge)).ignored
  | purgeTokens => (Holding.onGate (onChallenges Challenges.purgeTokens)).ignored
  | sweep => (Holding.onGate Gate.sweep).ignored
  | passTask task length => (Holding.onGate (task.pass length)).ignored
  | shutDownTask task => (Holding.onGate task.shutDown).ignored
  | alterVerifier change => Holding.onGate (.change (Gate.mapVerifier change))
  | issue user kind change => Holding.onGate do
    .change (Gate.mapVerifier change)
    .log (.captchaIssued user kind)
  | wait length => (Holding.onGate (pass length)).ignored

/-- What is done with a gate, in order. -/
inductive Usage (ν ε α : Type) where
  /-- There is nothing more to do, or a fault puts an end to it. -/
  | done (ending : Except Fault (Except ε α))
  | use (next : Use ν) (rest : Usage ν ε α)
  /-- Runs a request whose action is a usage of its own. -/
  | run (request : Request) (action rest : Usage ν ε α)

/-- Uses the gate so, given how time passes. -/
def Usage.perform (pass : Duration → Activity (Gate δ κ ν) Unit) :
    Usage ν ε α → Activity (Holding δ κ ν) (Except ε α)
  | done (.ok value) => return value
  | done (.error fault) => .fault fault
  | use next rest => do
    next.perform pass
    rest.perform pass
  | run request action rest => do
    (Holding.runRequest request (action.perform pass)).ignored
    rest.perform pass

end Perform

end Gatekeeper
