/-
This file lists everything that is logged. An event says what happened and with what; its level, its
wording and the text of its fields follow from that.
-/
import Gatekeeper.Fingerprint
import Gatekeeper.Settings

namespace Gatekeeper

/-! ### What events are made of -/

/-- Whether a request may go on as far as duplicates are concerned. -/
inductive Admission where
  | admitted
  | rejected
  deriving DecidableEq

namespace Admission

def isAdmitted (admission : Admission) : Bool :=
  admission = admitted

/-- The word for an admission in a log event. -/
def label : Admission → String
  | admitted => "Admitted"
  | rejected => "Rejected"

end Admission

inductive LogLevel where
  | debug
  | warn
  deriving DecidableEq

/-- The part of the gate that logs an event. -/
inductive LogSource where
  | permissions
  | challenges
  | duplicates
  | runs
  | sweeps
  | construction
  | captchas
  | configuration
  deriving DecidableEq

/-- What a store is asked to do. -/
inductive StoreCall where
  | tryInsert
  | remove
  | readAttempts
  | increment
  | clearAttempts
  deriving DecidableEq

namespace StoreCall

/-- The word for a call in a log event. -/
def label : StoreCall → String
  | tryInsert => "admit"
  | remove => "release"
  | readAttempts => "attempts"
  | increment => "increment"
  | clearAttempts => "reset"

end StoreCall

/-- The stores that a circuit breaker protects. -/
inductive StoreRole where
  | duplicates
  | challenges
  deriving DecidableEq

namespace StoreRole

/-- The word for a store in a log event. -/
def label : StoreRole → String
  | duplicates => "duplicate"
  | challenges => "challenge"

/-- The part of the gate that calls the store. -/
def source : StoreRole → LogSource
  | duplicates => .duplicates
  | challenges => .challenges

end StoreRole

/-- Which record of which store a call is about. -/
inductive StoreSubject where
  | fingerprint (request : Fingerprint)
  | counter (key : ChallengeKey)
  deriving DecidableEq

namespace StoreSubject

/-- The store that holds the record. -/
def role : StoreSubject → StoreRole
  | fingerprint _ => .duplicates
  | counter _ => .challenges

/-- The field that names the record. -/
def field : StoreSubject → String × String
  | fingerprint request => ("fingerprint", request.text)
  | counter key => ("key", key.text)

end StoreSubject

/-! ### Events -/

inductive Event where
  | permissionEvaluated (action : String) (rank : Rank) (isOwner : Bool) (decision : Decision)
  | ruleMissing (action : String) (rank : Rank)
  | attemptRecorded (key : ChallengeKey) (attempts : UInt32)
  | verifierFailed (key : ChallengeKey) (error : StoreError)
  | verificationFailed (key : ChallengeKey)
  | verificationPassed (key : ChallengeKey)
  | duplicateChecked (fingerprint : Fingerprint) (admission : Admission)
  | fingerprintReleased (fingerprint : Fingerprint)
  | storeSkipped (call : StoreCall) (subject : StoreSubject)
  | storeFailed (call : StoreCall) (subject : StoreSubject) (error : StoreError)
      (policy : FailurePolicy)
  | circuitOpened (role : StoreRole)
  | actionCompleted (user : String) (action : String)
  | recordsPurged (duplicates challenges tokens : Nat)
  | sweeperStopping
  | gateBuilding (rules : Nat) (duplicateMillis : UInt64) (exemption : Exemption)
  | captchaIssued (user : String) (kind : ActionKind)
  | rulesMissing (names : List String)
  deriving DecidableEq

namespace Event

def level : Event → LogLevel
  | ruleMissing .. | verifierFailed .. | storeFailed .. | circuitOpened .. | rulesMissing .. =>
    .warn
  | _ => .debug

def source : Event → LogSource
  | permissionEvaluated .. | ruleMissing .. => .permissions
  | attemptRecorded .. | verifierFailed .. | verificationFailed .. | verificationPassed .. =>
    .challenges
  | duplicateChecked .. | fingerprintReleased .. => .duplicates
  | storeSkipped _ subject | storeFailed _ subject _ _ => subject.role.source
  | circuitOpened role => role.source
  | actionCompleted .. => .runs
  | recordsPurged .. | sweeperStopping => .sweeps
  | gateBuilding .. => .construction
  | captchaIssued .. => .captchas
  | rulesMissing .. => .configuration

def message : Event → String
  | permissionEvaluated .. => "permission evaluated"
  | ruleMissing .. => "no permission rule configured, denying"
  | attemptRecorded .. => "challenge attempt recorded"
  | verifierFailed .. => "captcha verifier failed, treating as not passed"
  | verificationFailed .. => "captcha verification failed"
  | verificationPassed .. => "captcha verification passed, counter reset"
  | duplicateChecked .. => "duplicate check"
  | fingerprintReleased .. => "fingerprint released"
  | storeSkipped _ subject => s!"{subject.role.label} store circuit open, skipping"
  | storeFailed _ subject _ _ => s!"{subject.role.label} store failed"
  | circuitOpened role => s!"{role.label} store circuit opened"
  | actionCompleted .. => "action completed"
  | recordsPurged .. => "purged expired records"
  | sweeperStopping => "expiry sweeper stopping"
  | gateBuilding .. => "building action gate"
  | captchaIssued .. => "captcha issued"
  | rulesMissing _ => "permission rules missing, these actions deny non-admins"

private def numberText (value : Nat) : String :=
  String.ofList (Nat.toDigits 10 value)

/-- The fields of an event, each as text. -/
def fields : Event → List (String × String)
  | permissionEvaluated action rank isOwner decision =>
    [("action", action), ("rank", numberText rank.toNat),
      ("is_owner", if isOwner then "true" else "false"), ("decision", decision.label)]
  | ruleMissing action rank => [("action", action), ("rank", numberText rank.toNat)]
  | attemptRecorded key attempts =>
    [("key", key.text), ("attempts", numberText attempts.toNat)]
  | verifierFailed key error => [("key", key.text), ("error", error.message)]
  | verificationFailed key | verificationPassed key => [("key", key.text)]
  | duplicateChecked fingerprint admission =>
    [("fingerprint", fingerprint.text), ("admission", admission.label)]
  | fingerprintReleased fingerprint => [("fingerprint", fingerprint.text)]
  | storeSkipped call subject => [("operation", call.label), subject.field]
  | storeFailed call subject error policy =>
    [("operation", call.label), subject.field, ("error", error.message), ("policy", policy.label)]
  | circuitOpened _ => []
  | actionCompleted user action => [("user", user), ("action", action)]
  | recordsPurged duplicates challenges tokens =>
    [("duplicates", numberText duplicates), ("challenges", numberText challenges),
      ("tokens", numberText tokens)]
  | sweeperStopping => []
  | gateBuilding rules duplicateMillis exemption =>
    [("rules", numberText rules), ("duplicate_window_ms", numberText duplicateMillis.toNat),
      ("exemption", exemption.label)]
  | captchaIssued user kind => [("user", user), ("kind", kind.name)]
  | rulesMissing names => [("missing", String.intercalate ", " names)]

end Event

end Gatekeeper
