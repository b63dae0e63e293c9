/-
This file lists the reasons for which a gate turns a request away before anything has been done. All
of them but one are up to who sends the request; a missing rule is up to who runs the gate.
-/
import Gatekeeper.Fingerprint
import Gatekeeper.ActionKind

namespace Gatekeeper

inductive Rejection where
  | permissionDenied (action : String)
  | challengeRequired (kind : ActionKind)
  | challengeFailed (kind : ActionKind)
  | duplicateRejected (fingerprint : Fingerprint)
  | configurationMissing (action : String)
  deriving DecidableEq

namespace Rejection

def message : Rejection → String
  | permissionDenied action => s!"rank does not meet the condition for `{action}`"
  | challengeRequired kind => s!"verification is required for `{kind.name}` actions"
  | challengeFailed kind => s!"verification failed for `{kind.name}` actions"
  | duplicateRejected fingerprint => s!"duplicate request {fingerprint.text} rejected"
  | configurationMissing action => s!"no permission rule configured for `{action}`"

/-- A key that stays the same whatever the wording. -/
def reason : Rejection → String
  | permissionDenied _ => "rank_fail_to_meet_the_condition"
  | challengeRequired _ => "captcha_required"
  | challengeFailed _ => "captcha_verification_failed"
  | duplicateRejected _ => "duplicate_request"
  | configurationMissing _ => "permission_rule_missing"

/-- Whether the rejection is up to who sends the request. -/
def isClientError : Rejection → Bool
  | configurationMissing _ => false
  | _ => true

end Rejection

/-- Why a request has no result: the gate has turned it away, or its own action has failed. -/
inductive RunError (ε : Type) where
  | rejected (rejection : Rejection)
  | action (error : ε)
  deriving DecidableEq

namespace RunError

variable {ε : Type}

/-- What is said of an error, given the text of the action's own errors. -/
def message (text : ε → String) : RunError ε → String
  | rejected rejection => rejection.message
  | action error => s!"action failed: {text error}"

/-- The rejection, if that is what it is. -/
def rejection? : RunError ε → Option Rejection
  | rejected rejection => some rejection
  | action _ => none

end RunError

end Gatekeeper
