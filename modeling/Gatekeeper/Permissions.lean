/-
This file checks ranks. An admin may do everything. Anyone else needs a rule for the action and the
rank that the rule asks for; where there is no rule the answer is no, and a warning says so.
-/
import Gatekeeper.Activity
import Gatekeeper.Metrics
import Gatekeeper.Rejection

namespace Gatekeeper

/-- The rules of a gate and what has been counted of them. -/
structure Permissions where
  rules : RuleTable
  tally : PermissionTally

/-- What a permission is asked for. -/
structure PermissionQuery where
  rank : Rank
  action : Action
  isOwner : Bool
  isAdmin : Bool

namespace Permissions

/-- Counts a decision. -/
def count (decision : Decision) : Activity Permissions Unit :=
  .change fun permissions =>
    let tally := permissions.tally
    match decision with
    | .permit => { permissions with tally := { tally with permits := tally.permits + 1 } }
    | .deny => { permissions with tally := { tally with denials := tally.denials + 1 } }

/-- What the rules decide. Without a rule they decide nothing. -/
def evaluate (query : PermissionQuery) : Activity Permissions (Except Rejection Decision) := do
  let permissions ← .state
  if query.isAdmin then
    count .permit
    return .ok .permit
  else
    match permissions.rules.rule? query.action with
    | none =>
      .change fun permissions =>
        let tally := permissions.tally
        { permissions with
          tally := { tally with configurationMissing := tally.configurationMissing + 1 } }
      .log (.ruleMissing query.action.name query.rank)
      return .error (.configurationMissing query.action.name)
    | some rule =>
      let decision := rule.decide query.rank query.isOwner
      count decision
      .log (.permissionEvaluated query.action.name query.rank query.isOwner decision)
      return .ok decision

/-- Whether the answer is yes. -/
def permits (query : PermissionQuery) : Activity Permissions Bool := do
  match ← evaluate query with
  | .ok decision => return decision.isPermit
  | .error _ => return false

/-- The answers to several queries, in order. -/
def permitsAll (queries : List PermissionQuery) : Activity Permissions (List Bool) :=
  queries.mapM permits

/-- The answer, with the reason if it is no. -/
def authorize (query : PermissionQuery) : Activity Permissions (Except Rejection Unit) := do
  match ← evaluate query with
  | .ok .permit => return .ok ()
  | .ok .deny => return .error (.permissionDenied query.action.name)
  | .error rejection => return .error rejection

end Permissions

end Gatekeeper
