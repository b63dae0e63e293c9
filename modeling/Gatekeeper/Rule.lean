/-
This file holds rank rules and what they decide. A rule gives the rank anyone needs and, possibly,
a second rank that is enough for the owner of the target. Owning the target never takes a permission
away.
-/
import Gatekeeper.Action
import Gatekeeper.SortedMap

namespace Gatekeeper

/-! ### Rules -/

/-- The standing of a user; more is better. -/
abbrev Rank := UInt64

/-- Who sends a request. -/
structure Actor where
  id : String
  rank : Rank
  isAdmin : Bool

inductive Decision where
  | permit
  | deny
  deriving DecidableEq

namespace Decision

def isPermit (decision : Decision) : Bool :=
  decision = permit

def isDeny (decision : Decision) : Bool :=
  decision = deny

/-- The word for a decision in a log event. -/
def label : Decision → String
  | permit => "Permit"
  | deny => "Deny"

end Decision

/-- The ranks an action asks for. -/
structure Rule where
  /-- The rank that is enough for anyone. -/
  others : Rank
  /-- The rank that is enough for the owner of the target, if owners are treated apart. -/
  owner : Option Rank
  deriving DecidableEq

namespace Rule

/-- The rank is enough for anyone, or the actor is the owner and it is enough for an owner. -/
def decide (rule : Rule) (rank : Rank) (isOwner : Bool) : Decision :=
  if rule.others ≤ rank || (isOwner && rule.owner.any fun enough => enough ≤ rank) then .permit
  else .deny

end Rule

/-! ### Rule tables -/

/-- The rules of a deployment, by action name. -/
abbrev RuleTable := SortedMap String Rule

namespace RuleTable

/-- The rule of an action. -/
def rule? (table : RuleTable) (action : Action) : Option Rule :=
  table.get? action.name

/-- Sets the rule of an action, over the one it had. -/
def withRule (table : RuleTable) (action : Action) (rule : Rule) : RuleTable :=
  table.insert action.name rule

/-- The table of a list of rules; of two rules for one action the later wins. -/
def ofRules (rules : List (Action × Rule)) : RuleTable :=
  rules.foldl (fun table entry => table.withRule entry.1 entry.2) SortedMap.empty

/-- Which of the required names have no rule, in the order in which they are required. -/
def missing (table : RuleTable) (required : List String) : List String :=
  required.filter fun name => (table.get? name).isNone

end RuleTable

end Gatekeeper
