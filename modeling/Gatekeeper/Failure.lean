/-
This file holds what can go wrong while a request is served: a store that cannot answer, what to do
then, and faults that end the request where they happen.
-/

namespace Gatekeeper

/-- Why a store gave no answer. -/
inductive StoreError where
  | unavailable (detail : String)
  | backend (detail : String)
  deriving DecidableEq

namespace StoreError

def message : StoreError → String
  | unavailable detail => s!"store unavailable: {detail}"
  | backend detail => s!"store error: {detail}"

end StoreError

/-- What counts when a store gives no answer. -/
inductive FailurePolicy where
  /-- The request goes on. -/
  | failOpen
  /-- The request is turned away. -/
  | failClosed
  deriving DecidableEq

namespace FailurePolicy

/-- The name a configuration uses. -/
def name : FailurePolicy → String
  | failOpen => "fail_open"
  | failClosed => "fail_closed"

/-- The names a configuration may choose from. -/
def choices : List (String × FailurePolicy) :=
  [failOpen, failClosed].map fun policy => (policy.name, policy)

/-- The word for a policy in a log event. -/
def label : FailurePolicy → String
  | failOpen => "FailOpen"
  | failClosed => "FailClosed"

end FailurePolicy

/-- What cuts a request short. -/
inductive Fault where
  /-- The end of a window lies beyond the last instant there is. -/
  | expiryOverflow
  /-- Something outside this library gave up. -/
  | interrupted (detail : String)
  deriving DecidableEq

namespace Fault

def message : Fault → String
  | expiryOverflow => "overflow when adding duration to instant"
  | interrupted detail => detail

end Fault

/-- What comes back from a store: an answer, a reason why there is none, or a fault. -/
inductive Reply (α : Type) where
  | answer (value : α)
  | refused (error : StoreError)
  | fault (fault : Fault)
  deriving DecidableEq

end Gatekeeper
