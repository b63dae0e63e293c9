/-
This file holds requests that have been admitted and are still in flight. Such a request holds its
fingerprint, under a name of its own, until it completes or is dropped; one that is dropped has its
fingerprint released.
-/
import Gatekeeper.Gate

namespace Gatekeeper

/-- A gate and the fingerprints that are held at it, by the name of their request. -/
structure Holding (δ κ ν : Type) where
  gate : Gate δ κ ν
  held : KeyedStore String Fingerprint

namespace Holding

variable {δ κ ν α : Type}

def gatePlace : Place (Holding δ κ ν) (Gate δ κ ν) where
  read := Holding.gate
  write gate holding := { holding with gate := gate }
  read_write _ _ := rfl

/-- What happens at the gate. -/
def onGate (activity : Activity (Gate δ κ ν) α) : Activity (Holding δ κ ν) α :=
  activity.within gatePlace

variable [DuplicateStore δ]

/-- Releases the fingerprint of a request that is no longer held. -/
def releaseOld (old : Option Fingerprint) : Activity (Holding δ κ ν) Unit :=
  match old with
  | some fingerprint => onGate (Gate.onDuplicates fun now => Duplicates.release now fingerprint)
  | none => return ()

/-- Admits a request that holds its fingerprint from now on. Whatever it held before is released
behind that. -/
def hold (name : String) (fingerprint : Fingerprint) :
    Activity (Holding δ κ ν) (Except Rejection Fingerprint) := do
  match ← onGate (Gate.onDuplicates fun now => Duplicates.hold now fingerprint) with
  | .error rejection => return .error rejection
  | .ok fingerprint => do
    let holding ← .state
    .change fun holding => { holding with held := holding.held.insert name fingerprint }
    releaseOld (holding.held.get? name)
    return .ok fingerprint

/-- Ends a request and keeps its fingerprint live; says whether it held one. -/
def complete (name : String) : Activity (Holding δ κ ν) Bool := do
  let holding ← .state
  .change fun holding => { holding with held := holding.held.erase name }
  return holding.held.contains name

/-- Ends a request and releases its fingerprint; says whether it held one. -/
def drop (name : String) : Activity (Holding δ κ ν) Bool := do
  let holding ← .state
  .change fun holding => { holding with held := holding.held.erase name }
  releaseOld (holding.held.get? name)
  return holding.held.contains name

end Holding

end Gatekeeper
