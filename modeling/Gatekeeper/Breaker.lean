/-
This file holds the circuit breaker that keeps a failing store from being called. A closed circuit
lets calls through and counts failures in a row; at the threshold it opens. An open circuit lets
nothing through until the recovery time has passed since the last failure, and then turns half
open: calls go through again, the first success closes the circuit and the first failure opens it.
-/
import Gatekeeper.Time

namespace Gatekeeper

inductive CircuitState where
  | closed
  | opened
  | halfOpen
  deriving DecidableEq

namespace CircuitState

/-- The state of a number; numbers that no state has mean closed. -/
def ofCode (code : UInt8) : CircuitState :=
  if code = 1 then opened else if code = 2 then halfOpen else closed

end CircuitState

structure BreakerSettings where
  /-- How many failures in a row open the circuit. -/
  failureThreshold : UInt32
  /-- How long an open circuit stays shut. -/
  recoverySeconds : UInt64
  deriving DecidableEq

namespace BreakerSettings

def standard : BreakerSettings := ⟨5, 30⟩

def recovery (settings : BreakerSettings) : Duration :=
  .ofSeconds settings.recoverySeconds.toNat

end BreakerSettings

structure Breaker where
  settings : BreakerSettings
  /-- When the breaker was made. -/
  epoch : Instant
  state : CircuitState
  /-- Failures in a row. -/
  failures : UInt64
  /-- When the last failure was, counted from the epoch. It is kept in sixty-four bits of
  nanoseconds, and later failures count as at the latest such time. -/
  lastFailure : Duration
  deriving DecidableEq

namespace Breaker

/-- A breaker made now: closed, with no failures. -/
def ofSettings (settings : BreakerSettings) (now : Instant) : Breaker :=
  ⟨settings, now, .closed, 0, ⟨0⟩⟩

/-- How long ago the last failure was. -/
def sinceFailure (breaker : Breaker) (now : Instant) : Duration :=
  now.since ⟨breaker.epoch.nanos + breaker.lastFailure.nanos⟩

/-- Whether a call may go through now. An open circuit turns half open when it may. -/
def allow (breaker : Breaker) (now : Instant) : Bool × Breaker :=
  match breaker.state with
  | .closed => (true, breaker)
  | .halfOpen => (true, breaker)
  | .opened =>
    if (breaker.sinceFailure now).nanos < breaker.settings.recovery.nanos then (false, breaker)
    else (true, { breaker with state := .halfOpen })

/-- Notes that a call succeeded. An open circuit stays open. -/
def succeed (breaker : Breaker) : Breaker :=
  if breaker.state = .opened then breaker else { breaker with state := .closed, failures := 0 }

/-- Whether one more failure opens the circuit. -/
def opensAt (breaker : Breaker) (failures : UInt64) : Bool :=
  match breaker.state with
  | .halfOpen => true
  | .closed => breaker.settings.failureThreshold.toUInt64 ≤ failures
  | .opened => false

/-- Notes that a call failed, and says whether that opened the circuit. -/
def fail (breaker : Breaker) (now : Instant) : Bool × Breaker :=
  let failures := breaker.failures + 1
  let opens := breaker.opensAt failures
  let lastFailure := min (now.since breaker.epoch).nanos 0xFFFFFFFFFFFFFFFF
  (opens, { breaker with
    state := if opens then .opened else breaker.state
    failures := failures
    lastFailure := ⟨lastFailure⟩ })

/-- Closes the circuit and forgets the failures. -/
def reset (breaker : Breaker) : Breaker :=
  { breaker with state := .closed, failures := 0 }

end Breaker

end Gatekeeper
