/-
This file holds lengths of time and points in time. Both count nanoseconds. A point in time keeps
its seconds in a signed 64-bit number, so moving it forward fails where the sum does not fit; that
is the only way in which computing an expiry can fail.
-/

namespace Gatekeeper

/-! ### Durations -/

/-- A length of time. -/
structure Duration where
  nanos : Nat
  deriving DecidableEq

namespace Duration

def nanosPerSecond : Nat := 1000000000

def ofSeconds (seconds : Nat) : Duration := ⟨seconds * nanosPerSecond⟩

def ofMillis (millis : Nat) : Duration := ⟨millis * 1000000⟩

/-- Whole seconds, the rest cut off. -/
def seconds (duration : Duration) : Nat := duration.nanos / nanosPerSecond

/-- Whole milliseconds, the rest cut off. -/
def millis (duration : Duration) : Nat := duration.nanos / 1000000

end Duration

/-! ### Instants -/

/-- A point in time, as its distance in nanoseconds from the zero of the clock. -/
structure Instant where
  nanos : Int
  deriving DecidableEq

namespace Instant

/-- The first point in time that is too late to be represented. -/
def horizon : Int := 0x8000000000000000 * 1000000000

instance : LE Instant := ⟨fun first second => first.nanos ≤ second.nanos⟩

instance (first second : Instant) : Decidable (first ≤ second) :=
  inferInstanceAs (Decidable (first.nanos ≤ second.nanos))

theorem le_iff (first second : Instant) : first ≤ second ↔ first.nanos ≤ second.nanos := Iff.rfl

/-- The point in time a duration later, if it can be represented. -/
def after? (start : Instant) (length : Duration) : Option Instant :=
  if start.nanos + length.nanos < horizon then some ⟨start.nanos + length.nanos⟩ else none

theorem after?_eq_none_iff (start : Instant) (length : Duration) :
    start.after? length = none ↔ horizon ≤ start.nanos + length.nanos := by
  unfold after?
  split <;> simp <;> omega

theorem after?_eq_some_iff (start : Instant) (length : Duration) (later : Instant) :
    start.after? length = some later ↔
      later.nanos = start.nanos + length.nanos ∧ later.nanos < horizon := by
  obtain ⟨nanos⟩ := later
  unfold after?
  split <;> simp <;> omega

/-- How long after `start` an instant is; nothing if it is not after it. -/
def since (instant start : Instant) : Duration :=
  ⟨(instant.nanos - start.nanos).toNat⟩

end Instant

end Gatekeeper
