/-
This file holds what an attempt counter is: how many attempts are free, how long they are
remembered, and how a count turns into a level of challenge. A window opens at its first attempt and
does not slide; once it has elapsed it counts nothing, whether or not anyone has removed it.
-/
import Gatekeeper.ActionKind
import Gatekeeper.Time

namespace Gatekeeper

/-! ### Levels and limits -/

/-- How strictly the next action of a user is challenged. -/
inductive ChallengeLevel where
  /-- Nothing has been counted. -/
  | clear
  /-- Attempts have been counted, and some are left. -/
  | armed
  /-- A captcha has to be solved. -/
  | required
  deriving DecidableEq

namespace ChallengeLevel

/-- The level of a count. A threshold of zero asks for a captcha every time. -/
def ofAttempts (attempts threshold : UInt32) : ChallengeLevel :=
  if threshold ≤ attempts then required else if attempts = 0 then clear else armed

def isRequired (level : ChallengeLevel) : Bool :=
  level = required

end ChallengeLevel

/-- How many attempts a user has, and for how long they are remembered. -/
structure ChallengeLimit where
  threshold : UInt32
  windowSeconds : UInt64
  deriving DecidableEq

namespace ChallengeLimit

/-- The limit of a threshold and a window, which is kept in whole seconds. -/
def ofWindow (threshold : UInt32) (window : Duration) : ChallengeLimit :=
  ⟨threshold, UInt64.ofNat window.seconds⟩

def window (limit : ChallengeLimit) : Duration :=
  .ofSeconds limit.windowSeconds.toNat

/-- Five attempts in five minutes. -/
def standard : ChallengeLimit := ⟨5, 300⟩

end ChallengeLimit

/-! ### Counting windows -/

/-- Whose attempts at what a counter counts. -/
structure ChallengeKey where
  user : String
  kind : ActionKind
  deriving DecidableEq

namespace ChallengeKey

def text (key : ChallengeKey) : String :=
  s!"{key.kind.name}:{key.user}"

end ChallengeKey

/-- One more, as long as it fits. -/
def saturatingSucc (count : UInt32) : UInt32 :=
  if count = 4294967295 then count else count + 1

/-- A counting window. -/
structure AttemptWindow where
  attempts : UInt32
  expiresAt : Instant
  deriving DecidableEq

namespace AttemptWindow

/-- A window that opens now, with nothing counted. There is none if its end cannot be
represented. -/
def open? (now : Instant) (length : Duration) : Option AttemptWindow :=
  (now.after? length).map fun expiresAt => ⟨0, expiresAt⟩

/-- Whether the window has elapsed. At its very end it has. -/
def isExpired (window : AttemptWindow) (now : Instant) : Bool :=
  window.expiresAt ≤ now

/-- What the window counts now. -/
def attemptsAt (window : AttemptWindow) (now : Instant) : UInt32 :=
  if window.isExpired now then 0 else window.attempts

/-- Counts one more attempt. -/
def count (window : AttemptWindow) : AttemptWindow :=
  { window with attempts := saturatingSucc window.attempts }

/-- Counts an attempt made now, in a new window if this one has elapsed. -/
def record? (window : AttemptWindow) (now : Instant) (length : Duration) : Option AttemptWindow :=
  if window.isExpired now then (open? now length).map count else some window.count

end AttemptWindow

end Gatekeeper
