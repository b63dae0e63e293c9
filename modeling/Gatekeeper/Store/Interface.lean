/-
This file says what a gate asks of its stores. A store may answer, refuse, or fault, and whatever it
does it goes on from the state it leaves. The gate knows nothing else about them.
-/
import Gatekeeper.Captcha
import Gatekeeper.Challenge
import Gatekeeper.Fingerprint

namespace Gatekeeper

/-- Keeps the fingerprints of admitted requests until their windows elapse. -/
class DuplicateStore (δ : Type) where
  /-- Enters a fingerprint unless it is live, and says whether it was entered. -/
  tryInsert : δ → Fingerprint → Instant → Duration → Reply Bool × δ
  remove : δ → Fingerprint → Reply Unit × δ
  /-- Drops what has expired, and counts it. -/
  purge : δ → Instant → Except Fault Nat × δ

/-- Counts attempts by user and kind. -/
class AttemptStore (κ : Type) where
  /-- How many attempts the live window counts. -/
  attempts : κ → ChallengeKey → Instant → Reply UInt32 × κ
  /-- Counts an attempt, in a new window if none is live, and gives the new count. -/
  increment : κ → ChallengeKey → Instant → Duration → Reply UInt32 × κ
  clear : κ → ChallengeKey → Reply Unit × κ
  /-- Drops what has expired, and counts it. -/
  purge : κ → Instant → Nat × κ

/-- Checks the answers to captchas. -/
class CaptchaVerifier (ν : Type) where
  verify : ν → Instant → String → ActionKind → CaptchaToken → Reply Bool × ν
  /-- Drops what has expired, and counts it. -/
  purge : ν → Instant → Nat × ν

/-- Issues captchas, by identifiers that their answers have to come with. -/
class CaptchaIssuer (ν : Type) where
  issue : ν → Instant → String → ActionKind → String → Except Fault String × ν

end Gatekeeper
