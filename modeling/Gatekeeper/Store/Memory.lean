/-
This file holds the stores that live in memory. They never refuse; what they can do is fault, when
the end of a new window cannot be represented, and then they stay as they were. What has expired
counts as absent whether or not it has been dropped.
-/
import Gatekeeper.Store.Interface

namespace Gatekeeper

/-! ### Duplicates -/

/-- The fingerprints of admitted requests, each with the end of its window. -/
abbrev DuplicateRecords := KeyedStore Fingerprint Instant

namespace DuplicateRecords

/-- Whether the window of a record has elapsed. At its very end it has. -/
def isExpired (now expiresAt : Instant) : Bool :=
  expiresAt ≤ now

/-- Whether a fingerprint has a record whose window has not elapsed. -/
def isLive (records : DuplicateRecords) (fingerprint : Fingerprint) (now : Instant) : Bool :=
  (records.get? fingerprint).any fun expiresAt => !isExpired now expiresAt

def tryInsert (records : DuplicateRecords) (fingerprint : Fingerprint) (now : Instant)
    (window : Duration) : Reply Bool × DuplicateRecords :=
  if records.isLive fingerprint now then (.answer false, records)
  else
    match now.after? window with
    | some expiresAt => (.answer true, records.insert fingerprint expiresAt)
    | none => (.fault .expiryOverflow, records)

def dropExpired (records : DuplicateRecords) (now : Instant) : Nat × DuplicateRecords :=
  records.purge (isExpired now)

instance : DuplicateStore DuplicateRecords where
  tryInsert := tryInsert
  remove records fingerprint := (.answer (), records.erase fingerprint)
  purge records now := (.ok (records.dropExpired now).1, (records.dropExpired now).2)

end DuplicateRecords

/-! ### Attempts -/

/-- The counting windows, by user and kind. -/
abbrev AttemptRecords := KeyedStore ChallengeKey AttemptWindow

namespace AttemptRecords

/-- What the window of a key counts. An elapsed window is dropped as it is read. -/
def attempts (records : AttemptRecords) (key : ChallengeKey) (now : Instant) :
    UInt32 × AttemptRecords :=
  let (_, records) := records.takeIf key fun window => window.isExpired now
  (((records.get? key).map fun window => window.attempts).getD 0, records)

/-- The window of a key with one more attempt. -/
def recorded? (records : AttemptRecords) (key : ChallengeKey) (now : Instant) (length : Duration) :
    Option AttemptWindow :=
  match records.get? key with
  | some window => window.record? now length
  | none => (AttemptWindow.open? now length).map AttemptWindow.count

def increment (records : AttemptRecords) (key : ChallengeKey) (now : Instant) (length : Duration) :
    Reply UInt32 × AttemptRecords :=
  match records.recorded? key now length with
  | some window => (.answer window.attempts, records.insert key window)
  | none => (.fault .expiryOverflow, records)

def dropExpired (records : AttemptRecords) (now : Instant) : Nat × AttemptRecords :=
  records.purge fun window => window.isExpired now

instance : AttemptStore AttemptRecords where
  attempts records key now :=
    let (count, records) := records.attempts key now
    (.answer count, records)
  increment := increment
  clear records key := (.answer (), records.erase key)
  purge := dropExpired

end AttemptRecords

/-! ### Captchas -/

instance : CaptchaVerifier CaptchaDesk where
  verify desk now user kind token :=
    let (passed, desk) := desk.verify now user kind token
    (.answer passed, desk)
  purge := CaptchaDesk.purge

instance : CaptchaIssuer CaptchaDesk := ⟨CaptchaDesk.issue⟩

end Gatekeeper
