/-
This file holds the counters of a gate. Each part of a gate keeps a tally of what it alone counts,
and the metrics of a gate are the tallies side by side. Counters have sixty-four bits and wrap.
-/

namespace Gatekeeper

/-! ### Tallies -/

structure PermissionTally where
  permits : UInt64
  denials : UInt64
  configurationMissing : UInt64
  deriving DecidableEq

def PermissionTally.zero : PermissionTally := ⟨0, 0, 0⟩

structure ChallengeTally where
  required : UInt64
  passed : UInt64
  failed : UInt64
  attemptsRecorded : UInt64
  /-- How many calls of the verifier have failed. -/
  verifierFailures : UInt64
  deriving DecidableEq

def ChallengeTally.zero : ChallengeTally := ⟨0, 0, 0, 0, 0⟩

structure DuplicateTally where
  admitted : UInt64
  rejected : UInt64
  released : UInt64
  deriving DecidableEq

def DuplicateTally.zero : DuplicateTally := ⟨0, 0, 0⟩

/-! ### Metrics -/

structure Metrics where
  admitted : UInt64
  duplicatesRejected : UInt64
  released : UInt64
  permits : UInt64
  denials : UInt64
  configurationMissing : UInt64
  challengesRequired : UInt64
  challengesPassed : UInt64
  challengesFailed : UInt64
  attemptsRecorded : UInt64
  storeFailures : UInt64
  deriving DecidableEq

namespace Metrics

def zero : Metrics := ⟨0, 0, 0, 0, 0, 0, 0, 0, 0, 0, 0⟩

/-- The metrics of the permissions alone. -/
def ofPermissions (tally : PermissionTally) : Metrics :=
  { zero with
    permits := tally.permits
    denials := tally.denials
    configurationMissing := tally.configurationMissing }

/-- The metrics of the challenges alone, given how many calls their store has refused. -/
def ofChallenges (tally : ChallengeTally) (refusals : UInt64) : Metrics :=
  { zero with
    challengesRequired := tally.required
    challengesPassed := tally.passed
    challengesFailed := tally.failed
    attemptsRecorded := tally.attemptsRecorded
    storeFailures := refusals + tally.verifierFailures }

/-- The metrics of the duplicates alone, given how many calls their store has refused. -/
def ofDuplicates (tally : DuplicateTally) (refusals : UInt64) : Metrics :=
  { zero with
    admitted := tally.admitted
    duplicatesRejected := tally.rejected
    released := tally.released
    storeFailures := refusals }

/-- Counter by counter. -/
def add (first second : Metrics) : Metrics :=
  ⟨first.admitted + second.admitted,
    first.duplicatesRejected + second.duplicatesRejected,
    first.released + second.released,
    first.permits + second.permits,
    first.denials + second.denials,
    first.configurationMissing + second.configurationMissing,
    first.challengesRequired + second.challengesRequired,
    first.challengesPassed + second.challengesPassed,
    first.challengesFailed + second.challengesFailed,
    first.attemptsRecorded + second.attemptsRecorded,
    first.storeFailures + second.storeFailures⟩

instance : Add Metrics := ⟨add⟩

/-- The counters in order. -/
def counters (metrics : Metrics) : List UInt64 :=
  [metrics.admitted, metrics.duplicatesRejected, metrics.released, metrics.permits,
    metrics.denials, metrics.configurationMissing, metrics.challengesRequired,
    metrics.challengesPassed, metrics.challengesFailed, metrics.attemptsRecorded,
    metrics.storeFailures]

/-! ### Rates -/

/-- A sum that stays at the greatest count instead of wrapping. -/
def saturatingAdd (first second : UInt64) : UInt64 :=
  UInt64.ofNat (min (first.toNat + second.toNat) 0xFFFFFFFFFFFFFFFF)

/-- The share of a part in a total; nothing of nothing is zero. -/
def share (part total : UInt64) : Float :=
  if total = 0 then 0 else part.toFloat / total.toFloat

/-- The share of admission checks that found a duplicate. -/
def duplicateRate (metrics : Metrics) : Float :=
  share metrics.duplicatesRejected (saturatingAdd metrics.admitted metrics.duplicatesRejected)

/-- The share of permission checks that did not permit. -/
def denialRate (metrics : Metrics) : Float :=
  let refused := saturatingAdd metrics.denials metrics.configurationMissing
  share refused (saturatingAdd metrics.permits refused)

end Metrics

end Gatekeeper
