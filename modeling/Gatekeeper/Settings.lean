/-
This file holds the settings of each part of a gate, with the values they have where a configuration
says nothing.
-/
import Gatekeeper.Breaker
import Gatekeeper.Challenge
import Gatekeeper.Failure
import Gatekeeper.Rule

namespace Gatekeeper

/-! ### Challenges -/

/-- Who is never challenged. -/
inductive Exemption where
  | nobody
  | admins
  /-- Admins, and whoever has the rank for the exemption action. -/
  | adminsOrRank
  /-- Admins who also have the rank for the exemption action. -/
  | adminsWithRank
  deriving DecidableEq

namespace Exemption

/-- The name a configuration uses. -/
def name : Exemption → String
  | nobody => "none"
  | admins => "admins"
  | adminsOrRank => "admins_or_rank"
  | adminsWithRank => "admins_with_rank"

/-- The names a configuration may choose from. -/
def choices : List (String × Exemption) :=
  [nobody, admins, adminsOrRank, adminsWithRank].map fun exemption => (exemption.name, exemption)

/-- The word for an exemption in a log event. -/
def label : Exemption → String
  | nobody => "None"
  | admins => "Admins"
  | adminsOrRank => "AdminsOrRank"
  | adminsWithRank => "AdminsWithRank"

/-- Whether the rank for the exemption action is asked for. -/
def usesRank : Exemption → Bool
  | nobody => false
  | admins => false
  | adminsOrRank => true
  | adminsWithRank => true

/-- Whether an actor is exempt, by whether they are an admin and whether they have the rank. -/
def covers (exemption : Exemption) (isAdmin hasRank : Bool) : Bool :=
  match exemption with
  | nobody => false
  | admins => isAdmin
  | adminsOrRank => isAdmin || hasRank
  | adminsWithRank => isAdmin && hasRank

end Exemption

structure ChallengeSettings where
  exemption : Exemption
  /-- The action whose rule says which rank exempts. -/
  exemptionAction : String
  onStoreError : FailurePolicy
  /-- How long a captcha can be answered. -/
  tokenSeconds : UInt64
  /-- The limit of a kind that has none of its own. -/
  defaultLimit : ChallengeLimit
  kinds : SortedMap ActionKind ChallengeLimit
  deriving DecidableEq

namespace ChallengeSettings

def standard : ChallengeSettings where
  exemption := .admins
  exemptionAction := StandardAction.linkUrlLimit.name
  onStoreError := .failClosed
  tokenSeconds := 300
  defaultLimit := .standard
  kinds := .empty

/-- The limit of a kind. -/
def limit (settings : ChallengeSettings) (kind : ActionKind) : ChallengeLimit :=
  (settings.kinds.get? kind).getD settings.defaultLimit

def tokenLife (settings : ChallengeSettings) : Duration :=
  .ofSeconds settings.tokenSeconds.toNat

end ChallengeSettings

/-! ### Duplicates -/

structure DuplicateSettings where
  /-- For how long an admitted request keeps its duplicates out. -/
  windowMillis : UInt64
  /-- The fields that do not count towards a fingerprint. -/
  excludedFields : List String
  onStoreError : FailurePolicy
  /-- Whether requests of admins are never held to be duplicates. -/
  adminsBypass : Bool
  deriving DecidableEq

namespace DuplicateSettings

def standard : DuplicateSettings where
  windowMillis := 2000
  excludedFields := ["request_id", "timestamp", "captcha_id", "captcha_code"]
  onStoreError := .failOpen
  adminsBypass := false

def window (settings : DuplicateSettings) : Duration :=
  .ofMillis settings.windowMillis.toNat

end DuplicateSettings

/-! ### Sweeping and logging -/

structure SweepSettings where
  intervalSeconds : UInt64
  deriving DecidableEq

namespace SweepSettings

def standard : SweepSettings := ⟨60⟩

def interval (settings : SweepSettings) : Duration :=
  .ofSeconds settings.intervalSeconds.toNat

end SweepSettings

inductive LogFormat where
  | human
  | json
  deriving DecidableEq

namespace LogFormat

/-- The name a configuration uses. -/
def name : LogFormat → String
  | human => "human"
  | json => "json"

/-- The names a configuration may choose from. -/
def choices : List (String × LogFormat) :=
  [human, json].map fun format => (format.name, format)

end LogFormat

structure LogSettings where
  format : LogFormat
  level : String
  deriving DecidableEq

namespace LogSettings

def standard : LogSettings := ⟨.human, "info"⟩

end LogSettings

end Gatekeeper
