/-
This file holds the configuration of a gate and what makes one valid: no window, lifetime, interval
or threshold is zero, and every action that a rule is required for has one. A missing rule is an
error only under the strict setting; otherwise it is a warning.
-/
import Gatekeeper.Document.Decode
import Gatekeeper.Event

namespace Gatekeeper

structure Config where
  /-- Whether a missing rule is an error. -/
  strict : Bool
  /-- The actions that a rule is required for. -/
  requiredActions : List String
  permissions : RuleTable
  challenge : ChallengeSettings
  duplicate : DuplicateSettings
  breaker : BreakerSettings
  sweep : SweepSettings
  log : LogSettings
  deriving DecidableEq

namespace Config

def standard : Config where
  strict := false
  requiredActions := Action.answerHandling.map StandardAction.name
  permissions := .empty
  challenge := .standard
  duplicate := .standard
  breaker := .standard
  sweep := .standard
  log := .standard

end Config

/-! ### Errors -/

/-- What makes a configuration invalid. -/
inductive ConfigFault where
  | zeroDuplicateWindow
  | zeroDefaultWindow
  | zeroKindWindow (kind : ActionKind)
  | zeroTokenLife
  | zeroSweepInterval
  | zeroFailureThreshold
  | missingRules (names : List String)
  deriving DecidableEq

namespace ConfigFault

def detail : ConfigFault → String
  | zeroDuplicateWindow => "duplicate.window_ms must be greater than zero"
  | zeroDefaultWindow => "challenge.default.window_secs must be greater than zero"
  | zeroKindWindow kind =>
    "challenge.kinds." ++ kind.name ++ ".window_secs must be greater than zero"
  | zeroTokenLife => "challenge.token_ttl_secs must be greater than zero"
  | zeroSweepInterval => "sweeper.interval_secs must be greater than zero"
  | zeroFailureThreshold => "circuit_breaker.failure_threshold must be greater than zero"
  | missingRules names => "missing permission rules: " ++ String.intercalate ", " names

end ConfigFault

/-- Why there is no configuration, or no text of one. -/
inductive ConfigError where
  | noFile (path : String)
  | notText (path : String)
  | unreadable (error : ReadError)
  | unwritable
  | invalid (fault : ConfigFault)
  deriving DecidableEq

namespace ConfigError

/-- What is said of an invalid configuration. -/
def invalidMessage (detail : String) : String :=
  s!"invalid config: {detail}"

/-- What is said of an error, where that does not depend on who reads the file or the format. -/
def message? : ConfigError → Option String
  | noFile path =>
    some s!"failed to read config file {path}: No such file or directory (os error 2)"
  | notText _ => none
  | unreadable error => error.message?
  | unwritable => some "failed to serialize config: out-of-range value for u64 type"
  | invalid fault => some (invalidMessage fault.detail)

end ConfigError

/-! ### Validity -/

/-- What is wrong with the settings for duplicates. -/
def DuplicateSettings.fault? (settings : DuplicateSettings) : Option ConfigFault :=
  if settings.windowMillis = 0 then some .zeroDuplicateWindow else none

/-- What is wrong with the settings for challenges; of several kinds the first in order. -/
def ChallengeSettings.fault? (settings : ChallengeSettings) : Option ConfigFault :=
  if settings.defaultLimit.windowSeconds = 0 then some .zeroDefaultWindow
  else
    match settings.kinds.entries.find? fun entry => entry.2.windowSeconds = 0 with
    | some entry => some (.zeroKindWindow entry.1)
    | none => if settings.tokenSeconds = 0 then some .zeroTokenLife else none

/-- What is wrong with the settings for sweeping. -/
def SweepSettings.fault? (settings : SweepSettings) : Option ConfigFault :=
  if settings.intervalSeconds = 0 then some .zeroSweepInterval else none

/-- What is wrong with the settings of the circuit breakers. -/
def BreakerSettings.fault? (settings : BreakerSettings) : Option ConfigFault :=
  if settings.failureThreshold = 0 then some .zeroFailureThreshold else none

namespace Config

/-- The actions that should have a rule and have none. The exemption action is one of them if the
exemption asks for its rank. -/
def missingRules (config : Config) : List String :=
  let required := config.permissions.missing config.requiredActions
  let exemptionAction := config.challenge.exemptionAction
  let wanting := config.challenge.exemption.usesRank &&
    (config.permissions.get? exemptionAction).isNone && !required.contains exemptionAction
  if wanting then required ++ [exemptionAction] else required

/-- The first section fault of a configuration. -/
def sectionFault? (config : Config) : Option ConfigFault :=
  config.duplicate.fault? <|> config.challenge.fault? <|> config.sweep.fault? <|>
    config.breaker.fault?

/-- What is wrong with a configuration. -/
def fault? (config : Config) : Option ConfigFault :=
  config.sectionFault? <|>
    if config.strict && !config.missingRules.isEmpty then some (.missingRules config.missingRules)
    else none

/-- Whether a configuration is valid, and the warning if rules are missing from a valid one. -/
def validate (config : Config) : Except ConfigError Unit × List Event :=
  match config.fault? with
  | some fault => (.error (.invalid fault), [])
  | none =>
    (.ok (), if config.missingRules.isEmpty then [] else [.rulesMissing config.missingRules])

end Config

end Gatekeeper
