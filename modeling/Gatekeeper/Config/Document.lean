/-
This file reads configurations from documents and writes them as JSON. Sections and fields may be
left out, and then have their standard value; only a limit has to give both of its fields, and a
rule its rank.
-/
import Gatekeeper.Config
import Gatekeeper.Rule.Document

namespace Gatekeeper

/-! ### Reading -/

namespace ActionKind

/-- The kind of a name in a document. -/
def ofKey (name : String) : Except ReadError ActionKind :=
  match ofName? name with
  | some kind => .ok kind
  | none => .error (.unknownKind name)

def read (document : Document) : Except ReadError ActionKind :=
  document.readText.bind ofKey

end ActionKind

namespace ChallengeLimit

def shape : RecordShape ChallengeLimit where
  start := .standard
  fields :=
    [.mandatory "threshold" Document.readWord32
        fun threshold limit => { limit with threshold := threshold },
      .mandatory "window_secs" Document.readWord64
        fun seconds limit => { limit with windowSeconds := seconds }]

end ChallengeLimit

namespace ChallengeSettings

/-- The limits of the kinds that have their own. -/
def readKinds (dialect : Dialect) (document : Document) :
    Except ReadError (SortedMap ActionKind ChallengeLimit) :=
  (document.readEntries ActionKind.ofKey (ChallengeLimit.shape.read dialect)).map SortedMap.ofList

def shape (dialect : Dialect) : RecordShape ChallengeSettings where
  start := .standard
  fields :=
    [.optional "exemption" (Document.readChoice dialect Exemption.choices)
        fun exemption settings => { settings with exemption := exemption },
      .optional "exemption_action" Document.readText
        fun action settings => { settings with exemptionAction := action },
      .optional "on_store_error" (Document.readChoice dialect FailurePolicy.choices)
        fun policy settings => { settings with onStoreError := policy },
      .optional "token_ttl_secs" Document.readWord64
        fun seconds settings => { settings with tokenSeconds := seconds },
      .optional "default" (ChallengeLimit.shape.read dialect)
        fun limit settings => { settings with defaultLimit := limit },
      .optional "kinds" (readKinds dialect)
        fun kinds settings => { settings with kinds := kinds }]

end ChallengeSettings

namespace DuplicateSettings

def shape (dialect : Dialect) : RecordShape DuplicateSettings where
  start := .standard
  fields :=
    [.optional "window_ms" Document.readWord64
        fun millis settings => { settings with windowMillis := millis },
      .optional "excluded_fields" (Document.readList Document.readText)
        fun names settings => { settings with excludedFields := names },
      .optional "on_store_error" (Document.readChoice dialect FailurePolicy.choices)
        fun policy settings => { settings with onStoreError := policy },
      .optional "admins_bypass" Document.readBoolean
        fun bypass settings => { settings with adminsBypass := bypass }]

end DuplicateSettings

namespace BreakerSettings

def shape : RecordShape BreakerSettings where
  start := .standard
  fields :=
    [.optional "failure_threshold" Document.readWord32
        fun threshold settings => { settings with failureThreshold := threshold },
      .optional "recovery_timeout_secs" Document.readWord64
        fun seconds settings => { settings with recoverySeconds := seconds }]

end BreakerSettings

namespace SweepSettings

def shape : RecordShape SweepSettings where
  start := .standard
  fields :=
    [.optional "interval_secs" Document.readWord64
        fun seconds settings => { settings with intervalSeconds := seconds }]

end SweepSettings

namespace LogSettings

def shape (dialect : Dialect) : RecordShape LogSettings where
  start := .standard
  fields :=
    [.optional "format" (Document.readChoice dialect LogFormat.choices)
        fun format settings => { settings with format := format },
      .optional "level" Document.readText
        fun level settings => { settings with level := level }]

end LogSettings

namespace Config

def shape (dialect : Dialect) : RecordShape Config where
  start := .standard
  fields :=
    [.optional "strict" Document.readBoolean
        fun strict config => { config with strict := strict },
      .optional "required_actions" (Document.readList Document.readText)
        fun names config => { config with requiredActions := names },
      .optional "permissions" (RuleTable.read dialect)
        fun table config => { config with permissions := table },
      .optional "challenge" ((ChallengeSettings.shape dialect).read dialect)
        fun settings config => { config with challenge := settings },
      .optional "duplicate" ((DuplicateSettings.shape dialect).read dialect)
        fun settings config => { config with duplicate := settings },
      .optional "circuit_breaker" (BreakerSettings.shape.read dialect)
        fun settings config => { config with breaker := settings },
      .optional "sweeper" (SweepSettings.shape.read dialect)
        fun settings config => { config with sweep := settings },
      .optional "logging" ((LogSettings.shape dialect).read dialect)
        fun settings config => { config with log := settings }]

/-- The configuration that a document describes. -/
def read (dialect : Dialect) (document : Document) : Except ReadError Config :=
  (shape dialect).read dialect document

/-- The configuration that a JSON value describes. -/
def ofJson (json : Json) : Except ReadError Config :=
  read .json (.ofJson json)

end Config

/-! ### Writing -/

def ChallengeLimit.toJson (limit : ChallengeLimit) : Json :=
  .ofMembers
    [("threshold", .ofNat limit.threshold.toNat), ("window_secs", .ofNat limit.windowSeconds.toNat)]

def ChallengeSettings.toJson (settings : ChallengeSettings) : Json :=
  .ofMembers
    [("exemption", .text settings.exemption.name),
      ("exemption_action", .text settings.exemptionAction),
      ("on_store_error", .text settings.onStoreError.name),
      ("token_ttl_secs", .ofNat settings.tokenSeconds.toNat),
      ("default", settings.defaultLimit.toJson),
      ("kinds", .ofMembers (settings.kinds.entries.map fun entry =>
        (entry.1.name, entry.2.toJson)))]

def DuplicateSettings.toJson (settings : DuplicateSettings) : Json :=
  .ofMembers
    [("window_ms", .ofNat settings.windowMillis.toNat),
      ("excluded_fields", .ofTexts settings.excludedFields),
      ("on_store_error", .text settings.onStoreError.name),
      ("admins_bypass", .boolean settings.adminsBypass)]

def BreakerSettings.toJson (settings : BreakerSettings) : Json :=
  .ofMembers
    [("failure_threshold", .ofNat settings.failureThreshold.toNat),
      ("recovery_timeout_secs", .ofNat settings.recoverySeconds.toNat)]

def SweepSettings.toJson (settings : SweepSettings) : Json :=
  .ofMembers [("interval_secs", .ofNat settings.intervalSeconds.toNat)]

def LogSettings.toJson (settings : LogSettings) : Json :=
  .ofMembers [("format", .text settings.format.name), ("level", .text settings.level)]

/-- A configuration with all its fields. -/
def Config.toJson (config : Config) : Json :=
  .ofMembers
    [("strict", .boolean config.strict),
      ("required_actions", .ofTexts config.requiredActions),
      ("permissions", config.permissions.toJson),
      ("challenge", config.challenge.toJson),
      ("duplicate", config.duplicate.toJson),
      ("circuit_breaker", config.breaker.toJson),
      ("sweeper", config.sweep.toJson),
      ("logging", config.log.toJson)]

end Gatekeeper
