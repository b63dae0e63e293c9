/-
This file reads configurations from TOML and writes them as TOML, every section and every field.
TOML has no integers beyond sixty-four bits with sign, so a configuration with a greater one cannot
be written.
-/
import Gatekeeper.Config.Document
import Gatekeeper.Toml.Outline
import Gatekeeper.Toml.Text

namespace Gatekeeper

open Toml

/-! ### Writing -/

def Rule.outline (rule : Rule) : Outline :=
  .table
    (("others", .integer rule.others.toNat) ::
      (rule.owner.toList.map fun owner => ("owner", Scalar.integer owner.toNat))) []

def RuleTable.outline (table : RuleTable) : Outline :=
  .table [] (table.entries.map fun entry => (entry.1, entry.2.outline))

def ChallengeLimit.outline (limit : ChallengeLimit) : Outline :=
  .table
    [("threshold", .integer limit.threshold.toNat),
      ("window_secs", .integer limit.windowSeconds.toNat)] []

def ChallengeSettings.outline (settings : ChallengeSettings) : Outline :=
  .table
    [("exemption", .text settings.exemption.name),
      ("exemption_action", .text settings.exemptionAction),
      ("on_store_error", .text settings.onStoreError.name),
      ("token_ttl_secs", .integer settings.tokenSeconds.toNat)]
    [("default", settings.defaultLimit.outline),
      ("kinds", .table [] (settings.kinds.entries.map fun entry =>
        (entry.1.name, entry.2.outline)))]

def DuplicateSettings.outline (settings : DuplicateSettings) : Outline :=
  .table
    [("window_ms", .integer settings.windowMillis.toNat),
      ("excluded_fields", .texts settings.excludedFields),
      ("on_store_error", .text settings.onStoreError.name),
      ("admins_bypass", .boolean settings.adminsBypass)] []

def BreakerSettings.outline (settings : BreakerSettings) : Outline :=
  .table
    [("failure_threshold", .integer settings.failureThreshold.toNat),
      ("recovery_timeout_secs", .integer settings.recoverySeconds.toNat)] []

def SweepSettings.outline (settings : SweepSettings) : Outline :=
  .table [("interval_secs", .integer settings.intervalSeconds.toNat)] []

def LogSettings.outline (settings : LogSettings) : Outline :=
  .table [("format", .text settings.format.name), ("level", .text settings.level)] []

namespace Config

def outline (config : Config) : Outline :=
  .table
    [("strict", .boolean config.strict), ("required_actions", .texts config.requiredActions)]
    [("permissions", config.permissions.outline),
      ("challenge", config.challenge.outline),
      ("duplicate", config.duplicate.outline),
      ("circuit_breaker", config.breaker.outline),
      ("sweeper", config.sweep.outline),
      ("logging", config.log.outline)]

/-- The text of a configuration. -/
def toToml (config : Config) : Except ConfigError String :=
  if config.outline.isWritable then .ok (String.ofList config.outline.document)
  else .error .unwritable

/-! ### Reading -/

/-- The configuration that a text describes. -/
def ofToml (text : String) : Except ConfigError Config :=
  match Toml.document? text with
  | some document => (read .toml document).mapError .unreadable
  | none => .error (.unreadable .malformed)

/-- The configuration that a file describes, given what the file holds if there is one. -/
def ofFile (path : String) (content : Option ByteArray) : Except ConfigError Config :=
  match content with
  | none => .error (.noFile path)
  | some bytes =>
    match String.fromUTF8? bytes with
    | some text => ofToml text
    | none => .error (.notText path)

end Config

end Gatekeeper
