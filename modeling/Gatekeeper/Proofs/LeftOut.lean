/-
This file proves what becomes of a configuration when sections and fields are left out of its
document. Whatever is left out, and however the rest is arranged, the rest is read as the same
configuration with the standard value for each field that is missing, unless a limit is left that
has lost one of its two fields. Limits have to give both, although there are standard values for
them; a document with half a limit is not read at all.
-/
import Gatekeeper.Config.Document
import Gatekeeper.Proofs.Omissions

namespace Gatekeeper

/-! ### Limits -/

namespace ChallengeLimit

/-- A limit with the standard value for each field that is left out. -/
def without (omitted : Omission) (limit : ChallengeLimit) : ChallengeLimit where
  threshold := if omitted ["threshold"] then standard.threshold else limit.threshold
  windowSeconds := if omitted ["window_secs"] then standard.windowSeconds else limit.windowSeconds

def omittable (dialect : Dialect) : Omittable :=
  .record dialect [⟨"threshold", true, .whole⟩, ⟨"window_secs", true, .whole⟩]

theorem orderly : shape.Orderly where
  distinct := by simp [RecordShape.names, shape, Field.mandatory, Field.optional]
  commute := by
    simp only [shape, List.pairwise_pair]
    exact Field.commutes_optional "threshold" "window_secs" fun _ _ _ => rfl

theorem without_standard (omitted : Omission) : without omitted standard = standard := by
  simp [without]

theorem withstood (dialect : Dialect) :
    (omittable dialect).Withstood (shape.read dialect) without := by
  refine Omittable.record_withstood orderly dialect ?_ without_standard
  refine .cons (.whole ?_ ?_ true) (.cons (.whole ?_ ?_ true) .nil)
  all_goals
    intro omitted value record omits
    simp [without, omits]

/-- Both fields stay. -/
def Spared (omitted : Omission) : Prop :=
  omitted ["threshold"] = false ∧ omitted ["window_secs"] = false

theorem stands_iff (dialect : Dialect) (omitted : Omission) (document : Document) :
    (omittable dialect).stands omitted document ↔ Spared omitted := by
  simp [omittable, Spared]

end ChallengeLimit

/-! ### Challenges -/

theorem ActionKind.ofKey_eq_ok_iff (text : String) (kind : ActionKind) :
    ofKey text = .ok kind ↔ text = kind.name := by
  rw [ofKey]
  constructor
  · intro reads
    split at reads
    · next found =>
      cases reads
      rw [ofName?] at found
      have named := List.find?_some found
      exact (eq_of_beq named).symm
    · cases reads
  · rintro rfl
    rw [ofName?_name]

namespace ChallengeSettings

/-- The settings with the standard value for each field that is left out. -/
def without (omitted : Omission) (settings : ChallengeSettings) : ChallengeSettings where
  exemption := if omitted ["exemption"] then standard.exemption else settings.exemption
  exemptionAction :=
    if omitted ["exemption_action"] then standard.exemptionAction else settings.exemptionAction
  onStoreError :=
    if omitted ["on_store_error"] then standard.onStoreError else settings.onStoreError
  tokenSeconds :=
    if omitted ["token_ttl_secs"] then standard.tokenSeconds else settings.tokenSeconds
  defaultLimit :=
    if omitted ["default"] then standard.defaultLimit
    else settings.defaultLimit.without (omitted.below "default")
  kinds :=
    if omitted ["kinds"] then standard.kinds
    else settings.kinds.mapValues fun kind =>
      ChallengeLimit.without ((omitted.below "kinds").below kind.name)

def omittable (dialect : Dialect) : Omittable :=
  .record dialect
    [⟨"exemption", false, .whole⟩, ⟨"exemption_action", false, .whole⟩,
      ⟨"on_store_error", false, .whole⟩, ⟨"token_ttl_secs", false, .whole⟩,
      ⟨"default", false, ChallengeLimit.omittable dialect⟩,
      ⟨"kinds", false, (ChallengeLimit.omittable dialect).map⟩]

theorem orderly (dialect : Dialect) : (shape dialect).Orderly where
  distinct := by simp [RecordShape.names, shape, Field.optional]
  commute := by simp [shape, Field.commutes_optional]

theorem without_standard (omitted : Omission) : without omitted standard = standard := by
  have limit : standard.defaultLimit.without (omitted.below "default") = standard.defaultLimit :=
    ChallengeLimit.without_standard _
  have kinds : (standard.kinds.mapValues fun kind =>
      ChallengeLimit.without ((omitted.below "kinds").below kind.name)) = standard.kinds := rfl
  simp [without, limit, kinds]

theorem kinds_withstood (dialect : Dialect) :
    (ChallengeLimit.omittable dialect).map.Withstood (readKinds dialect) fun omitted kinds =>
      kinds.mapValues fun kind => ChallengeLimit.without (omitted.below kind.name) :=
  Omittable.map_withstood (ChallengeLimit.withstood dialect) ActionKind.ofKey_eq_ok_iff

theorem withstood (dialect : Dialect) :
    (omittable dialect).Withstood ((shape dialect).read dialect) without := by
  refine Omittable.record_withstood (orderly dialect) dialect ?_ without_standard
  refine .cons (.whole ?_ ?_ false) (.cons (.whole ?_ ?_ false) (.cons (.whole ?_ ?_ false)
    (.cons (.whole ?_ ?_ false)
      (.cons (.of_content (ChallengeLimit.withstood dialect) ?_ ?_ false)
        (.cons (.of_content (kinds_withstood dialect) ?_ ?_ false) .nil)))))
  all_goals
    intro omitted value record omits
    simp [without, omits]

/-- No limit that stays loses one of its fields. -/
def SparesLimits (dialect : Dialect) (omitted : Omission) (document : Document) : Prop :=
  (omitted ["default"] = false → ∀ limit,
    document.field? (shape dialect).names "default" = some limit →
      ChallengeLimit.Spared (omitted.below "default")) ∧
  (omitted ["kinds"] = false → ∀ kinds,
    document.field? (shape dialect).names "kinds" = some kinds →
      ∀ entries ending, kinds.entries? = some (entries, ending) →
        ∀ entry ∈ entries, ChallengeLimit.Spared ((omitted.below "kinds").below entry.1))

theorem stands_iff (dialect : Dialect) (omitted : Omission) (document : Document) :
    (omittable dialect).stands omitted document ↔ SparesLimits dialect omitted document := by
  simp [omittable, ChallengeLimit.stands_iff, SparesLimits, shape, RecordShape.names,
    Field.optional]

end ChallengeSettings

/-! ### The other sections -/

namespace DuplicateSettings

def without (omitted : Omission) (settings : DuplicateSettings) : DuplicateSettings where
  windowMillis := if omitted ["window_ms"] then standard.windowMillis else settings.windowMillis
  excludedFields :=
    if omitted ["excluded_fields"] then standard.excludedFields else settings.excludedFields
  onStoreError :=
    if omitted ["on_store_error"] then standard.onStoreError else settings.onStoreError
  adminsBypass := if omitted ["admins_bypass"] then standard.adminsBypass else settings.adminsBypass

def omittable (dialect : Dialect) : Omittable :=
  .record dialect
    [⟨"window_ms", false, .whole⟩, ⟨"excluded_fields", false, .whole⟩,
      ⟨"on_store_error", false, .whole⟩, ⟨"admins_bypass", false, .whole⟩]

theorem orderly (dialect : Dialect) : (shape dialect).Orderly where
  distinct := by simp [RecordShape.names, shape, Field.optional]
  commute := by simp [shape, Field.commutes_optional]

theorem stands (dialect : Dialect) (omitted : Omission) (document : Document) :
    (omittable dialect).stands omitted document := by
  simp [omittable]

theorem without_standard (omitted : Omission) : without omitted standard = standard := by
  simp [without]

theorem withstood (dialect : Dialect) :
    (omittable dialect).Withstood ((shape dialect).read dialect) without := by
  refine Omittable.record_withstood (orderly dialect) dialect ?_ without_standard
  refine .cons (.whole ?_ ?_ false) (.cons (.whole ?_ ?_ false) (.cons (.whole ?_ ?_ false)
    (.cons (.whole ?_ ?_ false) .nil)))
  all_goals
    intro omitted value record omits
    simp [without, omits]

end DuplicateSettings

namespace BreakerSettings

def without (omitted : Omission) (settings : BreakerSettings) : BreakerSettings where
  failureThreshold :=
    if omitted ["failure_threshold"] then standard.failureThreshold else settings.failureThreshold
  recoverySeconds :=
    if omitted ["recovery_timeout_secs"] then standard.recoverySeconds else settings.recoverySeconds

def omittable (dialect : Dialect) : Omittable :=
  .record dialect [⟨"failure_threshold", false, .whole⟩, ⟨"recovery_timeout_secs", false, .whole⟩]

theorem orderly : shape.Orderly where
  distinct := by simp [RecordShape.names, shape, Field.optional]
  commute := by simp [shape, Field.commutes_optional]

theorem stands (dialect : Dialect) (omitted : Omission) (document : Document) :
    (omittable dialect).stands omitted document := by
  simp [omittable]

theorem without_standard (omitted : Omission) : without omitted standard = standard := by
  simp [without]

theorem withstood (dialect : Dialect) :
    (omittable dialect).Withstood (shape.read dialect) without := by
  refine Omittable.record_withstood orderly dialect ?_ without_standard
  refine .cons (.whole ?_ ?_ false) (.cons (.whole ?_ ?_ false) .nil)
  all_goals
    intro omitted value record omits
    simp [without, omits]

end BreakerSettings

namespace SweepSettings

def without (omitted : Omission) (settings : SweepSettings) : SweepSettings where
  intervalSeconds :=
    if omitted ["interval_secs"] then standard.intervalSeconds else settings.intervalSeconds

def omittable (dialect : Dialect) : Omittable :=
  .record dialect [⟨"interval_secs", false, .whole⟩]

theorem orderly : shape.Orderly where
  distinct := by simp [RecordShape.names, shape, Field.optional]
  commute := List.pairwise_singleton _ _

theorem stands (dialect : Dialect) (omitted : Omission) (document : Document) :
    (omittable dialect).stands omitted document := by
  simp [omittable]

theorem without_standard (omitted : Omission) : without omitted standard = standard := by
  simp [without]

theorem withstood (dialect : Dialect) :
    (omittable dialect).Withstood (shape.read dialect) without := by
  refine Omittable.record_withstood orderly dialect ?_ without_standard
  refine .cons (.whole ?_ ?_ false) .nil
  all_goals
    intro omitted value record omits
    simp [without, omits]

end SweepSettings

namespace LogSettings

def without (omitted : Omission) (settings : LogSettings) : LogSettings where
  format := if omitted ["format"] then standard.format else settings.format
  level := if omitted ["level"] then standard.level else settings.level

def omittable (dialect : Dialect) : Omittable :=
  .record dialect [⟨"format", false, .whole⟩, ⟨"level", false, .whole⟩]

theorem orderly (dialect : Dialect) : (shape dialect).Orderly where
  distinct := by simp [RecordShape.names, shape, Field.optional]
  commute := by simp [shape, Field.commutes_optional]

theorem stands (dialect : Dialect) (omitted : Omission) (document : Document) :
    (omittable dialect).stands omitted document := by
  simp [omittable]

theorem without_standard (omitted : Omission) : without omitted standard = standard := by
  simp [without]

theorem withstood (dialect : Dialect) :
    (omittable dialect).Withstood ((shape dialect).read dialect) without := by
  refine Omittable.record_withstood (orderly dialect) dialect ?_ without_standard
  refine .cons (.whole ?_ ?_ false) (.cons (.whole ?_ ?_ false) .nil)
  all_goals
    intro omitted value record omits
    simp [without, omits]

end LogSettings

/-! ### Configurations -/

namespace Config

/-- The configuration with the standard value for each section and field that is left out. -/
def without (omitted : Omission) (config : Config) : Config where
  strict := if omitted ["strict"] then standard.strict else config.strict
  requiredActions :=
    if omitted ["required_actions"] then standard.requiredActions else config.requiredActions
  permissions := if omitted ["permissions"] then standard.permissions else config.permissions
  challenge :=
    if omitted ["challenge"] then standard.challenge
    else config.challenge.without (omitted.below "challenge")
  duplicate :=
    if omitted ["duplicate"] then standard.duplicate
    else config.duplicate.without (omitted.below "duplicate")
  breaker :=
    if omitted ["circuit_breaker"] then standard.breaker
    else config.breaker.without (omitted.below "circuit_breaker")
  sweep :=
    if omitted ["sweeper"] then standard.sweep
    else config.sweep.without (omitted.below "sweeper")
  log :=
    if omitted ["logging"] then standard.log else config.log.without (omitted.below "logging")

/-- What may be left out of the document of a configuration. -/
def omittable (dialect : Dialect) : Omittable :=
  .record dialect
    [⟨"strict", false, .whole⟩, ⟨"required_actions", false, .whole⟩,
      ⟨"permissions", false, .whole⟩,
      ⟨"challenge", false, ChallengeSettings.omittable dialect⟩,
      ⟨"duplicate", false, DuplicateSettings.omittable dialect⟩,
      ⟨"circuit_breaker", false, BreakerSettings.omittable dialect⟩,
      ⟨"sweeper", false, SweepSettings.omittable dialect⟩,
      ⟨"logging", false, LogSettings.omittable dialect⟩]

theorem orderly (dialect : Dialect) : (shape dialect).Orderly where
  distinct := by simp [RecordShape.names, shape, Field.optional]
  commute := by simp [shape, Field.commutes_optional]

theorem without_standard (omitted : Omission) : without omitted standard = standard := by
  have challenge := ChallengeSettings.without_standard (omitted.below "challenge")
  have duplicate := DuplicateSettings.without_standard (omitted.below "duplicate")
  have breaker := BreakerSettings.without_standard (omitted.below "circuit_breaker")
  have sweep := SweepSettings.without_standard (omitted.below "sweeper")
  have log := LogSettings.without_standard (omitted.below "logging")
  simp [without, standard, challenge, duplicate, breaker, sweep, log]

theorem withstood (dialect : Dialect) :
    (omittable dialect).Withstood (read dialect) without := by
  refine Omittable.record_withstood (orderly dialect) dialect ?_ without_standard
  refine .cons (.whole ?_ ?_ false) (.cons (.whole ?_ ?_ false) (.cons (.whole ?_ ?_ false)
    (.cons (.of_content (ChallengeSettings.withstood dialect) ?_ ?_ false)
      (.cons (.of_content (DuplicateSettings.withstood dialect) ?_ ?_ false)
        (.cons (.of_content (BreakerSettings.withstood dialect) ?_ ?_ false)
          (.cons (.of_content (SweepSettings.withstood dialect) ?_ ?_ false)
            (.cons (.of_content (LogSettings.withstood dialect) ?_ ?_ false) .nil)))))))
  all_goals
    intro omitted value record omits
    simp [without, omits]

/-- No limit that stays loses one of its fields. -/
def SparesLimits (dialect : Dialect) (omitted : Omission) (document : Document) : Prop :=
  omitted ["challenge"] = false → ∀ challenge,
    document.field? (shape dialect).names "challenge" = some challenge →
      ChallengeSettings.SparesLimits dialect (omitted.below "challenge") challenge

theorem stands_iff (dialect : Dialect) (omitted : Omission) (document : Document) :
    (omittable dialect).stands omitted document ↔ SparesLimits dialect omitted document := by
  simp [omittable, SparesLimits, ChallengeSettings.stands_iff, DuplicateSettings.stands,
    BreakerSettings.stands, SweepSettings.stands, LogSettings.stands, shape, RecordShape.names,
    Field.optional]

/-- What is left of a document is read as the same configuration with the standard value for
whatever is missing, exactly if each limit that is left still has both of its fields. -/
theorem read_left_out_iff (dialect : Dialect) (omitted : Omission) {document reduced : Document}
    {config : Config} (reads : read dialect document = .ok config)
    (reduces : (omittable dialect).reduces omitted document reduced) (other : Config) :
    read dialect reduced = .ok other ↔
      SparesLimits dialect omitted document ∧ other = config.without omitted := by
  rw [← stands_iff]
  exact withstood dialect reads reduces other

/-- A document with a limit and a window for duplicates. -/
def limiting : Document :=
  .table
    [("challenge", .table
        [("default", .table [("threshold", .integer 3), ("window_secs", .integer 9)] .closed)]
        .closed),
      ("duplicate", .table [("window_ms", .integer 500), ("admins_bypass", .boolean true)]
        .closed)] .closed

/-- What is said without the limit and the window, with the sections turned around and beside a
field that is none. -/
theorem read_left_out_limit_and_window :
    read .toml
        (.table
          [("duplicate", .table [("colour", .integer 1), ("admins_bypass", .boolean true)]
              .closed),
            ("challenge", .table [] .closed)] .closed) =
      .ok { standard with
        duplicate := { DuplicateSettings.standard with adminsBypass := true } } := by
  have reads : read .toml limiting = .ok
      { standard with
        challenge := { ChallengeSettings.standard with defaultLimit := ⟨3, 9⟩ }
        duplicate :=
          { DuplicateSettings.standard with windowMillis := 500, adminsBypass := true } } := rfl
  refine (read_left_out_iff .toml
    [["challenge", "default"], ["duplicate", "window_ms"]].contains reads ?_ _).mpr ⟨?_, rfl⟩
  · simp [omittable, ChallengeSettings.omittable, DuplicateSettings.omittable, limiting,
      Document.IsRecord, Document.entries?, Document.givenNames, Document.field?,
      Document.isPassable, Omission.below, List.lookup_cons, or_imp, forall_and]
  · simp [SparesLimits, ChallengeSettings.SparesLimits, limiting, Document.field?,
      Document.entries?, Omission.below, List.lookup_cons]

/-- The same document without the window of its limit. -/
def halved : Document :=
  .table
    [("challenge", .table [("default", .table [("threshold", .integer 3)] .closed)] .closed),
      ("duplicate", .table [("window_ms", .integer 500), ("admins_bypass", .boolean true)]
        .closed)] .closed

/-- A limit that has lost a field is not read, although there is a standard value for it. -/
theorem half_limit_unread :
    (∃ config, read .toml limiting = .ok config) ∧
      (omittable .toml).reduces [["challenge", "default", "window_secs"]].contains limiting halved ∧
      read .toml halved = .error (.missingField "window_secs") := by
  refine ⟨⟨_, rfl⟩, ?_, rfl⟩
  simp [omittable, ChallengeSettings.omittable, ChallengeLimit.omittable,
    DuplicateSettings.omittable, limiting, halved, Document.IsRecord, Document.entries?,
    Document.givenNames, Document.field?, Omission.below, List.lookup_cons, or_imp, forall_and]

end Config

end Gatekeeper
