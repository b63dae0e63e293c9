/-
This file proves that a configuration survives being written. It can be written exactly when TOML
has room for each of its integers, and then what is read of its text is the configuration itself,
whatever its actions are called and whatever else its texts say.
-/
import Gatekeeper.Config.Toml
import Gatekeeper.Proofs.Records
import Gatekeeper.Proofs.SortedMaps
import Gatekeeper.Proofs.TomlTables

namespace Gatekeeper

open Toml RecordShape

/-! ### Integers -/

def Rule.integers (rule : Rule) : List Nat :=
  rule.others.toNat :: rule.owner.toList.map UInt64.toNat

def RuleTable.integers (table : RuleTable) : List Nat :=
  table.entries.flatMap fun entry => entry.2.integers

def ChallengeLimit.integers (limit : ChallengeLimit) : List Nat :=
  [limit.threshold.toNat, limit.windowSeconds.toNat]

def ChallengeSettings.integers (settings : ChallengeSettings) : List Nat :=
  settings.tokenSeconds.toNat ::
    (settings.defaultLimit.integers ++
      settings.kinds.entries.flatMap fun entry => entry.2.integers)

def DuplicateSettings.integers (settings : DuplicateSettings) : List Nat :=
  [settings.windowMillis.toNat]

def BreakerSettings.integers (settings : BreakerSettings) : List Nat :=
  [settings.failureThreshold.toNat, settings.recoverySeconds.toNat]

def SweepSettings.integers (settings : SweepSettings) : List Nat :=
  [settings.intervalSeconds.toNat]

/-- All the integers that a configuration holds. -/
def Config.integers (config : Config) : List Nat :=
  config.permissions.integers ++ config.challenge.integers ++ config.duplicate.integers ++
    config.breaker.integers ++ config.sweep.integers

namespace Toml.Scalar

theorem isWritable_integer_iff (number : Nat) :
    (integer number).isWritable = true ↔ number ≤ 0x7FFFFFFFFFFFFFFF := by
  rw [isWritable, decide_eq_true_iff]
  omega

end Toml.Scalar

theorem Rule.isWritable_outline (rule : Rule) :
    rule.outline.isWritable =
      rule.integers.all fun number => (Scalar.integer number).isWritable := by
  obtain ⟨others, owner⟩ := rule
  cases owner <;> rw [outline, Outline.isWritable, Outline.allWritable, Bool.and_true] <;> rfl

theorem RuleTable.isWritable_outline (table : RuleTable) :
    table.outline.isWritable =
      table.integers.all fun number => (Scalar.integer number).isWritable := by
  rw [outline, Outline.isWritable, Outline.allWritable_eq_all, integers, List.all_map,
    List.all_flatMap]
  simp only [Function.comp_def, Rule.isWritable_outline]
  rfl

theorem ChallengeLimit.isWritable_outline (limit : ChallengeLimit) :
    limit.outline.isWritable =
      limit.integers.all fun number => (Scalar.integer number).isWritable := by
  rw [outline, Outline.isWritable, Outline.allWritable, Bool.and_true]
  rfl

theorem ChallengeSettings.isWritable_outline (settings : ChallengeSettings) :
    settings.outline.isWritable =
      settings.integers.all fun number => (Scalar.integer number).isWritable := by
  rw [outline, integers]
  simp only [Outline.isWritable, Outline.allWritable_eq_all, List.all_cons, List.all_nil,
    List.all_append, List.all_map, List.all_flatMap, Function.comp_def,
    ChallengeLimit.isWritable_outline, Bool.and_true]
  rfl

/-- A configuration can be written exactly when there is room for each of its integers. -/
theorem Config.isWritable_outline (config : Config) :
    config.outline.isWritable =
      config.integers.all fun number => (Scalar.integer number).isWritable := by
  rw [outline, integers]
  simp only [Outline.isWritable, Outline.allWritable_eq_all, List.all_cons, List.all_nil,
    List.all_append, RuleTable.isWritable_outline, ChallengeSettings.isWritable_outline,
    DuplicateSettings.outline, BreakerSettings.outline, SweepSettings.outline, LogSettings.outline,
    DuplicateSettings.integers, BreakerSettings.integers, SweepSettings.integers, Bool.and_true]
  simp only [Scalar.isWritable, Bool.true_and, Bool.and_assoc, Bool.and_true]

/-! ### Tables -/

theorem ActionKind.name_injective (first second : ActionKind) (same : first.name = second.name) :
    first = second := by
  have found := ofName?_name first
  rw [same, ofName?_name] at found
  exact (Option.some.inj found).symm

theorem Rule.distinct_outline (rule : Rule) : rule.outline.Distinct := by
  obtain ⟨others, owner⟩ := rule
  cases owner <;> exact ⟨by simp, trivial⟩

theorem ChallengeLimit.distinct_outline (limit : ChallengeLimit) : limit.outline.Distinct :=
  ⟨by simp, trivial⟩

theorem RuleTable.distinct_outline (table : RuleTable) : table.outline.Distinct := by
  refine ⟨?_, Outline.tablesDistinct_of_forall ?_⟩
  · rw [List.map_map]
    exact Sorted.nodup_names table.increasing fun _ _ same => same
  · rw [List.forall_mem_map]
    exact fun entry _ => entry.2.distinct_outline

theorem ChallengeSettings.distinct_outline (settings : ChallengeSettings) :
    settings.outline.Distinct := by
  refine ⟨by simp, settings.defaultLimit.distinct_outline, ⟨?_, ?_⟩, trivial⟩
  · rw [List.map_map]
    exact Sorted.nodup_names settings.kinds.increasing ActionKind.name_injective
  · refine Outline.tablesDistinct_of_forall (List.forall_mem_map.mpr ?_)
    exact fun entry _ => entry.2.distinct_outline

/-- No key is used twice in the same table of a configuration. -/
theorem Config.distinct_outline (config : Config) : config.outline.Distinct :=
  ⟨by simp, config.permissions.distinct_outline, config.challenge.distinct_outline,
    ⟨by simp, trivial⟩, ⟨by simp, trivial⟩, ⟨by simp, trivial⟩, ⟨by simp, trivial⟩, trivial⟩

theorem ChallengeSettings.height_outline_le (settings : ChallengeSettings) :
    settings.outline.height ≤ 2 := by
  have kinds : Outline.tablesHeight (settings.kinds.entries.map fun entry =>
      (entry.1.name, entry.2.outline)) < 2 :=
    Nat.lt_succ_of_le (Outline.tablesHeight_le (List.forall_mem_map.mpr fun _ _ => Nat.one_pos))
  exact Outline.tablesHeight_le
    (List.forall_mem_cons.mpr ⟨Nat.two_pos, List.forall_mem_singleton.mpr kinds⟩)

/-- The deepest tables of a configuration are the limits of the kinds. -/
theorem Config.height_outline_le (config : Config) : config.outline.height ≤ 3 := by
  have permissions : config.permissions.outline.height ≤ 1 :=
    Outline.tablesHeight_le (List.forall_mem_map.mpr fun _ _ => Nat.one_pos)
  have challenge := config.challenge.height_outline_le
  have flat : config.duplicate.outline.height = 0 ∧ config.breaker.outline.height = 0 ∧
      config.sweep.outline.height = 0 ∧ config.log.outline.height = 0 := ⟨rfl, rfl, rfl, rfl⟩
  simp only [outline, Outline.height, Outline.tablesHeight]
  omega

/-! ### Reading -/

theorem Exemption.readChoice_name (dialect : Dialect) (exemption : Exemption) :
    Document.readChoice dialect choices (.text exemption.name) = .ok exemption := by
  cases exemption <;> rfl

theorem FailurePolicy.readChoice_name (dialect : Dialect) (policy : FailurePolicy) :
    Document.readChoice dialect choices (.text policy.name) = .ok policy := by
  cases policy <;> rfl

theorem LogFormat.readChoice_name (dialect : Dialect) (format : LogFormat) :
    Document.readChoice dialect choices (.text format.name) = .ok format := by
  cases format <;> rfl

theorem Document.readTexts_document (texts : List String) :
    Document.readList Document.readText (Scalar.texts texts).document = .ok texts := by
  rw [Scalar.document, Document.readList_of_read Document.readText_text]

theorem Rule.read_outline (dialect : Dialect) (rule : Rule) :
    shape.read dialect rule.outline.value = .ok rule := by
  have distinct : (shape.fields.map Field.name).Nodup := by decide
  obtain ⟨others, owner⟩ := rule
  cases owner with
  | none =>
    have gives : (outline ⟨others, none⟩).value =
        .table (entriesOf shape.fields [.integer others.toNat]) .closed := rfl
    rw [shape.read_of_gives dialect gives distinct rfl, shape,
      readFields_mandatory (Document.readWord64_toNat others)]
    rfl
  | some owner =>
    have gives : (outline ⟨others, some owner⟩).value = .table
        (entriesOf shape.fields [.integer others.toNat, .integer owner.toNat]) .closed := rfl
    have readsOwner : Document.readOptional Document.readWord64 (.integer owner.toNat) =
        .ok (some owner) :=
      Document.readOptional_of_read nofun (Document.readWord64_toNat owner)
    rw [shape.read_of_gives dialect gives distinct rfl, shape,
      readFields_mandatory (Document.readWord64_toNat others), readFields_optional readsOwner]
    rfl

/-- A map is read back from a table with a table in it for each of its entries. -/
theorem SortedMap.readEntries_tables {κ ν : Type} [Ord κ] [Std.TransOrd κ] [Std.LawfulEqOrd κ]
    [DecidableEq κ] {readKey : String → Except ReadError κ}
    {readValue : Document → Except ReadError ν} {name : κ → String} {say : ν → Outline}
    (readsKey : ∀ key, readKey (name key) = .ok key)
    (readsValue : ∀ value, readValue (say value).value = .ok value) (map : SortedMap κ ν) :
    ((Outline.table [] (map.entries.map fun entry =>
      (name entry.1, say entry.2))).value.readEntries readKey readValue).map ofList = .ok map := by
  have entries := Document.readEntries_of_read readsKey readsValue map.entries
  rw [Outline.value, Outline.tableValues_eq_map, List.map_map]
  refine (congrArg (Except.map ofList) entries).trans ?_
  exact congrArg Except.ok map.ofList_entries

theorem RuleTable.read_outline (dialect : Dialect) (table : RuleTable) :
    read dialect table.outline.value = .ok table :=
  SortedMap.readEntries_tables (fun _ => rfl) (Rule.read_outline dialect) table

theorem ChallengeLimit.read_outline (dialect : Dialect) (limit : ChallengeLimit) :
    shape.read dialect limit.outline.value = .ok limit := by
  have gives : limit.outline.value = .table (entriesOf shape.fields
      [.integer limit.threshold.toNat, .integer limit.windowSeconds.toNat]) .closed := rfl
  rw [shape.read_of_gives dialect gives (by decide) rfl, shape,
    readFields_mandatory (Document.readWord32_toNat _),
    readFields_mandatory (Document.readWord64_toNat _)]
  rfl

namespace ChallengeSettings

/-- The limits of the kinds, as they are written. -/
def kindsOutline (settings : ChallengeSettings) : Outline :=
  .table [] (settings.kinds.entries.map fun entry => (entry.1.name, entry.2.outline))

theorem readKinds_kindsOutline (dialect : Dialect) (settings : ChallengeSettings) :
    readKinds dialect settings.kindsOutline.value = .ok settings.kinds := by
  have readsKey : ∀ kind : ActionKind, ActionKind.ofKey kind.name = .ok kind := by
    intro kind
    rw [ActionKind.ofKey, ActionKind.ofName?_name]
  exact SortedMap.readEntries_tables readsKey (ChallengeLimit.read_outline dialect) settings.kinds

theorem read_outline (dialect : Dialect) (settings : ChallengeSettings) :
    (shape dialect).read dialect settings.outline.value = .ok settings := by
  have gives : settings.outline.value = .table (entriesOf (shape dialect).fields
      [.text settings.exemption.name, .text settings.exemptionAction,
        .text settings.onStoreError.name, .integer settings.tokenSeconds.toNat,
        settings.defaultLimit.outline.value, settings.kindsOutline.value]) .closed := rfl
  rw [(shape dialect).read_of_gives dialect gives (by simp [shape, Field.optional]) rfl, shape,
    readFields_optional (Exemption.readChoice_name dialect _),
    readFields_optional (Document.readText_text _),
    readFields_optional (FailurePolicy.readChoice_name dialect _),
    readFields_optional (Document.readWord64_toNat _),
    readFields_optional (ChallengeLimit.read_outline dialect _),
    readFields_optional (readKinds_kindsOutline dialect _)]
  rfl

end ChallengeSettings

theorem DuplicateSettings.read_outline (dialect : Dialect) (settings : DuplicateSettings) :
    (shape dialect).read dialect settings.outline.value = .ok settings := by
  have gives : settings.outline.value = .table (entriesOf (shape dialect).fields
      [.integer settings.windowMillis.toNat, (Scalar.texts settings.excludedFields).document,
        .text settings.onStoreError.name, .boolean settings.adminsBypass]) .closed := rfl
  rw [(shape dialect).read_of_gives dialect gives (by simp [shape, Field.optional]) rfl, shape,
    readFields_optional (Document.readWord64_toNat _),
    readFields_optional (Document.readTexts_document _),
    readFields_optional (FailurePolicy.readChoice_name dialect _),
    readFields_optional (Document.readBoolean_boolean _)]
  rfl

theorem BreakerSettings.read_outline (dialect : Dialect) (settings : BreakerSettings) :
    shape.read dialect settings.outline.value = .ok settings := by
  have gives : settings.outline.value = .table (entriesOf shape.fields
      [.integer settings.failureThreshold.toNat, .integer settings.recoverySeconds.toNat])
        .closed := rfl
  rw [shape.read_of_gives dialect gives (by decide) rfl, shape,
    readFields_optional (Document.readWord32_toNat _),
    readFields_optional (Document.readWord64_toNat _)]
  rfl

theorem SweepSettings.read_outline (dialect : Dialect) (settings : SweepSettings) :
    shape.read dialect settings.outline.value = .ok settings := by
  have gives : settings.outline.value = .table (entriesOf shape.fields
      [.integer settings.intervalSeconds.toNat]) .closed := rfl
  rw [shape.read_of_gives dialect gives (by decide) rfl, shape,
    readFields_optional (Document.readWord64_toNat _)]
  rfl

theorem LogSettings.read_outline (dialect : Dialect) (settings : LogSettings) :
    (shape dialect).read dialect settings.outline.value = .ok settings := by
  have gives : settings.outline.value = .table (entriesOf (shape dialect).fields
      [.text settings.format.name, .text settings.level]) .closed := rfl
  rw [(shape dialect).read_of_gives dialect gives (by simp [shape, Field.optional]) rfl, shape,
    readFields_optional (LogFormat.readChoice_name dialect _),
    readFields_optional (Document.readText_text _)]
  rfl

namespace Config

theorem read_outline (dialect : Dialect) (config : Config) :
    read dialect config.outline.value = .ok config := by
  have gives : config.outline.value = .table (entriesOf (shape dialect).fields
      [.boolean config.strict, (Scalar.texts config.requiredActions).document,
        config.permissions.outline.value, config.challenge.outline.value,
        config.duplicate.outline.value, config.breaker.outline.value, config.sweep.outline.value,
        config.log.outline.value]) .closed := rfl
  rw [read, (shape dialect).read_of_gives dialect gives (by simp [shape, Field.optional]) rfl,
    shape, readFields_optional (Document.readBoolean_boolean _),
    readFields_optional (Document.readTexts_document _),
    readFields_optional (RuleTable.read_outline dialect _),
    readFields_optional (ChallengeSettings.read_outline dialect _),
    readFields_optional (DuplicateSettings.read_outline dialect _),
    readFields_optional (BreakerSettings.read_outline dialect _),
    readFields_optional (SweepSettings.read_outline dialect _),
    readFields_optional (LogSettings.read_outline dialect _)]
  rfl

theorem exists_toToml_iff (config : Config) :
    (∃ text, config.toToml = .ok text) ↔
      ∀ number ∈ config.integers, number ≤ 0x7FFFFFFFFFFFFFFF := by
  have fits : config.outline.isWritable = true ↔
      ∀ number ∈ config.integers, number ≤ 0x7FFFFFFFFFFFFFFF := by
    rw [isWritable_outline, List.all_eq_true]
    simp only [Scalar.isWritable_integer_iff]
  rw [← fits, toToml]
  by_cases writable : config.outline.isWritable = true
  · rw [if_pos writable]
    exact ⟨fun _ => writable, fun _ => ⟨_, rfl⟩⟩
  · rw [if_neg writable]
    exact ⟨nofun, fun other => absurd other writable⟩

theorem ofToml_of_toToml {config : Config} {text : String} (written : config.toToml = .ok text) :
    ofToml text = .ok config := by
  rw [toToml] at written
  split at written
  · next writable =>
    cases written
    have said : document? (String.ofList config.outline.document) = some config.outline.value :=
      document?_document writable config.distinct_outline
        (Nat.le_trans config.height_outline_le (by decide))
    rw [ofToml, said]
    exact congrArg (Except.mapError ConfigError.unreadable) (read_outline .toml config)
  · cases written

/-- A configuration can be written exactly when none of its integers is beyond sixty-four bits with
sign, and whatever is written is read back as the same configuration. -/
theorem toToml_roundTrip (config : Config) :
    ((∃ text, config.toToml = .ok text) ↔
      ∀ number ∈ config.integers, number ≤ 0x7FFFFFFFFFFFFFFF) ∧
      ∀ text, config.toToml = .ok text → ofToml text = .ok config :=
  ⟨config.exists_toToml_iff, fun _ written => ofToml_of_toToml written⟩

/-- The standard configuration, with a rule for an action whose name is on two lines and has both
kinds of quotes, a required action without a name and one with a name that needs escapes in any form
of quotes, and a kind with a limit of its own. -/
def withOddNames : Config :=
  { Config.standard with
    requiredActions := ["", "'''post\\answer\"\"\"\x07"]
    permissions := SortedMap.empty.insert "say \"it's\"\nbelow" ⟨5, some 0x7FFFFFFFFFFFFFFF⟩
    challenge := { ChallengeSettings.standard with
      kinds := SortedMap.empty.insert .vote ⟨3, 60⟩ } }

theorem withOddNames_roundTrip :
    ∃ text, withOddNames.toToml = .ok text ∧ ofToml text = .ok withOddNames := by
  obtain ⟨text, written⟩ := (toToml_roundTrip withOddNames).1.mpr (by decide)
  exact ⟨text, written, (toToml_roundTrip withOddNames).2 text written⟩

end Config

end Gatekeeper
