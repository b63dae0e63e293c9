/-
This file puts the parts of a gate together: permissions, duplicates and challenges, around one
clock. A gate is either built from a configuration that is valid, or assembled from its parts as
they are.
-/
import Gatekeeper.Challenges
import Gatekeeper.Config
import Gatekeeper.Duplicates
import Gatekeeper.Permissions

namespace Gatekeeper

structure Gate (δ κ ν : Type) where
  now : Instant
  permissions : Permissions
  duplicates : Duplicates δ
  challenges : Challenges κ ν
  /-- Whether the parts count into the metrics of the gate. If not, each keeps its own, and those of
  the gate stay at zero. -/
  sharesMetrics : Bool

namespace Gate

variable {δ κ ν α : Type}

/-! ### Building -/

/-- A gate of these parts, with new breakers and nothing counted. -/
def assemble (config : Config) (breaker : BreakerSettings) (sharesMetrics : Bool) (now : Instant)
    (duplicateStore : δ) (attemptStore : κ) (verifier : ν) : Gate δ κ ν where
  now := now
  permissions := ⟨config.permissions, .zero⟩
  duplicates := .ofStore config.duplicate (.ofSettings breaker now) duplicateStore
  challenges := .ofStore config.challenge (.ofSettings breaker now) attemptStore verifier
  sharesMetrics := sharesMetrics

/-- A gate of a configuration, if it is valid. Settings for the breakers that are given apart take
the place of those in the configuration before it is looked at. -/
def build (config : Config) (breaker : Option BreakerSettings) (now : Instant) (duplicateStore : δ)
    (attemptStore : κ) (verifier : ν) : Except ConfigError (Gate δ κ ν) × List Event :=
  let config := { config with breaker := breaker.getD config.breaker }
  match config.validate with
  | (.error error, events) => (.error error, events)
  | (.ok (), events) =>
    (.ok (assemble config config.breaker true now duplicateStore attemptStore verifier),
      events ++
        [.gateBuilding config.permissions.size config.duplicate.windowMillis
          config.challenge.exemption])

/-! ### Parts -/

/-- What the permissions do, as part of what the gate does. -/
def onPermissions (activity : Activity Permissions α) : Activity (Gate δ κ ν) α :=
  activity.on Gate.permissions fun permissions gate => { gate with permissions := permissions }

/-- What the duplicates do now, as part of what the gate does. -/
def onDuplicates (activity : Instant → Activity (Duplicates δ) α) : Activity (Gate δ κ ν) α := do
  let gate ← .state
  (activity gate.now).on Gate.duplicates fun duplicates gate =>
    { gate with duplicates := duplicates }

/-- What the challenges do now, as part of what the gate does. -/
def onChallenges (activity : Instant → Activity (Challenges κ ν) α) : Activity (Gate δ κ ν) α := do
  let gate ← .state
  (activity gate.now).on Gate.challenges fun challenges gate =>
    { gate with challenges := challenges }

theorem run_onPermissions (activity : Activity Permissions α) (gate : Gate δ κ ν) :
    (onPermissions activity).run gate =
      let outcome := activity.run gate.permissions
      ⟨outcome.result, { gate with permissions := outcome.state }, outcome.events⟩ := rfl

theorem run_onDuplicates (activity : Instant → Activity (Duplicates δ) α) (gate : Gate δ κ ν) :
    (onDuplicates activity).run gate =
      let outcome := (activity gate.now).run gate.duplicates
      ⟨outcome.result, { gate with duplicates := outcome.state }, outcome.events⟩ := rfl

theorem run_onChallenges (activity : Instant → Activity (Challenges κ ν) α) (gate : Gate δ κ ν) :
    (onChallenges activity).run gate =
      let outcome := (activity gate.now).run gate.challenges
      ⟨outcome.result, { gate with challenges := outcome.state }, outcome.events⟩ := rfl

/-! ### Time -/

/-- Lets time pass. A clock that would pass the last instant there is faults and stays. -/
def wait (length : Duration) : Activity (Gate δ κ ν) Unit := do
  let gate ← .state
  match gate.now.after? length with
  | some later => .change fun gate => { gate with now := later }
  | none => .fault .expiryOverflow

theorem run_wait (length : Duration) (gate : Gate δ κ ν) :
    (wait length).run gate =
      match gate.now.after? length with
      | some later => ⟨.ok (), { gate with now := later }, []⟩
      | none => ⟨.error .expiryOverflow, gate, []⟩ := by
  rw [wait, Activity.run_state_bind]
  cases gate.now.after? length <;> rfl

/-- Waiting changes the time only, and never goes back. -/
theorem state_wait (length : Duration) (gate : Gate δ κ ν) :
    ∃ now, ((wait length).run gate).state = { gate with now := now } ∧
      gate.now.nanos ≤ now.nanos := by
  rw [run_wait]
  cases within : gate.now.after? length with
  | none => exact ⟨gate.now, rfl, Int.le_refl _⟩
  | some later =>
    have moved := ((Instant.after?_eq_some_iff _ _ _).mp within).1
    exact ⟨later, rfl, by omega⟩

/-! ### Changes from outside -/

/-- Changes the store of the duplicates. -/
def mapDuplicateStore (change : δ → δ) (gate : Gate δ κ ν) : Gate δ κ ν :=
  let guarded := gate.duplicates.guarded
  { gate with
    duplicates :=
      { gate.duplicates with guarded := { guarded with store := change guarded.store } } }

/-- Changes the store of the attempts. -/
def mapAttemptStore (change : κ → κ) (gate : Gate δ κ ν) : Gate δ κ ν :=
  let guarded := gate.challenges.guarded
  { gate with
    challenges :=
      { gate.challenges with guarded := { guarded with store := change guarded.store } } }

/-- Changes the verifier. -/
def mapVerifier (change : ν → ν) (gate : Gate δ κ ν) : Gate δ κ ν :=
  { gate with
    challenges := { gate.challenges with verifier := change gate.challenges.verifier } }

/-- Issues a captcha. -/
def issue [CaptchaIssuer ν] (user : String) (kind : ActionKind) (answer : String) :
    Activity (Gate δ κ ν) String := do
  let id ← onChallenges fun now challenges =>
    let (id, verifier) := CaptchaIssuer.issue challenges.verifier now user kind answer
    ⟨id, { challenges with verifier := verifier }, []⟩
  .log (.captchaIssued user kind)
  return id

/-- What happens to one of the two breakers, as part of what happens to the gate. -/
def onBreaker (role : StoreRole) (activity : Instant → Activity Breaker α) :
    Activity (Gate δ κ ν) α :=
  match role with
  | .duplicates => onDuplicates fun now => Duplicates.onBreaker (activity now)
  | .challenges => onChallenges fun now => Challenges.onBreaker (activity now)

/-- The metrics of the gate. -/
def metrics (gate : Gate δ κ ν) : Metrics :=
  if gate.sharesMetrics then
    .ofPermissions gate.permissions.tally + gate.challenges.metrics + gate.duplicates.metrics
  else .zero

/-- Sets the metrics of the gate to zero; parts that keep their own keep them. -/
def resetMetrics (gate : Gate δ κ ν) : Gate δ κ ν :=
  if gate.sharesMetrics then
    { gate with
      permissions := { gate.permissions with tally := .zero }
      duplicates := gate.duplicates.resetMetrics
      challenges := gate.challenges.resetMetrics }
  else gate

/-! ### Exemption -/

/-- Whether an actor has the rank for the exemption action. Nobody has it if there is no rule, or if
the exemption does not ask for it. -/
def hasExemptRank (gate : Gate δ κ ν) (actor : Actor) : Bool :=
  let settings := gate.challenges.settings
  settings.exemption.usesRank &&
    (gate.permissions.rules.get? settings.exemptionAction).any fun rule =>
      (rule.decide actor.rank false).isPermit

/-- Whether an actor is never challenged. -/
def isExempt (gate : Gate δ κ ν) (actor : Actor) : Bool :=
  gate.challenges.isExempt actor.isAdmin (gate.hasExemptRank actor)

end Gate

end Gatekeeper
