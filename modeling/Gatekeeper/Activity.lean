/-
This file holds activities: what happens on a state, step by step. An activity ends with a result or
is cut short by a fault, and in either case leaves a state behind and has logged events. A fault
undoes nothing.

What happens on a state can also happen at a place within a larger one. If nothing but that place
mattered, the larger state could be left out: an activity on it mirrors one on what is at the place.
-/
import Gatekeeper.Event

namespace Gatekeeper

/-- How an activity ends. -/
structure Outcome (σ α : Type) where
  result : Except Fault α
  state : σ
  /-- What has been logged, in order. -/
  events : List Event

/-- Something that happens on a state. -/
def Activity (σ α : Type) : Type := σ → Outcome σ α

/-- A place within a state. What is put there is found there. -/
structure Place (σ τ : Type) where
  read : σ → τ
  write : τ → σ → σ
  read_write (value : τ) (state : σ) : read (write value state) = value

/-- The whole state as a place. -/
def Place.whole {σ : Type} : Place σ σ where
  read state := state
  write value _ := value
  read_write _ _ := rfl

namespace Activity

variable {σ τ α β : Type}

/-- What happens when the activity starts in this state. -/
def run (activity : Activity σ α) (state : σ) : Outcome σ α :=
  activity state

/-- Goes on with the result of an activity, unless a fault has cut it short. -/
def andThen (activity : Activity σ α) (next : α → Activity σ β) : Activity σ β := fun state =>
  let first := activity state
  match first.result with
  | .ok value =>
    let second := next value first.state
    { second with events := first.events ++ second.events }
  | .error fault => ⟨.error fault, first.state, first.events⟩

instance : Monad (Activity σ) where
  pure value := fun state => ⟨.ok value, state, []⟩
  bind := andThen

/-- The state as it is. -/
def state : Activity σ σ := fun state => ⟨.ok state, state, []⟩

def change (update : σ → σ) : Activity σ Unit := fun state => ⟨.ok (), update state, []⟩

def log (event : Event) : Activity σ Unit := fun state => ⟨.ok (), state, [event]⟩

def fault (fault : Fault) : Activity σ α := fun state => ⟨.error fault, state, []⟩

/-- What comes of an activity, a fault being one of the things that can. -/
def attempt (activity : Activity σ α) : Activity σ (Except Fault α) := fun state =>
  let outcome := activity state
  { outcome with result := .ok outcome.result }

/-- An activity on a part of the state. -/
def on (part : σ → τ) (replace : τ → σ → σ) (activity : Activity τ α) : Activity σ α := fun state =>
  let outcome := activity (part state)
  ⟨outcome.result, replace outcome.state state, outcome.events⟩

/-- An activity on what is at a place. -/
def within (place : Place σ τ) (activity : Activity τ α) : Activity σ α :=
  activity.on place.read place.write

theorem run_pure (value : α) (state : σ) :
    (pure value : Activity σ α).run state = ⟨.ok value, state, []⟩ := rfl

theorem run_bind (activity : Activity σ α) (next : α → Activity σ β) (state : σ) :
    (activity >>= next).run state =
      match (activity.run state).result with
      | .ok value =>
        { (next value).run (activity.run state).state with
          events := (activity.run state).events ++
            ((next value).run (activity.run state).state).events }
      | .error fault =>
        ⟨.error fault, (activity.run state).state, (activity.run state).events⟩ := rfl

theorem run_bind_of_ok {activity : Activity σ α} {state : σ} {value : α}
    (ended : (activity.run state).result = .ok value) (next : α → Activity σ β) :
    (activity >>= next).run state =
      { (next value).run (activity.run state).state with
        events := (activity.run state).events ++
          ((next value).run (activity.run state).state).events } := by
  rw [run_bind, ended]

theorem run_bind_of_error {activity : Activity σ α} {state : σ} {fault : Fault}
    (ended : (activity.run state).result = .error fault) (next : α → Activity σ β) :
    (activity >>= next).run state =
      ⟨.error fault, (activity.run state).state, (activity.run state).events⟩ := by
  rw [run_bind, ended]

theorem bind_pure (activity : Activity σ α) :
    (activity >>= fun value => pure value) = activity := by
  funext state
  show (activity >>= fun value => pure value).run state = activity.run state
  rw [run_bind]
  obtain ⟨result, left, events⟩ := activity.run state
  cases result with
  | ok value => exact congrArg (Outcome.mk (.ok value) left) (List.append_nil events)
  | error fault => rfl

/-- An activity and what follows it have a result together when each has one. -/
theorem result_bind_eq_ok_iff {activity : Activity σ α} {next : α → Activity σ β} {state : σ}
    {result : β} :
    ((activity >>= next).run state).result = .ok result ↔
      ∃ value, (activity.run state).result = .ok value ∧
        ((next value).run (activity.run state).state).result = .ok result := by
  rw [run_bind]
  cases (activity.run state).result <;> simp

/-- Reading the state and going on with it is going on from there. -/
theorem run_state_bind (next : σ → Activity σ β) (start : σ) :
    (state >>= next).run start = (next start).run start := rfl

theorem run_change (update : σ → σ) (state : σ) :
    (change update).run state = ⟨.ok (), update state, []⟩ := rfl

theorem run_log (event : Event) (state : σ) :
    (log event).run state = ⟨.ok (), state, [event]⟩ := rfl

/-- An attempt always has a result; its state and its events are those of the activity. -/
theorem run_attempt (activity : Activity σ α) (state : σ) :
    activity.attempt.run state =
      ⟨.ok (activity.run state).result, (activity.run state).state,
        (activity.run state).events⟩ := rfl

theorem run_on (part : σ → τ) (replace : τ → σ → σ) (activity : Activity τ α) (state : σ) :
    (activity.on part replace).run state =
      ⟨(activity.run (part state)).result, replace (activity.run (part state)).state state,
        (activity.run (part state)).events⟩ := rfl

/-! ### What happens at a place -/

/-- At a place the activity does what another one does on a state of its own. What it does elsewhere
makes no difference to that. -/
def Mirrors (place : Place σ τ) (activity : Activity σ α) (plain : Activity τ α) : Prop :=
  ∀ state,
    let outcome := activity.run state
    let mirrored := plain.run (place.read state)
    outcome.result = mirrored.result ∧ place.read outcome.state = mirrored.state ∧
      outcome.events = mirrored.events

namespace Mirrors

variable {place : Place σ τ}

theorem pure (value : α) : Mirrors place (pure value) (pure value) :=
  fun _ => ⟨rfl, rfl, rfl⟩

theorem within (activity : Activity τ α) : Mirrors place (activity.within place) activity :=
  fun state => ⟨rfl, place.read_write _ state, rfl⟩

theorem attempt {activity : Activity σ α} {plain : Activity τ α}
    (mirrors : Mirrors place activity plain) : Mirrors place activity.attempt plain.attempt := by
  intro state
  obtain ⟨sameResult, rest⟩ := mirrors state
  exact ⟨congrArg Except.ok sameResult, rest⟩

theorem bind {activity : Activity σ α} {plain : Activity τ α} {next : α → Activity σ β}
    {next' : α → Activity τ β} (mirrors : Mirrors place activity plain)
    (afterwards : ∀ value, Mirrors place (next value) (next' value)) :
    Mirrors place (activity >>= next) (plain >>= next') := by
  intro state
  obtain ⟨sameResult, sameState, sameEvents⟩ := mirrors state
  rw [run_bind, run_bind, ← sameResult, ← sameState, ← sameEvents]
  cases (activity.run state).result with
  | ok value =>
    obtain ⟨sameResult', sameState', sameEvents'⟩ := afterwards value (activity.run state).state
    exact ⟨sameResult', sameState', congrArg (_ ++ ·) sameEvents'⟩
  | error fault => exact ⟨rfl, rfl, rfl⟩

end Mirrors

end Activity

end Gatekeeper
