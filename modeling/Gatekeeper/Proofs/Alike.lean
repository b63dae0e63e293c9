/-
This file compares what an activity does in one state with what an activity does in another. Two
activities are alike under a relation between states when, started in related states, they have the
same result and leave related states behind. What they log is not compared: an activity may log more
than another one and still be like it.

Each way of putting activities together has a lemma here, so that a comparison of two gates follows
the text of what they do and only has to look at the calls of their stores.

An activity goes unnoticed when the state it leaves is still related to the one on the other side,
where nothing has happened. Where that cannot be said of every state, or not of every result, it may
still be an invariant that the activity keeps.
-/
import Gatekeeper.Activity

namespace Gatekeeper

namespace Activity

variable {σ τ σ' τ' α β : Type} {related : σ → τ → Prop}

/-- Started in related states, the activities have the same result and leave related states. -/
def Alike (related : σ → τ → Prop) (first : Activity σ α) (second : Activity τ α) : Prop :=
  ∀ ⦃state : σ⦄ ⦃other : τ⦄, related state other →
    (first.run state).result = (second.run other).result ∧
      related (first.run state).state (second.run other).state

namespace Alike

/-- In the same state an activity does the same. -/
theorem refl (activity : Activity σ α) : Alike Eq activity activity := by
  rintro state _ rfl
  exact ⟨rfl, rfl⟩

theorem pure (value : α) : Alike related (pure value) (pure value) :=
  fun _ _ start => ⟨rfl, start⟩

theorem fault (fault : Fault) :
    Alike related (Activity.fault fault : Activity σ α) (Activity.fault fault) :=
  fun _ _ start => ⟨rfl, start⟩

theorem log (event : Event) : Alike related (log event) (log event) :=
  fun _ _ start => ⟨rfl, start⟩

/-- Updates are alike when they keep states related. -/
theorem change {update : σ → σ} {update' : τ → τ}
    (keeps : ∀ ⦃state other⦄, related state other → related (update state) (update' other)) :
    Alike related (change update) (change update') :=
  fun _ _ start => ⟨rfl, keeps start⟩

/-- What follows has to be alike for the results that the first activity can have. -/
theorem bind_result {first : Activity σ α} {second : Activity τ α} {next : α → Activity σ β}
    {next' : α → Activity τ β} (alike : Alike related first second)
    (afterwards : ∀ ⦃state value⦄, (first.run state).result = .ok value →
      Alike related (next value) (next' value)) :
    Alike related (first >>= next) (second >>= next') := by
  intro state other start
  obtain ⟨sameResult, sameState⟩ := alike start
  rw [run_bind, run_bind, ← sameResult]
  cases ended : (first.run state).result with
  | ok value => exact afterwards ended sameState
  | error fault => exact ⟨rfl, sameState⟩

theorem bind {first : Activity σ α} {second : Activity τ α} {next : α → Activity σ β}
    {next' : α → Activity τ β} (alike : Alike related first second)
    (afterwards : ∀ value, Alike related (next value) (next' value)) :
    Alike related (first >>= next) (second >>= next') :=
  alike.bind_result fun _ value _ => afterwards value

/-- What is read of a state may differ, as long as what follows is alike for related readings. -/
theorem read {next : σ → Activity σ β} {next' : τ → Activity τ β}
    (afterwards : ∀ ⦃state other⦄, related state other →
      Alike related (next state) (next' other)) :
    Alike related (state >>= next) (Activity.state >>= next') :=
  fun _ _ start => afterwards start start

theorem attempt {first : Activity σ α} {second : Activity τ α}
    (alike : Alike related first second) : Alike related first.attempt second.attempt := by
  intro state other start
  obtain ⟨sameResult, sameState⟩ := alike start
  exact ⟨congrArg Except.ok sameResult, sameState⟩

/-- Activities on a part are alike when the relation gives one between the parts and comes back from
it once the parts have changed. -/
theorem on {inner : σ' → τ' → Prop} {part : σ → σ'} {replace : σ' → σ → σ} {part' : τ → τ'}
    {replace' : τ' → τ → τ} {first : Activity σ' α} {second : Activity τ' α}
    (toPart : ∀ ⦃state other⦄, related state other → inner (part state) (part' other))
    (ofPart : ∀ ⦃state other value value'⦄, related state other → inner value value' →
      related (replace value state) (replace' value' other))
    (alike : Alike inner first second) :
    Alike related (first.on part replace) (second.on part' replace') := by
  intro state other start
  obtain ⟨sameResult, sameState⟩ := alike (toPart start)
  exact ⟨sameResult, ofPart start sameState⟩

/-- What is like another activity on related states is like itself. -/
theorem self {related : σ → σ → Prop}
    (symmetric : ∀ ⦃state other⦄, related state other → related other state)
    (transitive : ∀ ⦃state other third⦄, related state other → related other third →
      related state third)
    {first second : Activity σ α} (alike : Alike related first second) :
    Alike related first first := by
  intro state other start
  obtain ⟨sameResult, sameState⟩ := alike start
  obtain ⟨sameResult', sameState'⟩ := alike (transitive (symmetric start) start)
  exact ⟨sameResult.trans sameResult'.symm, transitive sameState (symmetric sameState')⟩

end Alike

/-! ### Activities that go unnoticed -/

/-- Started in a state that is related to another, the activity has a result and leaves a state that
is still related to that one. -/
def Unnoticed (related : σ → τ → Prop) (activity : Activity σ α) : Prop :=
  ∀ ⦃state : σ⦄ ⦃other : τ⦄, related state other →
    ∃ value, (activity.run state).result = .ok value ∧ related (activity.run state).state other

namespace Unnoticed

theorem pure (value : α) : Unnoticed related (pure value) :=
  fun _ _ start => ⟨value, rfl, start⟩

theorem log (event : Event) : Unnoticed related (log event) :=
  fun _ _ start => ⟨(), rfl, start⟩

theorem bind {activity : Activity σ α} {next : α → Activity σ β}
    (unnoticed : Unnoticed related activity)
    (afterwards : ∀ value, Unnoticed related (next value)) :
    Unnoticed related (activity >>= next) := by
  intro state other start
  obtain ⟨value, ended, between⟩ := unnoticed start
  rw [run_bind_of_ok ended]
  exact afterwards value between

theorem read {next : σ → Activity σ β}
    (afterwards : ∀ state, Unnoticed related (next state)) : Unnoticed related (state >>= next) :=
  fun start _ given => afterwards start given

theorem on {inner : σ' → τ' → Prop} {part : σ → σ'} {replace : σ' → σ → σ} {part' : τ → τ'}
    {activity : Activity σ' α}
    (toPart : ∀ ⦃state other⦄, related state other → inner (part state) (part' other))
    (ofPart : ∀ ⦃state other value⦄, related state other → inner value (part' other) →
      related (replace value state) other)
    (unnoticed : Unnoticed inner activity) : Unnoticed related (activity.on part replace) := by
  intro state other start
  obtain ⟨value, ended, after⟩ := unnoticed (toPart start)
  exact ⟨value, ended, ofPart start after⟩

/-- What goes unnoticed can be left out before what is alike. -/
theorem skip {activity : Activity σ α} {next : Activity σ β} {next' : Activity τ β}
    (unnoticed : Unnoticed related activity) (alike : Alike related next next') :
    Alike related (activity >>= fun _ => next) next' := by
  intro state other start
  obtain ⟨value, ended, between⟩ := unnoticed start
  rw [run_bind_of_ok ended]
  exact alike between

end Unnoticed

/-! ### Activities that keep an invariant -/

/-- Started in a state with the invariant, the activity leaves a state with it, even if a fault cuts
it short. -/
def Keeps (invariant : σ → Prop) (activity : Activity σ α) : Prop :=
  ∀ ⦃state : σ⦄, invariant state → invariant (activity.run state).state

namespace Keeps

variable {invariant : σ → Prop}

theorem pure (value : α) : Keeps invariant (pure value) :=
  fun _ start => start

theorem fault (fault : Fault) : Keeps invariant (Activity.fault fault : Activity σ α) :=
  fun _ start => start

theorem log (event : Event) : Keeps invariant (log event) :=
  fun _ start => start

theorem change {update : σ → σ} (keeps : ∀ ⦃state⦄, invariant state → invariant (update state)) :
    Keeps invariant (change update) :=
  fun _ start => keeps start

/-- What follows has to keep the invariant for the results that the first activity can have. -/
theorem bind_result {activity : Activity σ α} {next : α → Activity σ β}
    (keeps : Keeps invariant activity)
    (afterwards : ∀ ⦃state value⦄, (activity.run state).result = .ok value →
      Keeps invariant (next value)) : Keeps invariant (activity >>= next) := by
  intro state start
  rw [run_bind]
  cases ended : (activity.run state).result with
  | ok value => exact afterwards ended (keeps start)
  | error fault => exact keeps start

theorem bind {activity : Activity σ α} {next : α → Activity σ β} (keeps : Keeps invariant activity)
    (afterwards : ∀ value, Keeps invariant (next value)) : Keeps invariant (activity >>= next) :=
  keeps.bind_result fun _ value _ => afterwards value

theorem read {next : σ → Activity σ β} (afterwards : ∀ state, Keeps invariant (next state)) :
    Keeps invariant (state >>= next) :=
  fun start given => afterwards start given

theorem attempt {activity : Activity σ α} (keeps : Keeps invariant activity) :
    Keeps invariant activity.attempt :=
  fun _ start => keeps start

/-- An activity on a part keeps an invariant of the whole when it keeps one of the part from which
that of the whole comes back. -/
theorem on {inner : σ' → Prop} {part : σ → σ'} {replace : σ' → σ → σ} {activity : Activity σ' α}
    (toPart : ∀ ⦃state⦄, invariant state → inner (part state))
    (ofPart : ∀ ⦃state value⦄, invariant state → inner value → invariant (replace value state))
    (keeps : Keeps inner activity) : Keeps invariant (activity.on part replace) :=
  fun _ start => ofPart start (keeps (toPart start))

end Keeps

end Activity

end Gatekeeper
