/-
This file says which activities leave a mark at a counter: log that it has been cleared by a solved
captcha, or that an attempt has been counted. Only the challenges do; what the duplicates and the
permissions log never concerns a counter.
-/
import Gatekeeper.Proofs.Parts

namespace Gatekeeper

variable {δ α β : Type}

/-! ### What is logged about a counter -/

namespace Event

/-- A captcha has been solved, and the counter of this key has been cleared. -/
def hasPass (key : ChallengeKey) (events : List Event) : Bool :=
  events.any fun event => event = .verificationPassed key

/-- An attempt of this key has been counted. -/
def hasRecord (key : ChallengeKey) (events : List Event) : Bool :=
  events.any fun event =>
    match event with
    | .attemptRecorded other _ => other = key
    | _ => false

/-- No counter has been cleared, and nothing has been counted. -/
def Unmarked (events : List Event) : Prop :=
  ∀ key, hasPass key events = false ∧ hasRecord key events = false

theorem hasPass_append (key : ChallengeKey) (first second : List Event) :
    hasPass key (first ++ second) = (hasPass key first || hasPass key second) :=
  List.any_append

theorem hasRecord_append (key : ChallengeKey) (first second : List Event) :
    hasRecord key (first ++ second) = (hasRecord key first || hasRecord key second) :=
  List.any_append

theorem Unmarked.append {first second : List Event} (unmarked : Unmarked first)
    (others : Unmarked second) : Unmarked (first ++ second) := by
  intro key
  rw [hasPass_append, hasRecord_append, (unmarked key).1, (unmarked key).2, (others key).1,
    (others key).2]
  exact ⟨rfl, rfl⟩

end Event

namespace Activity

variable {σ τ : Type}

/-- The activity never marks a counter, wherever it starts. -/
def Unmarked (activity : Activity σ α) : Prop :=
  ∀ state, Event.Unmarked (activity.run state).events

namespace Unmarked

theorem pure (value : α) : Unmarked (pure value : Activity σ α) :=
  fun _ _ => ⟨rfl, rfl⟩

theorem change (update : σ → σ) : Unmarked (change update) :=
  fun _ _ => ⟨rfl, rfl⟩

theorem log {event : Event} (unmarked : Event.Unmarked [event]) :
    Unmarked (log event : Activity σ Unit) :=
  fun _ => unmarked

theorem bind {activity : Activity σ α} {next : α → Activity σ β} (first : activity.Unmarked)
    (afterwards : ∀ value, (next value).Unmarked) : (activity >>= next).Unmarked := by
  intro state
  rw [run_bind]
  cases (activity.run state).result with
  | ok value => exact (first state).append (afterwards value _)
  | error fault => exact first state

theorem read {next : σ → Activity σ β} (afterwards : ∀ state, (next state).Unmarked) :
    (state >>= next).Unmarked :=
  fun start => afterwards start start

theorem on {part : σ → τ} {replace : τ → σ → σ} {activity : Activity τ α}
    (inner : activity.Unmarked) : (activity.on part replace).Unmarked :=
  fun state => inner (part state)

end Unmarked

end Activity

/-- What is logged about a call of a store marks no counter. -/
theorem GuardedStore.ask_unmarked {σ : Type} (now : Instant) (policy : FailurePolicy)
    (call : StoreCall) (subject : StoreSubject) (question : σ → Reply α × σ) :
    (ask now policy call subject question).Unmarked := by
  intro guarded key
  simp only [Activity.run, ask]
  cases (guarded.breaker.allow now).1 with
  | false => exact ⟨rfl, rfl⟩
  | true =>
    cases (question guarded.store).1 with
    | answer value => exact ⟨rfl, rfl⟩
    | fault fault => exact ⟨rfl, rfl⟩
    | refused error =>
      simp only [if_true]
      split <;> exact ⟨rfl, rfl⟩

namespace Duplicates

theorem ask_unmarked (now : Instant) (call : StoreCall) (fingerprint : Fingerprint)
    (question : δ → Reply α × δ) : (ask now call fingerprint question).Unmarked :=
  .read fun _ => .on (GuardedStore.ask_unmarked _ _ _ _ _)

variable [DuplicateStore δ]

theorem hold_unmarked (now : Instant) (fingerprint : Fingerprint) :
    (hold now fingerprint : Activity (Duplicates δ) _).Unmarked := by
  refine .bind (fun duplicates => ?_) fun admission => ?_
  · rw [run_enter]
    dsimp only
    have asked := ask_unmarked now .tryInsert fingerprint (entry now fingerprint duplicates)
      duplicates
    split
    · exact asked.append fun _ => ⟨rfl, rfl⟩
    · exact asked
  · cases admission <;> exact .pure _

theorem release_unmarked (now : Instant) (fingerprint : Fingerprint) :
    (release now fingerprint : Activity (Duplicates δ) _).Unmarked := by
  refine (ask_unmarked now _ _ _).bind fun answer => ?_
  cases answer with
  | some answer => exact (Activity.Unmarked.change _).bind fun _ => .log fun _ => ⟨rfl, rfl⟩
  | none => exact .pure _

end Duplicates

theorem Permissions.authorize_unmarked (query : PermissionQuery) : (authorize query).Unmarked := by
  refine .bind (.read fun permissions => ?_) fun decided => ?_
  · split
    · exact (Activity.Unmarked.change _).bind fun _ => .pure _
    · split
      · refine (Activity.Unmarked.change _).bind fun _ => ?_
        exact (Activity.Unmarked.log fun _ => ⟨rfl, rfl⟩).bind fun _ => .pure _
      · refine (Activity.Unmarked.change _).bind fun _ => ?_
        exact (Activity.Unmarked.log fun _ => ⟨rfl, rfl⟩).bind fun _ => .pure _
  · rcases decided with rejection | decision
    · exact .pure _
    · cases decision <;> exact .pure _

end Gatekeeper
