/-
This file asks whether every request that is turned away as a duplicate is counted, and under the
reason there was for it. Counting is left to two places: the part counts the requests whose
fingerprint the store finds live, and the guarded store counts the calls that the store refuses. A
request whose question the circuit breaker does not let through reaches neither. Under the closed
policy it is turned away all the same, so what tells a rejection that is counted from one that is
not is the circuit alone.
-/
import Gatekeeper.Proofs.LeftAlone
import Mathlib.Control.Monad.Basic

namespace Gatekeeper

variable {α δ σ : Type}

/-- Only a call that gets through and is refused is counted as a refusal. -/
theorem GuardedStore.refusals_ask (now : Instant) (policy : FailurePolicy) (call : StoreCall)
    (subject : StoreSubject) (question : σ → Reply α × σ) (guarded : GuardedStore σ) :
    ((ask now policy call subject question).run guarded).state.refusals =
      match (guarded.breaker.allow now).1, (question guarded.store).1 with
      | true, .refused _ => guarded.refusals + 1
      | _, _ => guarded.refusals := by
  simp only [Activity.run, ask]
  cases (guarded.breaker.allow now).1
  · rfl
  · cases (question guarded.store).1 <;> rfl

namespace Duplicates

/-! ### A part by itself -/

/-- What may happen to a part that is used by itself. -/
inductive Step where
  | operation (operation : Operation)
  /-- Time passes. -/
  | wait (length : Duration)
  deriving DecidableEq

/-- A part that is used by itself, and the time. -/
structure Course (δ : Type) where
  now : Instant
  duplicates : Duplicates δ

namespace Course

/-- A new part. -/
def begin (settings : DuplicateSettings) (breaker : BreakerSettings) (store : δ) (now : Instant) :
    Course δ :=
  ⟨now, .ofStore settings (.ofSettings breaker now) store⟩

variable [DuplicateStore δ]

/-- What a step leaves. A time that cannot be represented is not waited for. -/
def next (course : Course δ) : Step → Course δ
  | .operation operation =>
    { course with duplicates := operation.apply course.now course.duplicates }
  | .wait length => { course with now := (course.now.after? length).getD course.now }

def after (course : Course δ) (steps : List Step) : Course δ :=
  steps.foldl next course

end Course

/-! ### What a step leaves as it is -/

section Settings

variable [DuplicateStore δ] (now : Instant) (fingerprint : Fingerprint)
  (duplicates : Duplicates δ)

theorem enter_settings :
    ((enter now fingerprint).run duplicates).state.settings = duplicates.settings := by
  rw [run_enter, run_ask]
  dsimp only
  split <;> rfl

theorem release_settings :
    ((release now fingerprint).run duplicates).state.settings = duplicates.settings := by
  rw [release, Activity.run_bind, run_ask]
  dsimp only
  split
  · next answer _ => cases answer <;> rfl
  · rfl

theorem Operation.apply_settings (operation : Operation) :
    (operation.apply now duplicates).settings = duplicates.settings := by
  cases operation with
  | enter fingerprint => exact enter_settings now fingerprint duplicates
  | hold fingerprint =>
    show ((Duplicates.hold now fingerprint).run duplicates).state.settings = _
    rw [run_hold]
    exact enter_settings now fingerprint duplicates
  | release fingerprint => exact release_settings now fingerprint duplicates
  | purge => rfl

/-- The settings a part is made with are the ones it goes by. -/
theorem Course.after_settings (course : Course δ) (steps : List Step) :
    (course.after steps).duplicates.settings = course.duplicates.settings := by
  induction steps generalizing course with
  | nil => rfl
  | cons step rest inductionHypothesis =>
    refine (inductionHypothesis (course.next step)).trans ?_
    cases step with
    | operation operation => exact operation.apply_settings course.now course.duplicates
    | wait length => rfl

end Settings

/-! ### Rejections that are counted -/

variable [DuplicateStore δ]

/-- A rejection is counted once and under its reason: as a duplicate if the store has answered that
the fingerprint is live, and as a failure of the store if there was no answer and the policy is to
turn such requests away. No other counter has changed. -/
def Accounted (now : Instant) (fingerprint : Fingerprint) (before after : Duplicates δ) : Prop :=
  before.guarded.Answers now (before.entry now fingerprint) false ∧
      after.metrics =
        { before.metrics with duplicatesRejected := before.metrics.duplicatesRejected + 1 } ∨
    before.guarded.Silent now (before.entry now fingerprint) ∧
      before.settings.onStoreError = .failClosed ∧
      after.metrics = { before.metrics with storeFailures := before.metrics.storeFailures + 1 }

theorem admission_eq_rejected_iff (policy : FailurePolicy) (answer : Option Bool) :
    admission policy answer = .rejected ↔
      answer = some false ∨ answer = none ∧ policy = .failClosed := by
  rcases answer with _ | _ | _ <;> cases policy <;> simp [admission]

/-- A rejection is an answer that the fingerprint is live, or silence under the closed policy; it
leaves what the question has left, with one more duplicate counted in the first case only. -/
theorem enter_of_rejected {now : Instant} {fingerprint : Fingerprint} {duplicates : Duplicates δ}
    (rejected : ((enter now fingerprint).run duplicates).result = .ok .rejected) :
    let asked := (GuardedStore.ask now duplicates.settings.onStoreError .tryInsert
      (.fingerprint fingerprint) (entry now fingerprint duplicates)).run duplicates.guarded
    let after := ((enter now fingerprint).run duplicates).state
    after.guarded = asked.state ∧
      (asked.result = .ok (some false) ∧
          after.tally = { duplicates.tally with rejected := duplicates.tally.rejected + 1 } ∨
        asked.result = .ok none ∧ duplicates.settings.onStoreError = .failClosed ∧
          after.tally = duplicates.tally) := by
  rw [run_enter, run_ask] at rejected ⊢
  dsimp only at rejected ⊢
  generalize (GuardedStore.ask now _ .tryInsert _ _).run duplicates.guarded = outcome at *
  obtain ⟨result, state, events⟩ := outcome
  cases result with
  | error fault => cases rejected
  | ok answer =>
    have turnedAway := (admission_eq_rejected_iff _ answer).mp (Except.ok.inj rejected)
    rcases turnedAway with rfl | ⟨rfl, closed⟩
    · exact ⟨rfl, .inl ⟨rfl, rfl⟩⟩
    · rw [closed]
      exact ⟨rfl, .inr ⟨rfl, rfl, rfl⟩⟩

/-- What a rejection has come from, and what has been counted: the store has found the fingerprint
live, or it has refused to answer, or it has not been asked. -/
theorem rejection_cases {now : Instant} {fingerprint : Fingerprint} {duplicates : Duplicates δ}
    (rejected : ((enter now fingerprint).run duplicates).result = .ok .rejected) :
    let after := ((enter now fingerprint).run duplicates).state
    let asked := (duplicates.guarded.breaker.allow now).1
    let reply := (duplicates.entry now fingerprint duplicates.guarded.store).1
    asked = true ∧ reply = .answer false ∧
        after.metrics = { duplicates.metrics with
          duplicatesRejected := duplicates.metrics.duplicatesRejected + 1 } ∨
      duplicates.settings.onStoreError = .failClosed ∧
        (asked = true ∧ (∃ error, reply = .refused error) ∧
            after.metrics = { duplicates.metrics with
              storeFailures := duplicates.metrics.storeFailures + 1 } ∨
          asked = false ∧ after.metrics = duplicates.metrics) := by
  obtain ⟨guarded, counted⟩ := enter_of_rejected rejected
  have refusals := GuardedStore.refusals_ask now duplicates.settings.onStoreError .tryInsert
    (.fingerprint fingerprint) (entry now fingerprint duplicates) duplicates.guarded
  rw [← guarded] at refusals
  unfold metrics
  rcases counted with ⟨answered, tally⟩ | ⟨unanswered, closed, tally⟩
  · obtain ⟨allowed, reply⟩ := (GuardedStore.ask_eq_some_iff _ _ _ _ _ _ _).mp answered
    rw [allowed, reply] at refusals
    exact .inl ⟨allowed, reply, by rw [tally, refusals]; rfl⟩
  · refine .inr ⟨closed, ?_⟩
    have silent := (GuardedStore.ask_eq_none_iff _ _ _ _ _ _).mp unanswered
    cases asked : (duplicates.guarded.breaker.allow now).1 with
    | false =>
      rw [asked] at refusals
      exact .inr ⟨rfl, by rw [tally, refusals]⟩
    | true =>
      obtain ⟨error, refused⟩ := silent.resolve_left (by simp [asked])
      rw [asked, refused] at refusals
      exact .inl ⟨rfl, ⟨error, refused⟩, by rw [tally, refusals]; rfl⟩

/-- A rejection is accounted for exactly when the circuit has let the question through, however the
part has been used before. A request that the circuit keeps from the store is turned away under the
closed policy, and no counter shows that it ever came: nothing tells this rejection from one that
did not happen. -/
theorem rejection_accounted_iff (settings : DuplicateSettings) (breaker : BreakerSettings)
    (store : δ) (start : Instant) (steps : List Step) (fingerprint : Fingerprint) :
    let course := (Course.begin settings breaker store start).after steps
    let outcome := (enter course.now fingerprint).run course.duplicates
    let asked := (course.duplicates.guarded.breaker.allow course.now).1
    outcome.result = .ok .rejected →
      (Accounted course.now fingerprint course.duplicates outcome.state ↔ asked = true) ∧
        (asked = false → settings.onStoreError = .failClosed ∧
          outcome.state.metrics = course.duplicates.metrics) := by
  intro course outcome asked rejected
  have kept : course.duplicates.settings = settings :=
    (Course.begin settings breaker store start).after_settings steps
  rcases rejection_cases rejected with ⟨let_through, live, metrics⟩ |
    ⟨closed, ⟨let_through, refused, metrics⟩ | ⟨shut, metrics⟩⟩
  · exact ⟨iff_of_true (.inl ⟨⟨let_through, live⟩, metrics⟩) let_through,
      fun shut => Bool.noConfusion (let_through.symm.trans shut)⟩
  · exact ⟨iff_of_true (.inr ⟨.inr refused, closed, metrics⟩) let_through,
      fun shut => Bool.noConfusion (let_through.symm.trans shut)⟩
  · have uncounted : ¬ Accounted course.now fingerprint course.duplicates outcome.state := by
      rintro (⟨answers, -⟩ | ⟨-, -, counted⟩)
      · exact Bool.noConfusion (shut.symm.trans answers.1)
      · have same := congrArg Metrics.storeFailures (metrics.symm.trans counted)
        simp at same
    exact ⟨iff_of_false uncounted (Bool.eq_false_iff.mp shut),
      fun _ => ⟨kept ▸ closed, metrics⟩⟩

/-- The settings under which whoever gets no answer is turned away. -/
def closedSettings : DuplicateSettings :=
  { DuplicateSettings.standard with onStoreError := .failClosed }

/-- The store refuses and the circuit opens. A minute later a probe is let through, is refused too,
and is accounted for. -/
theorem rejection_accounted_of_probe :
    let fingerprint : Fingerprint := ⟨List.replicate 32 7, rfl⟩
    let course := (Course.begin closedSettings ⟨1, 60⟩ (⟨[]⟩ : Scripted) ⟨0⟩).after
      [.operation (.enter fingerprint), .wait (.ofSeconds 60)]
    let outcome := (enter course.now fingerprint).run course.duplicates
    outcome.result = .ok .rejected ∧
      Accounted course.now fingerprint course.duplicates outcome.state := by
  intro fingerprint course outcome
  have rejected : outcome.result = .ok .rejected := by decide +kernel
  have asked : (course.duplicates.guarded.breaker.allow course.now).1 = true := by decide +kernel
  have accounted := rejection_accounted_iff closedSettings ⟨1, 60⟩ (⟨[]⟩ : Scripted) ⟨0⟩
    [.operation (.enter fingerprint), .wait (.ofSeconds 60)] fingerprint rejected
  exact ⟨rejected, accounted.1.mpr asked⟩

/-- The store refuses and the circuit opens. The next request is turned away at once, and no counter
has changed. -/
theorem rejection_uncounted_of_open_circuit :
    let fingerprint : Fingerprint := ⟨List.replicate 32 7, rfl⟩
    let course := (Course.begin closedSettings ⟨1, 60⟩ (⟨[]⟩ : Scripted) ⟨0⟩).after
      [.operation (.enter fingerprint)]
    let outcome := (enter course.now fingerprint).run course.duplicates
    outcome.result = .ok .rejected ∧ outcome.state.metrics = course.duplicates.metrics ∧
      ¬ Accounted course.now fingerprint course.duplicates outcome.state := by
  intro fingerprint course outcome
  have rejected : outcome.result = .ok .rejected := by decide +kernel
  have metrics : outcome.state.metrics = course.duplicates.metrics := by decide +kernel
  refine ⟨rejected, metrics, ?_⟩
  rintro (⟨answers, -⟩ | ⟨-, -, counted⟩)
  · exact absurd answers.1 (by decide +kernel)
  · have same := congrArg Metrics.storeFailures (metrics.symm.trans counted)
    simp at same

end Duplicates

end Gatekeeper
