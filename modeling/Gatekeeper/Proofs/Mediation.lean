/-
This file proves that a gate stands between every request and its action. The action of a request is
carried out at most once, and it is carried out exactly when three things hold of the gate as the
request found it: the request is no duplicate, it is permitted, and its challenge is cleared. The
stores and the verifier may answer or refuse as they like, and the breakers may be in any state.

How often an action is carried out is counted beside the stores. A counted store is a store with a
number that none of its calls reads or changes, and the action is made to add one to it; a gate on
such a store does what the gate on the plain store does.
-/
import Gatekeeper.Proofs.Correspondence
import Gatekeeper.Proofs.Screening
import Gatekeeper.Store.Memory

namespace Gatekeeper

open Activity (Alike)

variable {δ κ ν α β ε : Type}

/-- The counters in memory can always be read and cleared. -/
theorem AttemptRecords.replies : AttemptStore.Replies AttemptRecords where
  attempts _ _ _ _ := by
    intro faulted
    cases faulted
  clear _ _ _ := by
    intro faulted
    cases faulted

/-! ### Counting how often an action is carried out -/

/-- A store with a number beside it. -/
structure Counted (σ : Type) where
  inner : σ
  executions : Nat

/-- No call of the store reads or changes the number. -/
instance [DuplicateStore δ] : DuplicateStore (Counted δ) where
  tryInsert store fingerprint now window :=
    let (reply, inner) := DuplicateStore.tryInsert store.inner fingerprint now window
    (reply, { store with inner := inner })
  remove store fingerprint :=
    let (reply, inner) := DuplicateStore.remove store.inner fingerprint
    (reply, { store with inner := inner })
  purge store now :=
    let (count, inner) := DuplicateStore.purge store.inner now
    (count, { store with inner := inner })

namespace Gate

/-- The gate with a number beside its store of duplicates. -/
def counted (gate : Gate δ κ ν) (executions : Nat) : Gate (Counted δ) κ ν where
  now := gate.now
  permissions := gate.permissions
  duplicates := ⟨gate.duplicates.settings,
    ⟨⟨gate.duplicates.guarded.store, executions⟩, gate.duplicates.guarded.breaker,
      gate.duplicates.guarded.refusals⟩, gate.duplicates.tally⟩
  challenges := gate.challenges
  sharesMetrics := gate.sharesMetrics

/-- The gate without the number. -/
def uncounted (gate : Gate (Counted δ) κ ν) : Gate δ κ ν where
  now := gate.now
  permissions := gate.permissions
  duplicates := ⟨gate.duplicates.settings,
    ⟨gate.duplicates.guarded.store.inner, gate.duplicates.guarded.breaker,
      gate.duplicates.guarded.refusals⟩, gate.duplicates.tally⟩
  challenges := gate.challenges
  sharesMetrics := gate.sharesMetrics

/-- The number beside the store of duplicates. -/
def executions (gate : Gate (Counted δ) κ ν) : Nat :=
  gate.duplicates.guarded.store.executions

theorem uncounted_counted (gate : Gate δ κ ν) (executions : Nat) :
    (gate.counted executions).uncounted = gate := rfl

theorem executions_counted (gate : Gate δ κ ν) (executions : Nat) :
    (gate.counted executions).executions = executions := rfl

/-- An action that also adds one to the number. -/
def counting (action : Activity (Gate δ κ ν) β) : Activity (Gate (Counted δ) κ ν) β := fun gate =>
  let outcome := action.run gate.uncounted
  ⟨outcome.result, outcome.state.counted (gate.executions + 1), outcome.events⟩

/-- A counted store replies as the store does. -/
def countedRelation (κ ν : Type) (executions : Nat) : StoreRelation (Counted δ) δ κ κ ν ν where
  scope := .everything
  counts := True
  duplicates _ first second :=
    first = ⟨⟨second.store, executions⟩, second.breaker, second.refusals⟩
  attempts _ := Eq
  verifiers _ := Eq

theorem onGates_counted (gate : Gate δ κ ν) (executions : Nat) :
    (countedRelation κ ν executions).OnGates (gate.counted executions) gate :=
  ⟨rfl, ⟨rfl, fun _ => rfl⟩, ⟨rfl, rfl, fun _ => rfl⟩, ⟨rfl, rfl, rfl, fun _ => rfl⟩, rfl⟩

theorem eq_counted_of_onGates {first : Gate (Counted δ) κ ν} {second : Gate δ κ ν}
    {executions : Nat} (related : (countedRelation κ ν executions).OnGates first second) :
    first = second.counted executions := by
  obtain ⟨now, ⟨rules, permissionTally⟩, ⟨duplicateSettings, guarded, duplicateTally⟩,
    ⟨challengeSettings, attempts, verifier, challengeTally⟩, sharesMetrics⟩ := related
  obtain ⟨_, ⟨_, _⟩, ⟨_, _, _⟩, ⟨_, _, _, _⟩, _⟩ := first
  cases now
  cases rules
  cases permissionTally trivial
  cases duplicateSettings
  cases guarded
  cases duplicateTally trivial
  cases challengeSettings
  cases attempts
  cases verifier
  cases challengeTally trivial
  cases sharesMetrics
  rfl

/-- Asking a counted store is asking the store. -/
theorem ask_counted (now : Instant) (policy : FailurePolicy) (call : StoreCall)
    (subject : StoreSubject) (question : δ → Reply α × δ) (executions : Nat) :
    Alike ((countedRelation (δ := δ) κ ν executions).duplicates now)
      (GuardedStore.ask now policy call subject fun store : Counted δ =>
        ((question store.inner).1, { store with inner := (question store.inner).2 }))
      (GuardedStore.ask now policy call subject question) := by
  rintro _ guarded rfl
  simp only [Activity.run, GuardedStore.ask, countedRelation]
  cases (guarded.breaker.allow now).1
  · exact ⟨rfl, rfl⟩
  · cases (question guarded.store).1 <;> exact ⟨rfl, rfl⟩

variable [DuplicateStore δ] [AttemptStore κ] [CaptchaVerifier ν]

theorem counted_kept (executions : Nat) : (countedRelation (δ := δ) κ ν executions).Kept where
  tryInsert now policy fingerprint window _ :=
    ask_counted now policy _ _
      (fun store : δ => DuplicateStore.tryInsert store fingerprint now window) executions
  remove now policy fingerprint _ :=
    ask_counted now policy _ _ (fun store : δ => DuplicateStore.remove store fingerprint) executions
  readAttempts _ _ _ _ := .refl _
  increment _ _ _ _ _ := .refl _
  clearAttempts _ _ _ _ := .refl _
  verify := by
    rintro _ _ _ rfl _ _ _ _
    exact ⟨rfl, rfl⟩

/-! ### Carrying out an action -/

omit [DuplicateStore δ] [AttemptStore κ] [CaptchaVerifier ν] in
theorem run_counting_action (action : Activity (Gate δ κ ν) β) (gate : Gate δ κ ν)
    (executions : Nat) :
    (counting action).run (gate.counted executions) =
      { action.run gate with state := (action.run gate).state.counted (executions + 1) } := rfl

/-- Counting changes nothing, and what it counts is one if the request is let through and nothing
otherwise. -/
theorem run_counting (request : Request) (action : Activity (Gate δ κ ν) (Except ε α))
    (gate : Gate δ κ ν) :
    let plain := (runRequest request action).run gate
    let counted := (runRequest request (counting action)).run (gate.counted 0)
    counted.result = plain.result ∧
      ((∃ pass, ((screen request).run gate).result = .ok (.ok pass)) ∧
          counted.state = plain.state.counted 1 ∨
        (¬ ∃ pass, ((screen request).run gate).result = .ok (.ok pass)) ∧
          counted.state = plain.state.counted 0) := by
  obtain ⟨sameVerdict, related⟩ :=
    (counted_kept (κ := κ) (ν := ν) 0).screen (Scope.everything_covers request)
      (onGates_counted gate 0)
  have midway := eq_counted_of_onGates related
  dsimp only
  cases ended : ((screen request).run gate).result with
  | error fault =>
    rw [run_runRequest_of_fault ended, run_runRequest_of_fault (sameVerdict.trans ended)]
    exact ⟨rfl, .inr ⟨by simp, midway⟩⟩
  | ok verdict =>
    cases verdict with
    | error rejection =>
      rw [run_runRequest_of_rejection ended,
        run_runRequest_of_rejection (sameVerdict.trans ended)]
      exact ⟨rfl, .inr ⟨by simp, midway⟩⟩
    | ok pass =>
      -- The number stands at one from here on, and settling does not change it.
      have settled := (counted_kept 1).settle (Scope.everything_coversPass pass)
        (action.run ((screen request).run gate).state).result
        (onGates_counted (action.run ((screen request).run gate).state).state 1)
      rw [run_runRequest_of_pass ended, run_runRequest_of_pass (sameVerdict.trans ended)]
      dsimp only
      rw [midway, run_counting_action]
      exact ⟨settled.1, .inl ⟨⟨pass, rfl⟩, eq_counted_of_onGates settled.2⟩⟩

/-- What is counted as carried out is what has been let through. -/
theorem executions_eq_one_iff (request : Request) (action : Activity (Gate δ κ ν) (Except ε α))
    (gate : Gate δ κ ν) :
    ((runRequest request (counting action)).run (gate.counted 0)).state.executions = 1 ↔
      ∃ pass, ((screen request).run gate).result = .ok (.ok pass) := by
  obtain ⟨_, ⟨passes, ended⟩ | ⟨fails, ended⟩⟩ := run_counting request action gate
  · rw [ended, executions_counted]
    exact iff_of_true rfl passes
  · rw [ended, executions_counted]
    exact iff_of_false Nat.zero_ne_one fails

/-- The action of a request is carried out at most once, and it is carried out exactly when the
request is unrepeated, permitted and cleared at the gate that it came to. -/
theorem runRequest_executes_iff (replies : AttemptStore.Replies κ) (request : Request)
    (action : Activity (Gate δ κ ν) (Except ε α)) (gate : Gate δ κ ν) :
    let plain := (runRequest request action).run gate
    let counted := (runRequest request (counting action)).run (gate.counted 0)
    counted.result = plain.result ∧ counted.state.uncounted = plain.state ∧
      counted.state.executions ≤ 1 ∧
      (counted.state.executions = 1 ↔
        gate.Unrepeated request ∧ gate.Permitted request ∧ gate.Cleared request) := by
  dsimp only
  rw [← screen_eq_ok_iff request gate replies]
  obtain ⟨sameResult, ⟨passes, ended⟩ | ⟨fails, ended⟩⟩ := run_counting request action gate
  · rw [ended, uncounted_counted, executions_counted]
    exact ⟨sameResult, rfl, Nat.le_refl 1, iff_of_true rfl passes⟩
  · rw [ended, uncounted_counted, executions_counted]
    exact ⟨sameResult, rfl, Nat.zero_le 1, iff_of_false Nat.zero_ne_one fails⟩

/-- A gate at which members may ask questions, each with a captcha. -/
def questionGate : Gate DuplicateRecords AttemptRecords CaptchaDesk :=
  let config := { Config.standard with
    permissions := RuleTable.ofRules [(.standard .questionAdd, ⟨10, none⟩)]
    challenge := { ChallengeSettings.standard with defaultLimit := ⟨0, 300⟩ } }
  let desk := CaptchaDesk.ofLife ⟨1000⟩ id
  assemble config .standard true ⟨0⟩ .empty .empty
    { desk with issued := desk.issued.insert "1" ⟨"ada", .question, "blue", ⟨1000⟩⟩ }

/-- A question of a member who has solved her captcha. -/
def question : Request where
  actor := ⟨"ada", 10, false⟩
  action := .standard .questionAdd
  isOwner := false
  challenge := some .question
  token := some ⟨"1", "blue"⟩
  fingerprint := some ⟨List.replicate 32 0, rfl⟩
  order := .challengeFirst

theorem runRequest_executes_question :
    ((runRequest question (counting (pure (.ok ()) : Activity _ (Except Unit Unit)))).run
      (questionGate.counted 0)).state.executions = 1 := by
  refine (runRequest_executes_iff AttemptRecords.replies question (pure (.ok ()))
    questionGate).2.2.2.mpr ⟨?_, ?_, ?_⟩
  · exact .inr (.inr ⟨_, rfl, .inl ⟨rfl, rfl⟩⟩)
  · exact .inr ⟨⟨10, none⟩, by decide, .inl (by decide)⟩
  · exact .inr (.inr ⟨.question, rfl, .inr ⟨_, rfl, by decide⟩⟩)

end Gate

end Gatekeeper
