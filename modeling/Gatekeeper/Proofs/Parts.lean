/-
This file says once what comes of each thing that a part of a gate can be asked. A guarded store
either answers, or is silent, or faults; what the part then does is a function of that alone. The
proofs about whole gates start from these facts and do not open the parts again.
-/
import Gatekeeper.Challenges
import Gatekeeper.Duplicates
import Gatekeeper.Permissions

namespace Gatekeeper

variable {α β δ κ ν σ : Type}

/-! ### Guarded stores -/

namespace GuardedStore

/-- The breaker lets the call through and the store answers it with this value. -/
def Answers (guarded : GuardedStore σ) (now : Instant) (question : σ → Reply α × σ) (value : α) :
    Prop :=
  (guarded.breaker.allow now).1 = true ∧ (question guarded.store).1 = .answer value

/-- There is no answer: the breaker does not let the call through, or the store refuses it. -/
def Silent (guarded : GuardedStore σ) (now : Instant) (question : σ → Reply α × σ) : Prop :=
  (guarded.breaker.allow now).1 = false ∨ ∃ error, (question guarded.store).1 = .refused error

section Asking

variable (now : Instant) (policy : FailurePolicy) (call : StoreCall) (subject : StoreSubject)
  (question : σ → Reply α × σ) (guarded : GuardedStore σ)

theorem ask_result :
    ((ask now policy call subject question).run guarded).result =
      match (guarded.breaker.allow now).1, (question guarded.store).1 with
      | false, _ => .ok none
      | true, .answer value => .ok (some value)
      | true, .refused _ => .ok none
      | true, .fault fault => .error fault := by
  simp only [Activity.run, ask]
  cases (guarded.breaker.allow now).1
  · rfl
  · cases (question guarded.store).1 <;> rfl

/-- Asking gives a value exactly when the store answers with it. -/
theorem ask_eq_some_iff (value : α) :
    ((ask now policy call subject question).run guarded).result = .ok (some value) ↔
      guarded.Answers now question value := by
  rw [ask_result, Answers]
  cases (guarded.breaker.allow now).1
  · simp
  · cases (question guarded.store).1 <;> simp

/-- Asking gives nothing exactly when the store is silent. -/
theorem ask_eq_none_iff :
    ((ask now policy call subject question).run guarded).result = .ok none ↔
      guarded.Silent now question := by
  rw [ask_result, Silent]
  cases (guarded.breaker.allow now).1
  · simp
  · cases (question guarded.store).1 <;> simp

/-- Asking faults only if the store does. -/
theorem ask_ne_error (fault : Fault) (never : (question guarded.store).1 ≠ .fault fault) :
    ((ask now policy call subject question).run guarded).result ≠ .error fault := by
  rw [ask_result]
  cases (guarded.breaker.allow now).1
  · simp
  · cases reply : (question guarded.store).1 with
    | answer value => simp
    | refused error => simp
    | fault other =>
      intro same
      exact never (reply.trans (congrArg Reply.fault (Except.error.inj same)))

end Asking

end GuardedStore

/-! ### Duplicates -/

namespace Duplicates

variable (now : Instant) (fingerprint : Fingerprint) (duplicates : Duplicates δ)

theorem run_ask (call : StoreCall) (question : δ → Reply α × δ) :
    (ask now call fingerprint question).run duplicates =
      let asked := (GuardedStore.ask now duplicates.settings.onStoreError call
        (.fingerprint fingerprint) question).run duplicates.guarded
      ⟨asked.result, { duplicates with guarded := asked.state }, asked.events⟩ := by
  rw [ask, Activity.run_state_bind, Activity.run_on]

variable [DuplicateStore δ]

/-- What is asked of the store when a request is to be entered. -/
def entry (store : δ) : Reply Bool × δ :=
  DuplicateStore.tryInsert store fingerprint now duplicates.settings.window

/-- What an answer of the store, or its silence, means for a request. -/
def admission (policy : FailurePolicy) : Option Bool → Admission
  | some true => .admitted
  | some false => .rejected
  | none =>
    match policy with
    | .failOpen => .admitted
    | .failClosed => .rejected

/-- How an answer of the store is counted. A request turned away by silence is not. -/
def entered (policy : FailurePolicy) (tally : DuplicateTally) : Option Bool → DuplicateTally
  | some true => { tally with admitted := tally.admitted + 1 }
  | some false => { tally with rejected := tally.rejected + 1 }
  | none =>
    match policy with
    | .failOpen => { tally with admitted := tally.admitted + 1 }
    | .failClosed => tally

/-- Entering a request is asking the store, and then only counting and logging what it said. -/
theorem run_enter :
    (enter now fingerprint).run duplicates =
      let policy := duplicates.settings.onStoreError
      let asked :=
        (ask now .tryInsert fingerprint (entry now fingerprint duplicates)).run duplicates
      match asked.result with
      | .ok answer =>
        ⟨.ok (admission policy answer),
          { asked.state with tally := entered policy asked.state.tally answer },
          asked.events ++ [.duplicateChecked fingerprint (admission policy answer)]⟩
      | .error fault => ⟨.error fault, asked.state, asked.events⟩ := by
  obtain ⟨⟨window, excluded, policy, bypass⟩, guarded, tally⟩ := duplicates
  rw [enter, Activity.run_state_bind, Activity.run_bind]
  unfold entry
  generalize (ask now .tryInsert fingerprint _).run _ = asked
  obtain ⟨result, state, events⟩ := asked
  cases result with
  | error fault => rfl
  | ok answer =>
    rcases answer with _ | answer
    · cases policy <;> rfl
    · cases answer <;> rfl

/-- A request that is let in holds the fingerprint it came with. -/
theorem eq_of_hold {held : Fingerprint}
    (entered : ((hold now fingerprint).run duplicates).result = .ok (.ok held)) :
    held = fingerprint := by
  rw [hold, Activity.run_bind] at entered
  generalize (enter now fingerprint).run duplicates = outcome at entered
  obtain ⟨result, state, events⟩ := outcome
  rcases result with fault | admission
  · cases entered
  · cases admission <;> cases entered
    rfl

/-- A request is let in exactly when the store answers that its fingerprint is new, or is silent
under the open policy. -/
theorem hold_eq_ok_iff :
    ((hold now fingerprint).run duplicates).result = .ok (.ok fingerprint) ↔
      duplicates.guarded.Answers now (entry now fingerprint duplicates) true ∨
        duplicates.guarded.Silent now (entry now fingerprint duplicates) ∧
          duplicates.settings.onStoreError = .failOpen := by
  rw [← GuardedStore.ask_eq_some_iff now duplicates.settings.onStoreError .tryInsert
      (.fingerprint fingerprint),
    ← GuardedStore.ask_eq_none_iff now duplicates.settings.onStoreError .tryInsert
      (.fingerprint fingerprint),
    hold, Activity.run_bind, run_enter, run_ask]
  generalize (GuardedStore.ask now _ .tryInsert _ _).run _ = asked
  obtain ⟨result, state, events⟩ := asked
  rcases result with fault | _ | answer
  · simp
  · cases policy : duplicates.settings.onStoreError <;> simp [admission, Activity.run_pure]
  · cases answer <;> simp [admission, Activity.run_pure]

end Duplicates

/-! ### Challenges -/

/-- A store of attempts whose counters can always be read and cleared: it may refuse, but it does
not fault. -/
structure AttemptStore.Replies (κ : Type) [AttemptStore κ] : Prop where
  attempts : ∀ (store : κ) (key : ChallengeKey) (now : Instant) (fault : Fault),
    (AttemptStore.attempts store key now).1 ≠ .fault fault
  clear : ∀ (store : κ) (key : ChallengeKey) (fault : Fault),
    (AttemptStore.clear store key).1 ≠ .fault fault

namespace Challenges

variable (now : Instant) (key : ChallengeKey) (challenges : Challenges κ ν)

theorem run_ask (call : StoreCall) (question : κ → Reply α × κ) :
    (ask now call key question).run challenges =
      let asked := (GuardedStore.ask now challenges.settings.onStoreError call (.counter key)
        question).run challenges.guarded
      ⟨asked.result, { challenges with guarded := asked.state }, asked.events⟩ := by
  rw [ask, Activity.run_state_bind, Activity.run_on]

section Levels

variable [AttemptStore κ]

/-- What is asked of the store when a counter is read. -/
def reading (store : κ) : Reply UInt32 × κ :=
  AttemptStore.attempts store key now

/-- The level that a count, or the silence of the store, means under a threshold. -/
def levelOf (threshold : UInt32) (policy : FailurePolicy) : Option UInt32 → ChallengeLevel
  | some attempts => .ofAttempts attempts threshold
  | none =>
    match policy with
    | .failOpen => .clear
    | .failClosed => .required

/-- With a threshold of zero nothing is read; with any other the level is a function of what the
store says. -/
theorem run_level :
    (level now key).run challenges =
      let threshold := (challenges.limit key.kind).threshold
      if threshold = 0 then ⟨.ok .required, challenges, []⟩
      else
        let asked := (ask now .readAttempts key (reading now key)).run challenges
        ⟨asked.result.map (levelOf threshold challenges.settings.onStoreError), asked.state,
          asked.events⟩ := by
  rw [level, Activity.run_state_bind]
  dsimp only
  split
  · rfl
  · rw [Activity.run_bind, attempts]
    unfold reading
    generalize (ask now .readAttempts key _).run challenges = asked
    obtain ⟨result, state, events⟩ := asked
    rcases result with fault | _ | attempts
    · rfl
    · cases challenges.settings.onStoreError <;> simp [Except.map, levelOf, Activity.run_pure]
    · simp [Except.map, levelOf, Activity.run_pure]

/-- No captcha is asked for: the threshold is not zero, and either the store answers with fewer
attempts, or it is silent under the open policy. -/
def Free : Prop :=
  (challenges.limit key.kind).threshold ≠ 0 ∧
    ((∃ attempts, challenges.guarded.Answers now (reading now key) attempts ∧
        attempts < (challenges.limit key.kind).threshold) ∨
      challenges.guarded.Silent now (reading now key) ∧
        challenges.settings.onStoreError = .failOpen)

/-- Reading a level leaves the verifier alone. -/
theorem level_verifier : ((level now key).run challenges).state.verifier = challenges.verifier := by
  rw [run_level]
  dsimp only
  split
  · rfl
  · rw [run_ask]

theorem isRequired_ofAttempts (attempts threshold : UInt32) :
    (ChallengeLevel.ofAttempts attempts threshold).isRequired = decide (threshold ≤ attempts) := by
  unfold ChallengeLevel.ofAttempts
  by_cases spent : threshold ≤ attempts
  · rw [if_pos spent, decide_eq_true spent]
    rfl
  · rw [if_neg spent, decide_eq_false spent]
    split <;> rfl

/-- The level is always known where the store does not fault, and it asks for a captcha exactly when
the attempt is not free. -/
theorem level_result (replies : AttemptStore.Replies κ) :
    ∃ level, ((Challenges.level now key).run challenges).result = .ok level ∧
      (level.isRequired = false ↔ Free now key challenges) := by
  rw [run_level, Free,
    ← GuardedStore.ask_eq_none_iff now challenges.settings.onStoreError .readAttempts
      (.counter key)]
  simp only [← GuardedStore.ask_eq_some_iff now challenges.settings.onStoreError .readAttempts
    (.counter key)]
  by_cases zero : (challenges.limit key.kind).threshold = 0
  · exact ⟨.required, by simp [zero, ChallengeLevel.isRequired]⟩
  · have sound := GuardedStore.ask_ne_error now challenges.settings.onStoreError .readAttempts
      (.counter key) (reading now key) challenges.guarded
    simp only [zero, if_false, run_ask]
    generalize ((GuardedStore.ask now challenges.settings.onStoreError .readAttempts
      (.counter key) (reading now key)).run challenges.guarded).result = result at sound ⊢
    rcases result with fault | _ | attempts
    · exact absurd rfl (sound fault (replies.attempts _ _ _ _))
    · refine ⟨_, rfl, ?_⟩
      cases policy : challenges.settings.onStoreError <;>
        simp [levelOf, ChallengeLevel.isRequired, zero]
    · refine ⟨_, rfl, ?_⟩
      simp [levelOf, isRequired_ofAttempts, zero]

end Levels

section Captchas

theorem run_consult [CaptchaVerifier ν] (token : CaptchaToken) :
    (consult now key token).run challenges =
      let asked := CaptchaVerifier.verify challenges.verifier now key.user key.kind token
      match asked.1 with
      | .answer passed => ⟨.ok passed, { challenges with verifier := asked.2 }, []⟩
      | .refused error =>
        ⟨.ok false,
          { challenges with
            verifier := asked.2
            tally := { challenges.tally with
              verifierFailures := challenges.tally.verifierFailures + 1 } },
          [.verifierFailed key error]⟩
      | .fault fault => ⟨.error fault, { challenges with verifier := asked.2 }, []⟩ := by
  unfold Activity.run consult
  cases (CaptchaVerifier.verify challenges.verifier now key.user key.kind token).1 <;> rfl

/-- A counter can be cleared, or not, without a fault. -/
theorem clear_ne_error [AttemptStore κ] (replies : AttemptStore.Replies κ) (fault : Fault) :
    ((ask now .clearAttempts key fun store : κ => AttemptStore.clear store key).run
      challenges).result ≠ .error fault := by
  rw [run_ask]
  exact GuardedStore.ask_ne_error _ _ _ _ _ _ _ (replies.clear _ _ _)

variable [AttemptStore κ] [CaptchaVerifier ν]

/-- A verification passes exactly when the verifier says yes: clearing the counter cannot undo it,
whether or not the store can be reached. -/
theorem verify_eq_passed_iff (replies : AttemptStore.Replies κ) (token : CaptchaToken) :
    ((verify now key token).run challenges).result = .ok .passed ↔
      (CaptchaVerifier.verify challenges.verifier now key.user key.kind token).1 =
        .answer true := by
  rw [verify, Activity.run_bind, run_consult]
  dsimp only
  generalize (CaptchaVerifier.verify challenges.verifier now key.user key.kind token).2 = asked
  cases (CaptchaVerifier.verify challenges.verifier now key.user key.kind token).1 with
  | refused error => simp [Activity.run_bind, Activity.run_pure, count, Activity.run_change,
      Activity.run_log]
  | fault fault => simp
  | answer passed =>
    cases passed
    · simp [Activity.run_bind, Activity.run_pure, count, Activity.run_change, Activity.run_log]
    · simp only [if_true, count, Activity.run_bind, Activity.run_change]
      cases cleared : ((ask now .clearAttempts key fun store : κ =>
          AttemptStore.clear store key).run
          { challenges with
            verifier := asked
            tally := { challenges.tally with
              passed := challenges.tally.passed + 1 } }).result with
      | error fault => exact absurd cleared (clear_ne_error now key _ replies fault)
      | ok answer => simp [Activity.run_pure, Activity.run_log]

/-- A request passes its check exactly when the attempt is free, or it comes with an answer to which
the verifier says yes. -/
theorem check_eq_ok_iff (replies : AttemptStore.Replies κ) (token : Option CaptchaToken) :
    ((check now key token).run challenges).result = .ok (.ok ()) ↔
      Free now key challenges ∨ ∃ given, token = some given ∧
        (CaptchaVerifier.verify challenges.verifier now key.user key.kind given).1 =
          .answer true := by
  obtain ⟨level, ended, free⟩ := level_result now key challenges replies
  unfold check
  rw [Activity.run_bind_of_ok ended]
  cases required : level.isRequired
  · simp [Activity.run_pure, free.mp required]
  · have notFree : ¬ Free now key challenges := fun given => by
      rw [free.mpr given] at required
      cases required
    cases token with
    | none => simp [Activity.run_bind, Activity.run_pure, count, Activity.run_change, notFree]
    | some given =>
      have verified := verify_eq_passed_iff now key
        ((Challenges.level now key).run challenges).state replies given
      rw [level_verifier] at verified
      simp only [notFree, false_or, Option.some.injEq, exists_eq_left', ← verified, if_true,
        Activity.run_bind]
      generalize (verify now key given).run
        ((Challenges.level now key).run challenges).state = outcome
      rcases outcome.result with fault | verification
      · simp
      · cases verification <;> simp [Activity.run_pure]

end Captchas

end Challenges

/-! ### Permissions -/

theorem Rule.decide_eq_permit_iff (rule : Rule) (rank : Rank) (isOwner : Bool) :
    rule.decide rank isOwner = .permit ↔ rule.others ≤ rank ∨
      isOwner = true ∧ ∃ enough, rule.owner = some enough ∧ enough ≤ rank := by
  obtain ⟨others, owner⟩ := rule
  by_cases enough : others ≤ rank
  · simp [Rule.decide, enough]
  · cases owner <;> simp [Rule.decide, enough]

namespace Permissions

/-- A query is granted to admins, and to whoever has the rank that the rule of the action asks for;
an owner may have the rank that it asks of owners. Without a rule only admins are granted it. -/
theorem authorize_eq_ok_iff (query : PermissionQuery) (permissions : Permissions) :
    ((authorize query).run permissions).result = .ok (.ok ()) ↔
      query.isAdmin = true ∨ ∃ rule, permissions.rules.rule? query.action = some rule ∧
        (rule.others ≤ query.rank ∨
          query.isOwner = true ∧ ∃ enough, rule.owner = some enough ∧ enough ≤ query.rank) := by
  rw [authorize, Activity.run_bind, evaluate, Activity.run_state_bind]
  by_cases admin : query.isAdmin = true
  · simp [admin, Activity.run_bind, Activity.run_pure, count, Activity.run_change]
  · cases found : permissions.rules.rule? query.action with
    | none => simp [admin, Activity.run_bind, Activity.run_pure, Activity.run_change,
        Activity.run_log]
    | some rule =>
      have decided := rule.decide_eq_permit_iff query.rank query.isOwner
      cases verdict : rule.decide query.rank query.isOwner
      · simp [admin, verdict, Activity.run_bind, Activity.run_pure, count, Activity.run_change,
          Activity.run_log, ← decided]
      · simp [admin, verdict, Activity.run_bind, Activity.run_pure, count, Activity.run_change,
          Activity.run_log, ← decided]

/-- A query is answered, the rules stay, and a no is about the permission. -/
theorem authorize_cases (query : PermissionQuery) (permissions : Permissions) :
    let outcome := (authorize query).run permissions
    outcome.state.rules = permissions.rules ∧
      (outcome.result = .ok (.ok ()) ∨ ∃ rejection, outcome.result = .ok (.error rejection) ∧
        ∀ kind, rejection ≠ .challengeFailed kind) := by
  dsimp only
  rw [authorize, Activity.run_bind, evaluate, Activity.run_state_bind]
  by_cases admin : query.isAdmin = true
  · rw [if_pos admin]
    exact ⟨rfl, .inl rfl⟩
  · rw [if_neg admin]
    cases found : permissions.rules.rule? query.action with
    | none => exact ⟨rfl, .inr ⟨_, rfl, nofun⟩⟩
    | some rule =>
      cases decided : rule.decide query.rank query.isOwner with
      | permit =>
        simp only [decided]
        exact ⟨rfl, .inl rfl⟩
      | deny =>
        simp only [decided]
        exact ⟨rfl, .inr ⟨_, rfl, nofun⟩⟩

end Permissions

end Gatekeeper
