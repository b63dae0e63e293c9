/-
This file says how often each operation of a part of a gate calls its store. The store is watched
and sits behind its breaker, and it answers or refuses as it likes. An operation that needs the
store calls it unless it rests; an operation that does not need it, or finds it resting, leaves it
alone. Where no call was answered, whether there were any or not, the operation goes by the failure
policy alone.

A check may ask twice, once for the level and once to clear the counter. The second question finds
the store as the first has left it, so it is skipped if the first has shut the store off.
-/
import Gatekeeper.Proofs.StoreVisits

namespace Gatekeeper

open StoreVisit (Unanswered)

variable {α δ κ ν : Type} {settings : BreakerSettings} {start now : Instant}

/-! ### Stores that answer or refuse -/

/-- A store of duplicates that answers or refuses each call: it does not fault. -/
structure DuplicateStore.Replies (δ : Type) [DuplicateStore δ] : Prop where
  tryInsert : ∀ (store : δ) (fingerprint : Fingerprint) (now : Instant) (window : Duration)
    (fault : Fault), (DuplicateStore.tryInsert store fingerprint now window).1 ≠ .fault fault
  remove : ∀ (store : δ) (fingerprint : Fingerprint) (fault : Fault),
    (DuplicateStore.remove store fingerprint).1 ≠ .fault fault

/-- A store of attempts that answers or refuses each call. -/
structure AttemptStore.AlwaysReplies (κ : Type) [AttemptStore κ] : Prop
    extends AttemptStore.Replies κ where
  increment : ∀ (store : κ) (key : ChallengeKey) (now : Instant) (length : Duration)
    (fault : Fault), (AttemptStore.increment store key now length).1 ≠ .fault fault

/-! ### Duplicates -/

namespace Duplicates

/-- What the part can be asked to do. -/
inductive Operation where
  | enter (fingerprint : Fingerprint)
  | hold (fingerprint : Fingerprint)
  | release (fingerprint : Fingerprint)
  | purge
  deriving DecidableEq

/-- The part after an operation. -/
def Operation.apply [DuplicateStore δ] (now : Instant) (duplicates : Duplicates δ) :
    Operation → Duplicates δ
  | enter fingerprint => ((Duplicates.enter now fingerprint).run duplicates).state
  | hold fingerprint => ((Duplicates.hold now fingerprint).run duplicates).state
  | release fingerprint => ((Duplicates.release now fingerprint).run duplicates).state
  | purge => ((Duplicates.purge now).run duplicates).state

/-- The operation has to call the store; dropping what has expired is no call. -/
def Operation.NeedsStore : Operation → Prop
  | enter _ | hold _ | release _ => True
  | purge => False

/-- The calls that have reached the store. -/
def visits (duplicates : Duplicates (Watched δ)) : List StoreVisit :=
  duplicates.guarded.store.visits

/-- Where no call was answered an operation goes by the policy. -/
structure ResolvesByPolicy [DuplicateStore δ] (now : Instant)
    (duplicates : Duplicates (Watched δ)) : Prop where
  enter (fingerprint : Fingerprint) :
    let outcome := (enter now fingerprint).run duplicates
    Unanswered duplicates.visits outcome.state.visits →
      outcome.result =
        .ok (if duplicates.settings.onStoreError = .failOpen then .admitted else .rejected)
  hold (fingerprint : Fingerprint) :
    let outcome := (hold now fingerprint).run duplicates
    Unanswered duplicates.visits outcome.state.visits →
      outcome.result =
        .ok (if duplicates.settings.onStoreError = .failOpen then .ok fingerprint
          else .error (.duplicateRejected fingerprint))
  release (fingerprint : Fingerprint) :
    let outcome := (release now fingerprint).run duplicates
    Unanswered duplicates.visits outcome.state.visits →
      outcome.result = .ok () ∧ outcome.state.tally = duplicates.tally

section Operations

variable {duplicates : Duplicates (Watched δ)}

/-- A question that is one call of the store. -/
theorem ask_follows (minds : duplicates.guarded.Minds settings start now)
    (question : Watched δ → Reply α × Watched δ) {inner : δ → Reply α × δ}
    (call_eq : question = fun store => store.call inner)
    (replies : ∀ store fault, (inner store).1 ≠ .fault fault) (call : StoreCall)
    (fingerprint : Fingerprint) :
    let outcome := (ask now call fingerprint question).run duplicates
    duplicates.guarded.Follows settings start now True outcome.state.guarded ∧
      ∃ answer, outcome.result = .ok answer ∧
        (Unanswered duplicates.visits outcome.state.visits → answer = none) := by
  rw [run_ask, call_eq]
  exact minds.ask replies _ call (.fingerprint fingerprint)

variable [DuplicateStore δ]

/-- Holding a fingerprint is entering it. -/
theorem run_hold (fingerprint : Fingerprint) (duplicates : Duplicates δ) :
    (Duplicates.hold now fingerprint).run duplicates =
      let entered := (Duplicates.enter now fingerprint).run duplicates
      ⟨entered.result.map fun admission =>
        if admission = .admitted then .ok fingerprint else .error (.duplicateRejected fingerprint),
        entered.state, entered.events⟩ := by
  rw [hold, Activity.run_bind]
  generalize (Duplicates.enter now fingerprint).run duplicates = outcome
  obtain ⟨result, state, events⟩ := outcome
  rcases result with fault | admission
  · rfl
  · cases admission <;> simp [Activity.run_pure, Except.map]

variable (minds : duplicates.guarded.Minds settings start now)
  (replies : DuplicateStore.Replies δ) (fingerprint : Fingerprint)
include minds replies

theorem enter_follows :
    let outcome := (enter now fingerprint).run duplicates
    duplicates.guarded.Follows settings start now True outcome.state.guarded ∧
      (Unanswered duplicates.visits outcome.state.visits →
        outcome.result =
          .ok (if duplicates.settings.onStoreError = .failOpen then .admitted else .rejected)) := by
  obtain ⟨follows, answer, ended, silent⟩ := ask_follows minds (entry now fingerprint duplicates)
    rfl (fun store => replies.tryInsert store fingerprint now duplicates.settings.window)
    .tryInsert fingerprint
  rw [run_enter]
  dsimp only
  rw [ended]
  refine ⟨follows, fun unanswered => ?_⟩
  rw [silent unanswered]
  cases duplicates.settings.onStoreError <;> rfl

theorem hold_follows :
    let outcome := (hold now fingerprint).run duplicates
    duplicates.guarded.Follows settings start now True outcome.state.guarded ∧
      (Unanswered duplicates.visits outcome.state.visits →
        outcome.result =
          .ok (if duplicates.settings.onStoreError = .failOpen then .ok fingerprint
            else .error (.duplicateRejected fingerprint))) := by
  obtain ⟨follows, silent⟩ := enter_follows minds replies fingerprint
  rw [run_hold]
  refine ⟨follows, fun unanswered => ?_⟩
  dsimp only
  rw [silent unanswered]
  cases duplicates.settings.onStoreError <;> rfl

theorem release_follows :
    let outcome := (release now fingerprint).run duplicates
    duplicates.guarded.Follows settings start now True outcome.state.guarded ∧
      (Unanswered duplicates.visits outcome.state.visits →
        outcome.result = .ok () ∧ outcome.state.tally = duplicates.tally) := by
  obtain ⟨follows, answer, ended, silent⟩ := ask_follows minds
    (fun store => DuplicateStore.remove store fingerprint) rfl
    (fun store => replies.remove store fingerprint) .remove fingerprint
  have kept : ((ask now .remove fingerprint fun store : Watched δ =>
    DuplicateStore.remove store fingerprint).run duplicates).state.tally = duplicates.tally := by
    rw [run_ask]
  unfold release
  rw [Activity.run_bind_of_ok ended]
  cases answer with
  | none => exact ⟨follows, fun _ => ⟨rfl, kept⟩⟩
  | some value => exact ⟨follows, fun unanswered => nomatch silent unanswered⟩

theorem apply_follows (operation : Operation) :
    duplicates.guarded.Follows settings start now operation.NeedsStore
      (operation.apply now duplicates).guarded := by
  cases operation with
  | enter fingerprint => exact (enter_follows minds replies fingerprint).1
  | hold fingerprint => exact (hold_follows minds replies fingerprint).1
  | release fingerprint => exact (release_follows minds replies fingerprint).1
  | purge => exact ⟨minds.setInner _, .refl settings now duplicates.guarded.store.visits⟩

theorem resolvesByPolicy : duplicates.ResolvesByPolicy now where
  enter fingerprint := (enter_follows minds replies fingerprint).2
  hold fingerprint := (hold_follows minds replies fingerprint).2
  release fingerprint := (release_follows minds replies fingerprint).2

end Operations

end Duplicates

/-! ### Challenges -/

namespace Challenges

/-- What the part can be asked to do. -/
inductive Operation where
  | attempts (key : ChallengeKey)
  | level (key : ChallengeKey)
  | record (key : ChallengeKey)
  | verify (key : ChallengeKey) (token : CaptchaToken)
  | check (key : ChallengeKey) (token : Option CaptchaToken)
  | purge
  | purgeTokens
  deriving DecidableEq

/-- The part after an operation. -/
def Operation.apply [AttemptStore κ] [CaptchaVerifier ν] (now : Instant)
    (challenges : Challenges κ ν) : Operation → Challenges κ ν
  | attempts key => ((Challenges.attempts now key).run challenges).state
  | level key => ((Challenges.level now key).run challenges).state
  | record key => ((Challenges.record now key).run challenges).state
  | verify key token => ((Challenges.verify now key token).run challenges).state
  | check key token => ((Challenges.check now key token).run challenges).state
  | purge => ((Challenges.purge now).run challenges).state
  | purgeTokens => ((Challenges.purgeTokens now).run challenges).state

/-- The verifier says yes to an answer. -/
def Accepts [CaptchaVerifier ν] (now : Instant) (challenges : Challenges κ ν) (key : ChallengeKey)
    (token : CaptchaToken) : Prop :=
  (CaptchaVerifier.verify challenges.verifier now key.user key.kind token).1 = .answer true

/-- The operation has to call the store. With a threshold of zero no level is read, and only an
answer that passes clears a counter; dropping what has expired is no call. -/
def Operation.NeedsStore [CaptchaVerifier ν] (now : Instant) (challenges : Challenges κ ν) :
    Operation → Prop
  | attempts _ | record _ => True
  | level key => (challenges.limit key.kind).threshold ≠ 0
  | verify key token => Accepts now challenges key token
  | check key token => (challenges.limit key.kind).threshold ≠ 0 ∨
      ∃ given, token = some given ∧ Accepts now challenges key given
  | purge | purgeTokens => False

/-- The calls that have reached the store. -/
def visits (challenges : Challenges (Watched κ) ν) : List StoreVisit :=
  challenges.guarded.store.visits

/-- Where no call was answered an operation goes by the policy. Whether an answer passes is up to
the verifier alone. -/
structure ResolvesByPolicy [AttemptStore κ] [CaptchaVerifier ν] (now : Instant)
    (challenges : Challenges (Watched κ) ν) : Prop where
  attempts (key : ChallengeKey) :
    let outcome := (attempts now key).run challenges
    Unanswered challenges.visits outcome.state.visits → outcome.result = .ok none
  level (key : ChallengeKey) :
    let outcome := (level now key).run challenges
    (challenges.limit key.kind).threshold ≠ 0 →
      Unanswered challenges.visits outcome.state.visits →
      outcome.result =
        .ok (if challenges.settings.onStoreError = .failOpen then .clear else .required)
  record (key : ChallengeKey) :
    let outcome := (record now key).run challenges
    Unanswered challenges.visits outcome.state.visits →
      outcome.result = .ok none ∧ outcome.state.tally = challenges.tally
  verify (key : ChallengeKey) (token : CaptchaToken) :
    ((verify now key token).run challenges).result = .ok .passed ↔
      Accepts now challenges key token
  check (key : ChallengeKey) (token : Option CaptchaToken) :
    let outcome := (check now key token).run challenges
    Unanswered challenges.visits outcome.state.visits →
      (outcome.result = .ok (.ok ()) ↔
        (challenges.limit key.kind).threshold ≠ 0 ∧
          challenges.settings.onStoreError = .failOpen ∨
        ∃ given, token = some given ∧ Accepts now challenges key given)

section Operations

variable {challenges : Challenges (Watched κ) ν}

/-- A question that is one call of the store. -/
theorem ask_follows (minds : challenges.guarded.Minds settings start now)
    (question : Watched κ → Reply α × Watched κ) {inner : κ → Reply α × κ}
    (call_eq : question = fun store => store.call inner)
    (replies : ∀ store fault, (inner store).1 ≠ .fault fault) (call : StoreCall)
    (key : ChallengeKey) :
    let outcome := (ask now call key question).run challenges
    challenges.guarded.Follows settings start now True outcome.state.guarded ∧
      ∃ answer, outcome.result = .ok answer ∧
        (Unanswered challenges.visits outcome.state.visits → answer = none) := by
  rw [run_ask, call_eq]
  exact minds.ask replies _ call (.counter key)

variable [AttemptStore κ]

section Attempts

variable (minds : challenges.guarded.Minds settings start now)
  (replies : AttemptStore.AlwaysReplies κ) (key : ChallengeKey)
include minds replies

theorem reading_follows :
    let outcome := (ask now .readAttempts key (reading now key)).run challenges
    challenges.guarded.Follows settings start now True outcome.state.guarded ∧
      ∃ answer, outcome.result = .ok answer ∧
        (Unanswered challenges.visits outcome.state.visits → answer = none) :=
  ask_follows minds (reading now key) rfl (fun store => replies.attempts store key now)
    .readAttempts key

theorem level_follows :
    let outcome := (level now key).run challenges
    challenges.guarded.Follows settings start now
        ((challenges.limit key.kind).threshold ≠ 0) outcome.state.guarded ∧
      ((challenges.limit key.kind).threshold ≠ 0 →
        Unanswered challenges.visits outcome.state.visits →
        outcome.result =
          .ok (if challenges.settings.onStoreError = .failOpen then .clear else .required)) := by
  rw [run_level]
  dsimp only
  by_cases zero : (challenges.limit key.kind).threshold = 0
  · rw [if_pos zero]
    exact ⟨minds.follows.of_iff (by simp [zero]), fun nonzero => absurd zero nonzero⟩
  · obtain ⟨follows, answer, ended, silent⟩ := reading_follows minds replies key
    rw [if_neg zero, ended]
    refine ⟨follows.of_iff (by simp [zero]), fun _ unanswered => ?_⟩
    rw [silent unanswered]
    cases challenges.settings.onStoreError <;> rfl

theorem record_follows :
    let outcome := (record now key).run challenges
    challenges.guarded.Follows settings start now True outcome.state.guarded ∧
      (Unanswered challenges.visits outcome.state.visits →
        outcome.result = .ok none ∧ outcome.state.tally = challenges.tally) := by
  let length := (challenges.limit key.kind).window
  obtain ⟨follows, answer, ended, silent⟩ := ask_follows minds
    (fun store => AttemptStore.increment store key now length) rfl
    (fun store => replies.increment store key now length) .increment key
  have kept : ((ask now .increment key fun store : Watched κ =>
    AttemptStore.increment store key now length).run challenges).state.tally =
      challenges.tally := by rw [run_ask]
  unfold record
  rw [Activity.run_state_bind, Activity.run_bind_of_ok ended]
  cases answer with
  | none => exact ⟨follows, fun _ => ⟨rfl, kept⟩⟩
  | some attempts => exact ⟨follows, fun unanswered => nomatch silent unanswered⟩

end Attempts

variable [CaptchaVerifier ν]

/-- Only an answer that passes asks something of the store: that the counter be cleared. -/
theorem verify_follows (minds : challenges.guarded.Minds settings start now)
    (replies : AttemptStore.AlwaysReplies κ) (key : ChallengeKey) (token : CaptchaToken) :
    challenges.guarded.Follows settings start now (Accepts now challenges key token)
      ((verify now key token).run challenges).state.guarded := by
  unfold Accepts
  rw [verify, Activity.run_bind, run_consult]
  dsimp only
  cases (CaptchaVerifier.verify challenges.verifier now key.user key.kind token).1 with
  | refused error => exact minds.follows.of_iff (by simp)
  | fault fault => exact minds.follows.of_iff (by simp)
  | answer passed =>
    cases passed with
    | false => exact minds.follows.of_iff (by simp)
    | true =>
      let counted : Challenges (Watched κ) ν :=
        { challenges with
          verifier := (CaptchaVerifier.verify challenges.verifier now key.user key.kind token).2
          tally := { challenges.tally with passed := challenges.tally.passed + 1 } }
      have kept : counted.guarded.Minds settings start now := minds
      obtain ⟨follows, answer, ended, _⟩ := ask_follows kept
        (fun store => AttemptStore.clear store key) rfl (fun store => replies.clear store key)
        .clearAttempts key
      simp only [if_true, count, Activity.run_bind, Activity.run_change]
      rw [ended]
      exact follows.of_iff (by simp)

/-- What a check does once the level is known: it has an answer verified, if it needs one. -/
theorem check_follows_level (minds : challenges.guarded.Minds settings start now)
    (replies : AttemptStore.AlwaysReplies κ) {key : ChallengeKey} (token : Option CaptchaToken)
    {found : ChallengeLevel} (ended : ((level now key).run challenges).result = .ok found) :
    ((level now key).run challenges).state.guarded.Follows settings start now
      (found.isRequired = true ∧ ∃ given, token = some given ∧ Accepts now challenges key given)
      ((check now key token).run challenges).state.guarded := by
  have kept := (level_follows minds replies key).1.minds
  unfold check
  rw [Activity.run_bind_of_ok ended]
  by_cases required : found.isRequired = true
  · rw [if_pos required]
    cases token with
    | none => exact kept.follows.of_iff (by simp)
    | some given =>
      have follows := verify_follows kept replies key given
      unfold Accepts at follows
      rw [level_verifier] at follows
      have same := follows.of_iff (show _ ↔ found.isRequired = true ∧
        ∃ other, some given = some other ∧ Accepts now challenges key other by
          simp [required, Accepts])
      -- Whatever comes of the verification, nothing more is asked of the store.
      dsimp only
      rw [Activity.run_bind]
      generalize (verify now key given).run ((Challenges.level now key).run challenges).state =
        outcome at same ⊢
      obtain ⟨result, state, events⟩ := outcome
      rcases result with fault | verification
      · exact same
      · cases verification <;> exact same
  · rw [if_neg required]
    exact kept.follows.of_iff ⟨False.elim, fun given => required given.1⟩

theorem check_follows (minds : challenges.guarded.Minds settings start now)
    (replies : AttemptStore.AlwaysReplies κ) (key : ChallengeKey) (token : Option CaptchaToken) :
    challenges.guarded.Follows settings start now
      ((challenges.limit key.kind).threshold ≠ 0 ∨
        ∃ given, token = some given ∧ Accepts now challenges key given)
      ((check now key token).run challenges).state.guarded := by
  obtain ⟨found, ended, free⟩ :=
    level_result now key challenges (Watched.replies replies.toReplies)
  have both := (level_follows minds replies key).1.trans
    (check_follows_level minds replies token ended)
  refine both.of_iff ⟨.imp_right And.right, fun needed => ?_⟩
  by_cases required : found.isRequired = true
  · exact needed.imp_right (And.intro required)
  · exact .inl (free.mp (Bool.not_eq_true _ ▸ required)).1

/-- A check whose calls were not answered goes by the policy, or by what the verifier says. -/
theorem check_of_unanswered (minds : challenges.guarded.Minds settings start now)
    (replies : AttemptStore.AlwaysReplies κ) (key : ChallengeKey) (token : Option CaptchaToken)
    (unanswered : Unanswered challenges.visits
      ((check now key token).run challenges).state.visits) :
    ((check now key token).run challenges).result = .ok (.ok ()) ↔
      (challenges.limit key.kind).threshold ≠ 0 ∧
        challenges.settings.onStoreError = .failOpen ∨
      ∃ given, token = some given ∧ Accepts now challenges key given := by
  have watched := Watched.replies replies.toReplies
  obtain ⟨found, ended, free⟩ := level_result now key challenges watched
  have silent : Unanswered challenges.visits ((level now key).run challenges).state.visits :=
    unanswered.sooner (level_follows minds replies key).1.paced.extends
      (check_follows_level minds replies token ended).paced.extends
  have open_iff : Free now key challenges ↔
      (challenges.limit key.kind).threshold ≠ 0 ∧
        challenges.settings.onStoreError = .failOpen := by
    by_cases zero : (challenges.limit key.kind).threshold = 0
    · exact iff_of_false (fun given => given.1 zero) fun given => given.1 zero
    · have level := ended.symm.trans ((level_follows minds replies key).2 zero silent)
      rw [← free, Except.ok.inj level]
      cases challenges.settings.onStoreError <;> simp [zero, ChallengeLevel.isRequired]
  rw [check_eq_ok_iff now key challenges watched, open_iff]
  rfl

theorem apply_follows (minds : challenges.guarded.Minds settings start now)
    (replies : AttemptStore.AlwaysReplies κ) (operation : Operation) :
    challenges.guarded.Follows settings start now (operation.NeedsStore now challenges)
      (operation.apply now challenges).guarded := by
  cases operation with
  | attempts key => exact (reading_follows minds replies key).1
  | level key => exact (level_follows minds replies key).1
  | record key => exact (record_follows minds replies key).1
  | verify key token => exact verify_follows minds replies key token
  | check key token => exact check_follows minds replies key token
  | purge => exact ⟨minds.setInner _, .refl settings now challenges.guarded.store.visits⟩
  | purgeTokens => exact minds.follows

theorem resolvesByPolicy (minds : challenges.guarded.Minds settings start now)
    (replies : AttemptStore.AlwaysReplies κ) : challenges.ResolvesByPolicy now where
  attempts key unanswered := by
    obtain ⟨_, answer, ended, silent⟩ := reading_follows minds replies key
    exact ended.trans (congrArg Except.ok (silent unanswered))
  level key := (level_follows minds replies key).2
  record key := (record_follows minds replies key).2
  verify key token :=
    verify_eq_passed_iff now key challenges (Watched.replies replies.toReplies) token
  check key token := check_of_unanswered minds replies key token

end Operations

end Challenges

end Gatekeeper
