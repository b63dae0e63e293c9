/-
This file is about gates whose circuits let calls through. What such a gate does with a request does
not depend on its breakers: it is what the gate would do if nothing had ever happened to them. And
these are the gates one meets. Stores in memory never refuse a call, so as long as nobody operates
the breakers of a gate by hand it comes to no other states, whatever its parts are used for, however
its requests overlap, and whatever happens to its stores from outside.
-/
import Gatekeeper.Proofs.PacedOperations
import Gatekeeper.Proofs.Separation

namespace Gatekeeper

open Activity (Alike Keeps)

variable {δ κ σ α ε ν : Type}

/-! ### Circuits that conduct -/

namespace Breaker

variable {breaker : Breaker} {now : Instant}

/-- The circuit lets calls through. -/
def Conducts (breaker : Breaker) (now : Instant) : Prop :=
  (breaker.allow now).1 = true

theorem Idle.conducts (idle : breaker.Idle) (now : Instant) : breaker.Conducts now := by
  unfold Conducts
  rw [idle.allow]

theorem idle_reset (breaker : Breaker) : breaker.reset.Idle :=
  ⟨rfl, rfl⟩

theorem conducts_of_ne_opened (shut : breaker.state ≠ .opened) (now : Instant) :
    breaker.Conducts now := by
  unfold Conducts allow
  cases state : breaker.state with
  | closed => rfl
  | halfOpen => rfl
  | opened => exact absurd state shut

/-- A call that is let through finds the circuit closed or half open. -/
theorem Conducts.ne_opened (conducts : breaker.Conducts now) :
    (breaker.allow now).2.state ≠ .opened := by
  unfold Conducts allow at conducts
  unfold allow
  cases state : breaker.state with
  | closed => simp [state]
  | halfOpen => simp [state]
  | opened =>
    rw [state] at conducts
    dsimp only at conducts ⊢
    split at conducts
    · cases conducts
    · next late =>
      rw [if_neg late]
      nofun

/-- Nothing but a failure makes a circuit stop conducting. -/
theorem Conducts.later (conducts : breaker.Conducts now) {later : Instant}
    (ordered : now.nanos ≤ later.nanos) : breaker.Conducts later := by
  by_cases state : breaker.state = .opened
  · unfold Conducts allow sinceFailure Instant.since at conducts ⊢
    rw [state] at conducts ⊢
    dsimp only at conducts ⊢
    split at conducts
    · cases conducts
    · rw [if_neg (by omega)]
  · exact conducts_of_ne_opened state later

theorem succeed_ne_opened (shut : breaker.state ≠ .opened) : breaker.succeed.state ≠ .opened := by
  unfold succeed
  rw [if_neg shut]
  nofun

end Breaker

namespace GuardedStore

/-- The stores are the same. The circuit of the one conducts, and nothing has ever happened to the
breaker of the other. -/
structure Conducting (now : Instant) (first second : GuardedStore σ) : Prop where
  store : first.store = second.store
  conducts : first.breaker.Conducts now
  idle : second.breaker.Idle

theorem ask_conducting {now : Instant} {policy : FailurePolicy} {call : StoreCall}
    {subject : StoreSubject} {question : σ → Reply α × σ}
    (heard : ∀ store error, (question store).1 ≠ .refused error) :
    Alike (Conducting now) (ask now policy call subject question)
      (ask now policy call subject question) := by
  rintro ⟨store, breaker, refusals⟩ second ⟨same, conducts, idle⟩
  cases same
  have shut := conducts.ne_opened
  unfold Breaker.Conducts at conducts
  simp only [Activity.run, ask, conducts, idle.allow, if_true]
  cases reply : (question second.store).1 with
  | answer value =>
    refine ⟨rfl, rfl, ?_, ?_⟩
    · exact Breaker.conducts_of_ne_opened (Breaker.succeed_ne_opened shut) now
    · exact idle.succeed.symm ▸ idle
  | refused error => exact absurd reply (heard second.store error)
  | fault fault => exact ⟨rfl, rfl, Breaker.conducts_of_ne_opened shut now, idle⟩

end GuardedStore

/-! ### Calls that are never refused -/

theorem GuardedStore.ask_keeps_idle {now : Instant} {policy : FailurePolicy} {call : StoreCall}
    {subject : StoreSubject} {question : σ → Reply α × σ}
    (heard : ∀ store error, (question store).1 ≠ .refused error) :
    Keeps (fun guarded => guarded.breaker.Idle) (ask now policy call subject question) := by
  intro guarded idle
  cases reply : (question guarded.store).1 with
  | answer value =>
    have asked : question guarded.store = (.answer value, (question guarded.store).2) :=
      Prod.ext reply rfl
    rw [run_ask_of_answer idle asked]
    exact idle
  | refused error => exact absurd reply (heard guarded.store error)
  | fault fault =>
    have asked : question guarded.store = (.fault fault, (question guarded.store).2) :=
      Prod.ext reply rfl
    rw [run_ask_of_fault idle asked]
    exact idle

theorem DuplicateRecords.tryInsert_ne_refused (records : DuplicateRecords)
    (fingerprint : Fingerprint) (now : Instant) (window : Duration) (error : StoreError) :
    (records.tryInsert fingerprint now window).1 ≠ .refused error := by
  unfold tryInsert
  split
  · nofun
  · split <;> nofun

theorem AttemptRecords.increment_ne_refused (records : AttemptRecords) (key : ChallengeKey)
    (now : Instant) (length : Duration) (error : StoreError) :
    (records.increment key now length).1 ≠ .refused error := by
  unfold increment
  split <;> nofun

/-! ### What does not depend on the breakers -/

namespace Gate

/-- Both circuits let calls through. -/
structure Conducts (gate : Gate δ κ ν) : Prop where
  duplicates : gate.duplicates.guarded.breaker.Conducts gate.now
  challenges : gate.challenges.guarded.breaker.Conducts gate.now

theorem Conducts.later {gate : Gate δ κ ν} (conducts : gate.Conducts) {later : Instant}
    (ordered : gate.now.nanos ≤ later.nanos) : { gate with now := later }.Conducts :=
  ⟨conducts.duplicates.later ordered, conducts.challenges.later ordered⟩

/-- The gate with breakers that nothing has ever happened to. -/
def calmed (gate : Gate δ κ ν) : Gate δ κ ν :=
  let first := gate.duplicates.guarded
  let second := gate.challenges.guarded
  { gate with
    duplicates := { gate.duplicates with
      guarded := { first with breaker := first.breaker.reset } }
    challenges := { gate.challenges with
      guarded := { second with breaker := second.breaker.reset } } }

end Gate

namespace StoreRelation

/-- The one gate lets its calls through, and at the other nothing has happened to the breakers. -/
def conducting (ν : Type) :
    StoreRelation DuplicateRecords DuplicateRecords AttemptRecords AttemptRecords ν ν where
  scope := .everything
  counts := True
  duplicates := GuardedStore.Conducting
  attempts := GuardedStore.Conducting
  verifiers _ := Eq

theorem conducting_kept [CaptchaVerifier ν] : (conducting ν).Kept where
  tryInsert now _ fingerprint window _ := GuardedStore.ask_conducting fun store =>
    store.tryInsert_ne_refused fingerprint now window
  remove _ _ _ _ := GuardedStore.ask_conducting fun _ _ refused => by cases refused
  readAttempts _ _ _ _ := GuardedStore.ask_conducting fun _ _ refused => by cases refused
  increment now _ key length _ := GuardedStore.ask_conducting fun store =>
    store.increment_ne_refused key now length
  clearAttempts _ _ _ _ := GuardedStore.ask_conducting fun _ _ refused => by cases refused
  verify := by
    rintro _ _ _ rfl _ _ _ _
    exact ⟨rfl, rfl⟩

theorem onGates_calmed {gate : Gate DuplicateRecords AttemptRecords ν} (conducts : gate.Conducts) :
    (conducting ν).OnGates gate gate.calmed where
  now := rfl
  permissions := ⟨rfl, fun _ => rfl⟩
  duplicates := ⟨rfl, ⟨rfl, conducts.duplicates, Breaker.idle_reset _⟩, fun _ => rfl⟩
  challenges := ⟨rfl, ⟨rfl, conducts.challenges, Breaker.idle_reset _⟩, rfl, fun _ => rfl⟩
  sharesMetrics := rfl

theorem OnGates.conducts {first second : Gate DuplicateRecords AttemptRecords ν}
    (related : (conducting ν).OnGates first second) : first.Conducts :=
  ⟨related.duplicates.guarded.conducts, related.challenges.guarded.conducts⟩

end StoreRelation

/-! ### Parts -/

namespace Duplicates

/-- No failure has been counted, and the circuit is closed. -/
def Calm (duplicates : Duplicates DuplicateRecords) : Prop :=
  duplicates.guarded.breaker.Idle

variable {now : Instant}

theorem ask_calm {call : StoreCall} {fingerprint : Fingerprint}
    {question : DuplicateRecords → Reply α × DuplicateRecords}
    (heard : ∀ store error, (question store).1 ≠ .refused error) :
    Keeps Calm (ask now call fingerprint question) :=
  .read fun _ => .on (fun _ calm => calm) (fun _ _ _ left => left)
    (GuardedStore.ask_keeps_idle heard)

theorem count_calm (update : DuplicateTally → DuplicateTally) :
    Keeps Calm (count update) :=
  .change fun _ calm => calm

theorem enter_calm (fingerprint : Fingerprint) : Keeps Calm (enter now fingerprint) := by
  intro duplicates calm
  have heard : ∀ store error, (entry now fingerprint duplicates store).1 ≠ .refused error :=
    fun store => store.tryInsert_ne_refused fingerprint now duplicates.settings.window
  have asks : Keeps Calm (ask now .tryInsert fingerprint (entry now fingerprint duplicates)) :=
    ask_calm heard
  have asked := asks calm
  rw [run_enter]
  dsimp only
  split
  · exact asked
  · exact asked

theorem hold_calm (fingerprint : Fingerprint) : Keeps Calm (hold now fingerprint) := by
  refine (enter_calm fingerprint).bind fun admission => ?_
  cases admission <;> exact .pure _

theorem release_calm (fingerprint : Fingerprint) : Keeps Calm (release now fingerprint) := by
  refine (ask_calm fun store error refused => by cases refused).bind fun answer => ?_
  cases answer with
  | some answer => exact (count_calm _).bind fun _ => .log _
  | none => exact .pure _

theorem Operation.apply_calm {duplicates : Duplicates DuplicateRecords} (calm : duplicates.Calm)
    (operation : Operation) : (operation.apply now duplicates).Calm := by
  cases operation with
  | enter fingerprint => exact enter_calm fingerprint calm
  | hold fingerprint => exact hold_calm fingerprint calm
  | release fingerprint => exact release_calm fingerprint calm
  | purge => exact calm

end Duplicates

namespace Challenges

/-- No failure has been counted, and the circuit is closed. -/
def Calm (challenges : Challenges AttemptRecords ν) : Prop :=
  challenges.guarded.breaker.Idle

variable {now : Instant}

theorem count_calm (update : ChallengeTally → ChallengeTally) :
    Keeps (Calm (ν := ν)) (count update) :=
  .change fun _ calm => calm

theorem ask_calm {call : StoreCall} {key : ChallengeKey}
    {question : AttemptRecords → Reply α × AttemptRecords}
    (heard : ∀ store error, (question store).1 ≠ .refused error) :
    Keeps (Calm (ν := ν)) (ask now call key question) :=
  .read fun _ => .on (fun _ calm => calm) (fun _ _ _ left => left)
    (GuardedStore.ask_keeps_idle heard)

theorem attempts_calm (key : ChallengeKey) : Keeps (Calm (ν := ν)) (attempts now key) :=
  ask_calm fun store error refused => by cases refused

theorem level_calm (key : ChallengeKey) : Keeps (Calm (ν := ν)) (level now key) := by
  refine .read fun challenges => ?_
  dsimp only
  split
  · exact .pure _
  · refine (attempts_calm key).bind fun answer => ?_
    cases answer with
    | some attempts => exact .pure _
    | none => cases challenges.settings.onStoreError <;> exact .pure _

theorem record_calm (key : ChallengeKey) : Keeps (Calm (ν := ν)) (record now key) := by
  refine .read fun challenges => ?_
  refine (ask_calm fun store => store.increment_ne_refused key now _).bind fun answer => ?_
  cases answer with
  | some attempts =>
    exact (count_calm _).bind fun _ => (Keeps.log _).bind fun _ => .pure _
  | none => exact .pure _

variable [CaptchaVerifier ν]

theorem consult_calm (key : ChallengeKey) (token : CaptchaToken) :
    Keeps (Calm (ν := ν)) (consult now key token) := by
  intro challenges calm
  rw [run_consult]
  dsimp only
  split <;> exact calm

theorem verify_calm (key : ChallengeKey) (token : CaptchaToken) :
    Keeps (Calm (ν := ν)) (verify now key token) := by
  refine (consult_calm key token).bind fun passed => ?_
  split
  · refine (count_calm _).bind fun _ => ?_
    refine (ask_calm fun store error refused => by cases refused).bind fun _ => ?_
    exact (Keeps.log _).bind fun _ => .pure _
  · exact (count_calm _).bind fun _ => (Keeps.log _).bind fun _ => .pure _

theorem check_calm (key : ChallengeKey) (token : Option CaptchaToken) :
    Keeps (Calm (ν := ν)) (check now key token) := by
  refine (level_calm key).bind fun level => ?_
  split
  · cases token with
    | none => exact (count_calm _).bind fun _ => .pure _
    | some given =>
      refine (verify_calm key given).bind fun verification => ?_
      cases verification <;> exact .pure _
  · exact .pure _

theorem Operation.apply_calm {challenges : Challenges AttemptRecords ν} (calm : challenges.Calm)
    (operation : Operation) : (operation.apply now challenges).Calm := by
  cases operation with
  | attempts key => exact attempts_calm key calm
  | level key => exact level_calm key calm
  | record key => exact record_calm key calm
  | verify key token => exact verify_calm key token calm
  | check key token => exact check_calm key token calm
  | purge => exact calm
  | purgeTokens => exact calm

end Challenges

/-! ### Gates -/

namespace Gate

/-- No call of a store has failed. -/
structure Calm (gate : Gate DuplicateRecords AttemptRecords ν) : Prop where
  duplicates : gate.duplicates.Calm
  challenges : gate.challenges.Calm

theorem Calm.conducts {gate : Gate DuplicateRecords AttemptRecords ν} (calm : gate.Calm) :
    gate.Conducts :=
  ⟨Breaker.Idle.conducts calm.duplicates _, Breaker.Idle.conducts calm.challenges _⟩

theorem calmed_calm (gate : Gate DuplicateRecords AttemptRecords ν) : gate.calmed.Calm :=
  ⟨Breaker.idle_reset _, Breaker.idle_reset _⟩

theorem assemble_calm (config : Config) (breaker : BreakerSettings) (sharesMetrics : Bool)
    (now : Instant) (records : DuplicateRecords) (windows : AttemptRecords) (verifier : ν) :
    (assemble config breaker sharesMetrics now records windows verifier).Calm :=
  ⟨Breaker.idle_ofSettings breaker now, Breaker.idle_ofSettings breaker now⟩

theorem onPermissions_calm {activity : Activity Permissions α} :
    Keeps (Calm (ν := ν)) (onPermissions activity) :=
  fun _ calm => ⟨calm.duplicates, calm.challenges⟩

theorem onDuplicates_calm {activity : Instant → Activity (Duplicates DuplicateRecords) α}
    (keeps : ∀ now, Keeps Duplicates.Calm (activity now)) :
    Keeps (Calm (ν := ν)) (onDuplicates activity) :=
  fun gate calm => ⟨keeps gate.now calm.duplicates, calm.challenges⟩

theorem onChallenges_calm {activity : Instant → Activity (Challenges AttemptRecords ν) α}
    (keeps : ∀ now, Keeps Challenges.Calm (activity now)) :
    Keeps Calm (onChallenges activity) :=
  fun gate calm => ⟨calm.duplicates, keeps gate.now calm.challenges⟩

theorem holdAny_calm (held : Option Fingerprint) :
    Activity.Keeps (Calm (ν := ν)) (holdAny held) := by
  cases held with
  | none => exact .pure _
  | some fingerprint =>
    exact (onDuplicates_calm fun _ => Duplicates.hold_calm fingerprint).bind fun _ => .pure _

theorem releaseAny_calm (held : Option Fingerprint) :
    Activity.Keeps (Calm (ν := ν)) (releaseAny held) :=
  releaseAny_keeps fun fingerprint _ => onDuplicates_calm fun _ =>
    Duplicates.release_calm fingerprint

theorem settle_calm (pass : Pass) (ended : Except Fault (Except ε α)) :
    Keeps (Calm (ν := ν)) (settle pass ended) :=
  settle_keeps
    (fun fingerprint _ => onDuplicates_calm fun _ => Duplicates.release_calm fingerprint)
    (fun kind => onChallenges_calm fun _ => Challenges.record_calm ⟨pass.user, kind⟩) ended

variable [CaptchaVerifier ν]

theorem screen_calm (request : Request) : Keeps (Calm (ν := ν)) (screen request) :=
  screen_keeps
    (fun fingerprint _ => onDuplicates_calm fun _ => Duplicates.hold_calm fingerprint)
    (fun fingerprint _ => onDuplicates_calm fun _ => Duplicates.release_calm fingerprint)
    onPermissions_calm
    fun kind => onChallenges_calm fun _ =>
      Challenges.check_calm ⟨request.actor.id, kind⟩ request.token

/-! ### States that a gate comes to -/

/-- The states that a gate comes to from this one. A request may be settled at any time, whether or
not it has been let through, so that requests overlap in every way they can. The stores and the
verifier may change from outside, as the verifier does when captchas are issued. -/
inductive Reached (start : Gate DuplicateRecords AttemptRecords ν) :
    Gate DuplicateRecords AttemptRecords ν → Prop where
  | start : Reached start start
  | query {gate : Gate DuplicateRecords AttemptRecords ν} (query : PermissionQuery)
      (earlier : Reached start gate) :
      Reached start ((onPermissions (Permissions.evaluate query)).run gate).state
  | duplicates {gate : Gate DuplicateRecords AttemptRecords ν} (operation : Duplicates.Operation)
      (earlier : Reached start gate) :
      Reached start { gate with duplicates := operation.apply gate.now gate.duplicates }
  | challenges {gate : Gate DuplicateRecords AttemptRecords ν} (operation : Challenges.Operation)
      (earlier : Reached start gate) :
      Reached start { gate with challenges := operation.apply gate.now gate.challenges }
  | screened {gate : Gate DuplicateRecords AttemptRecords ν} (request : Request)
      (earlier : Reached start gate) : Reached start ((screen request).run gate).state
  | settled {gate : Gate DuplicateRecords AttemptRecords ν} {ε α : Type} (pass : Pass)
      (ended : Except Fault (Except ε α)) (earlier : Reached start gate) :
      Reached start ((settle pass ended).run gate).state
  | records {gate : Gate DuplicateRecords AttemptRecords ν}
      (change : DuplicateRecords → DuplicateRecords) (earlier : Reached start gate) :
      Reached start (gate.mapDuplicateStore change)
  | windows {gate : Gate DuplicateRecords AttemptRecords ν}
      (change : AttemptRecords → AttemptRecords) (earlier : Reached start gate) :
      Reached start (gate.mapAttemptStore change)
  | verifier {gate : Gate DuplicateRecords AttemptRecords ν} (change : ν → ν)
      (earlier : Reached start gate) : Reached start (gate.mapVerifier change)
  | reset {gate : Gate DuplicateRecords AttemptRecords ν} (earlier : Reached start gate) :
      Reached start gate.resetMetrics
  | waited {gate : Gate DuplicateRecords AttemptRecords ν} (length : Duration)
      (earlier : Reached start gate) : Reached start ((wait length).run gate).state

namespace Reached

variable {start gate : Gate DuplicateRecords AttemptRecords ν}

/-- Where an action goes from its gate to a state that it comes to, so does its request. -/
theorem runRequest (reached : Reached start gate) (request : Request)
    {action : Activity (Gate DuplicateRecords AttemptRecords ν) (Except ε α)}
    (acts : ∀ gate, Reached start gate → Reached start (action.run gate).state) :
    Reached start ((Gate.runRequest request action).run gate).state := by
  have before := reached.screened request
  rcases runRequest_cases request action gate with ⟨pass, _, _, left⟩ | ⟨_, _, left⟩
  · rw [left]
    exact (acts _ before).settled pass _
  · rw [left]
    exact before

theorem calm (reached : Reached start gate) (calm : start.Calm) : gate.Calm := by
  induction reached with
  | start => exact calm
  | query query _ inductionHypothesis =>
    exact onPermissions_calm inductionHypothesis
  | duplicates operation _ inductionHypothesis =>
    exact ⟨operation.apply_calm inductionHypothesis.duplicates, inductionHypothesis.challenges⟩
  | challenges operation _ inductionHypothesis =>
    exact ⟨inductionHypothesis.duplicates, operation.apply_calm inductionHypothesis.challenges⟩
  | screened request _ inductionHypothesis => exact screen_calm request inductionHypothesis
  | settled pass ended _ inductionHypothesis => exact settle_calm pass ended inductionHypothesis
  | records change _ inductionHypothesis =>
    exact ⟨inductionHypothesis.duplicates, inductionHypothesis.challenges⟩
  | windows change _ inductionHypothesis =>
    exact ⟨inductionHypothesis.duplicates, inductionHypothesis.challenges⟩
  | verifier change _ inductionHypothesis =>
    exact ⟨inductionHypothesis.duplicates, inductionHypothesis.challenges⟩
  | @reset gate _ inductionHypothesis =>
    unfold resetMetrics
    split
    · exact ⟨inductionHypothesis.duplicates, inductionHypothesis.challenges⟩
    · exact inductionHypothesis
  | @waited gate length _ inductionHypothesis =>
    obtain ⟨later, waited, _⟩ := state_wait length gate
    rw [waited]
    exact ⟨inductionHypothesis.duplicates, inductionHypothesis.challenges⟩

end Reached

end Gate

end Gatekeeper
