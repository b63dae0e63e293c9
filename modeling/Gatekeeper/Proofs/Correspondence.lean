/-
This file compares two gates whose stores differ in a way that no call notices. What the stores have
to do with each other is a parameter: a relation between them at each instant, which every call of
the gate has to keep and under which every call has to have the same reply. From that alone, and
without looking into any store, running a request at either gate has the same result and leaves
corresponding gates behind.

The counters can be left out of the comparison. Nothing that a gate does depends on them. The
comparison can also be confined to some fingerprints and to some users; then only requests within it
are sure to have the same result.
-/
import Gatekeeper.Gate.Holding
import Gatekeeper.Gate.Run
import Gatekeeper.Proofs.Alike
import Gatekeeper.Proofs.Screening

namespace Gatekeeper

open Activity (Alike Unnoticed)

variable {δ δ' κ κ' ν ν' α ε : Type}

/-! ### Corresponding parts -/

/-- The fingerprints and the users that a comparison is about. -/
structure Scope where
  fingerprints : Fingerprint → Bool
  users : String → Bool

namespace Scope

def everything : Scope := ⟨fun _ => true, fun _ => true⟩

/-- The actor is one of the users, and the request has no fingerprint or one of the fingerprints. -/
structure Covers (scope : Scope) (request : Request) : Prop where
  user : scope.users request.actor.id = true
  fingerprint : ∀ fingerprint ∈ request.fingerprint, scope.fingerprints fingerprint = true

/-- What is still owed is owed by one of the users, with no fingerprint or one of the fingerprints.
-/
structure CoversPass (scope : Scope) (pass : Pass) : Prop where
  user : scope.users pass.user = true
  held : ∀ fingerprint ∈ pass.held, scope.fingerprints fingerprint = true

/-- What is owed for a request that is covered is covered too. -/
theorem Covers.pass [DuplicateStore δ] [AttemptStore κ] [CaptchaVerifier ν] {scope : Scope}
    {request : Request} (covered : scope.Covers request) {gate : Gate δ κ ν} {pass : Pass}
    (screened : ((Gate.screen request).run gate).result = .ok (.ok pass)) :
    scope.CoversPass pass := by
  obtain ⟨_, _, rfl⟩ := (Gate.screen_result_eq_ok_iff request gate pass).mp screened
  exact ⟨covered.user, fun fingerprint entered =>
    covered.fingerprint fingerprint (Gate.mem_of_enteredFingerprint entered)⟩

theorem everything_covers (request : Request) : everything.Covers request :=
  ⟨rfl, fun _ _ => rfl⟩

theorem everything_coversPass (pass : Pass) : everything.CoversPass pass :=
  ⟨rfl, fun _ _ => rfl⟩

end Scope

/-- What the stores of two gates have to do with each other. -/
structure StoreRelation (δ δ' κ κ' ν ν' : Type) where
  scope : Scope
  /-- Whether the counters of the gates are compared too. -/
  counts : Prop
  duplicates : Instant → GuardedStore δ → GuardedStore δ' → Prop
  attempts : Instant → GuardedStore κ → GuardedStore κ' → Prop
  verifiers : Instant → ν → ν' → Prop

namespace StoreRelation

structure OnPermissions (relation : StoreRelation δ δ' κ κ' ν ν') (first second : Permissions) :
    Prop where
  rules : first.rules = second.rules
  tally : relation.counts → first.tally = second.tally

structure OnDuplicates (relation : StoreRelation δ δ' κ κ' ν ν') (now : Instant)
    (first : Duplicates δ) (second : Duplicates δ') : Prop where
  settings : first.settings = second.settings
  guarded : relation.duplicates now first.guarded second.guarded
  tally : relation.counts → first.tally = second.tally

structure OnChallenges (relation : StoreRelation δ δ' κ κ' ν ν') (now : Instant)
    (first : Challenges κ ν) (second : Challenges κ' ν') : Prop where
  settings : first.settings = second.settings
  guarded : relation.attempts now first.guarded second.guarded
  verifier : relation.verifiers now first.verifier second.verifier
  tally : relation.counts → first.tally = second.tally

/-- The gates show the same time, go by the same settings, and their stores are related. -/
structure OnGates (relation : StoreRelation δ δ' κ κ' ν ν') (first : Gate δ κ ν)
    (second : Gate δ' κ' ν') : Prop where
  now : first.now = second.now
  permissions : relation.OnPermissions first.permissions second.permissions
  duplicates : relation.OnDuplicates first.now first.duplicates second.duplicates
  challenges : relation.OnChallenges first.now first.challenges second.challenges
  sharesMetrics : first.sharesMetrics = second.sharesMetrics

/-- What the stores have to do with each other goes both ways. -/
structure Symmetric (relation : StoreRelation δ δ κ κ ν ν) : Prop where
  duplicates : ∀ ⦃now first second⦄, relation.duplicates now first second →
    relation.duplicates now second first
  attempts : ∀ ⦃now first second⦄, relation.attempts now first second →
    relation.attempts now second first
  verifiers : ∀ ⦃now first second⦄, relation.verifiers now first second →
    relation.verifiers now second first

theorem OnGates.symm {relation : StoreRelation δ δ κ κ ν ν} (symmetric : relation.Symmetric)
    {first second : Gate δ κ ν} (start : relation.OnGates first second) :
    relation.OnGates second first where
  now := start.now.symm
  permissions := ⟨start.permissions.rules.symm, fun counts => (start.permissions.tally counts).symm⟩
  duplicates := ⟨start.duplicates.settings.symm,
    start.now ▸ symmetric.duplicates start.duplicates.guarded,
    fun counts => (start.duplicates.tally counts).symm⟩
  challenges := ⟨start.challenges.settings.symm,
    start.now ▸ symmetric.attempts start.challenges.guarded,
    start.now ▸ symmetric.verifiers start.challenges.verifier,
    fun counts => (start.challenges.tally counts).symm⟩
  sharesMetrics := start.sharesMetrics.symm

/-- What the stores have to do with each other they have to do with what those have to do with. -/
structure Transitive (relation : StoreRelation δ δ κ κ ν ν) : Prop where
  duplicates : ∀ ⦃now first second third⦄, relation.duplicates now first second →
    relation.duplicates now second third → relation.duplicates now first third
  attempts : ∀ ⦃now first second third⦄, relation.attempts now first second →
    relation.attempts now second third → relation.attempts now first third
  verifiers : ∀ ⦃now first second third⦄, relation.verifiers now first second →
    relation.verifiers now second third → relation.verifiers now first third

theorem OnGates.trans {relation : StoreRelation δ δ κ κ ν ν} (transitive : relation.Transitive)
    {first second third : Gate δ κ ν} (start : relation.OnGates first second)
    (next : relation.OnGates second third) : relation.OnGates first third where
  now := start.now.trans next.now
  permissions := ⟨start.permissions.rules.trans next.permissions.rules,
    fun counts => (start.permissions.tally counts).trans (next.permissions.tally counts)⟩
  duplicates := ⟨start.duplicates.settings.trans next.duplicates.settings,
    transitive.duplicates start.duplicates.guarded (start.now ▸ next.duplicates.guarded),
    fun counts => (start.duplicates.tally counts).trans (next.duplicates.tally counts)⟩
  challenges := ⟨start.challenges.settings.trans next.challenges.settings,
    transitive.attempts start.challenges.guarded (start.now ▸ next.challenges.guarded),
    transitive.verifiers start.challenges.verifier (start.now ▸ next.challenges.verifier),
    fun counts => (start.challenges.tally counts).trans (next.challenges.tally counts)⟩
  sharesMetrics := start.sharesMetrics.trans next.sharesMetrics

/-- Every call within the scope that a gate makes of its stores has the same reply on both sides and
keeps the stores related. -/
structure Kept [DuplicateStore δ] [DuplicateStore δ'] [AttemptStore κ] [AttemptStore κ']
    [CaptchaVerifier ν] [CaptchaVerifier ν'] (relation : StoreRelation δ δ' κ κ' ν ν') : Prop where
  tryInsert : ∀ (now : Instant) (policy : FailurePolicy) (fingerprint : Fingerprint)
    (window : Duration), relation.scope.fingerprints fingerprint = true →
    Alike (relation.duplicates now)
      (GuardedStore.ask now policy .tryInsert (.fingerprint fingerprint) fun store : δ =>
        DuplicateStore.tryInsert store fingerprint now window)
      (GuardedStore.ask now policy .tryInsert (.fingerprint fingerprint) fun store : δ' =>
        DuplicateStore.tryInsert store fingerprint now window)
  remove : ∀ (now : Instant) (policy : FailurePolicy) (fingerprint : Fingerprint),
    relation.scope.fingerprints fingerprint = true →
    Alike (relation.duplicates now)
      (GuardedStore.ask now policy .remove (.fingerprint fingerprint) fun store : δ =>
        DuplicateStore.remove store fingerprint)
      (GuardedStore.ask now policy .remove (.fingerprint fingerprint) fun store : δ' =>
        DuplicateStore.remove store fingerprint)
  readAttempts : ∀ (now : Instant) (policy : FailurePolicy) (key : ChallengeKey),
    relation.scope.users key.user = true →
    Alike (relation.attempts now)
      (GuardedStore.ask now policy .readAttempts (.counter key) fun store : κ =>
        AttemptStore.attempts store key now)
      (GuardedStore.ask now policy .readAttempts (.counter key) fun store : κ' =>
        AttemptStore.attempts store key now)
  increment : ∀ (now : Instant) (policy : FailurePolicy) (key : ChallengeKey) (length : Duration),
    relation.scope.users key.user = true →
    Alike (relation.attempts now)
      (GuardedStore.ask now policy .increment (.counter key) fun store : κ =>
        AttemptStore.increment store key now length)
      (GuardedStore.ask now policy .increment (.counter key) fun store : κ' =>
        AttemptStore.increment store key now length)
  clearAttempts : ∀ (now : Instant) (policy : FailurePolicy) (key : ChallengeKey),
    relation.scope.users key.user = true →
    Alike (relation.attempts now)
      (GuardedStore.ask now policy .clearAttempts (.counter key) fun store : κ =>
        AttemptStore.clear store key)
      (GuardedStore.ask now policy .clearAttempts (.counter key) fun store : κ' =>
        AttemptStore.clear store key)
  verify : ∀ ⦃now : Instant⦄ ⦃first : ν⦄ ⦃second : ν'⦄, relation.verifiers now first second →
    ∀ (user : String) (kind : ActionKind) (token : CaptchaToken), relation.scope.users user = true →
      (CaptchaVerifier.verify first now user kind token).1 =
          (CaptchaVerifier.verify second now user kind token).1 ∧
        relation.verifiers now (CaptchaVerifier.verify first now user kind token).2
          (CaptchaVerifier.verify second now user kind token).2

variable {relation : StoreRelation δ δ' κ κ' ν ν'} {now : Instant}

/-! ### Permissions -/

theorem count_alike (decision : Decision) :
    Alike relation.OnPermissions (Permissions.count decision) (Permissions.count decision) := by
  refine Alike.change fun first second start => ⟨?_, fun counts => ?_⟩
  · cases decision <;> exact start.rules
  · have same := start.tally counts
    cases decision <;> simp only [same]

theorem evaluate_alike (query : PermissionQuery) :
    Alike relation.OnPermissions (Permissions.evaluate query) (Permissions.evaluate query) := by
  refine Alike.read fun first second start => ?_
  rw [start.rules]
  split
  · exact (count_alike _).bind fun _ => .pure _
  · split
    · refine Alike.bind (Alike.change fun _ _ given => ⟨given.rules, fun counts => ?_⟩) fun _ =>
        (Alike.log _).bind fun _ => .pure _
      simp only [given.tally counts]
    · exact (count_alike _).bind fun _ => (Alike.log _).bind fun _ => .pure _

theorem authorize_alike (query : PermissionQuery) :
    Alike relation.OnPermissions (Permissions.authorize query) (Permissions.authorize query) := by
  refine (evaluate_alike query).bind fun decided => ?_
  rcases decided with rejection | decision
  · exact .pure _
  · cases decision <;> exact .pure _

/-! ### Duplicates -/

/-- Asking the store is alike for the parts when it is for the guarded stores. -/
theorem ask_alike_duplicates {call : StoreCall} {fingerprint : Fingerprint}
    {question : δ → Reply α × δ} {question' : δ' → Reply α × δ'}
    (kept : ∀ policy, Alike (relation.duplicates now)
      (GuardedStore.ask now policy call (.fingerprint fingerprint) question)
      (GuardedStore.ask now policy call (.fingerprint fingerprint) question')) :
    Alike (relation.OnDuplicates now) (Duplicates.ask now call fingerprint question)
      (Duplicates.ask now call fingerprint question') := by
  refine Alike.read fun first second start => ?_
  rw [start.settings]
  exact Alike.on (fun _ _ given => given.guarded)
    (fun _ _ _ _ given guarded => ⟨given.settings, guarded, given.tally⟩) (kept _)

theorem count_alike_duplicates (update : DuplicateTally → DuplicateTally) :
    Alike (relation.OnDuplicates now) (Duplicates.count update) (Duplicates.count update) :=
  Alike.change fun _ _ given =>
    ⟨given.settings, given.guarded, fun counts => congrArg update (given.tally counts)⟩

section Duplicates

variable [DuplicateStore δ] [DuplicateStore δ'] [AttemptStore κ] [AttemptStore κ']
  [CaptchaVerifier ν] [CaptchaVerifier ν']

namespace Kept

theorem enter (kept : relation.Kept) (now : Instant) {fingerprint : Fingerprint}
    (covered : relation.scope.fingerprints fingerprint = true) :
    Alike (relation.OnDuplicates now) (Duplicates.enter now fingerprint)
      (Duplicates.enter now fingerprint) := by
  intro first second start
  obtain ⟨sameAnswer, asked⟩ := ask_alike_duplicates (fun policy =>
    kept.tryInsert now policy fingerprint first.settings.window covered) start
  rw [Duplicates.run_enter, Duplicates.run_enter]
  unfold Duplicates.entry
  dsimp only
  rw [← start.settings, ← sameAnswer]
  split
  · exact ⟨rfl, asked.settings, asked.guarded, fun counts => by rw [asked.tally counts]⟩
  · exact ⟨rfl, asked⟩

theorem release (kept : relation.Kept) (now : Instant) {fingerprint : Fingerprint}
    (covered : relation.scope.fingerprints fingerprint = true) :
    Alike (relation.OnDuplicates now) (Duplicates.release now fingerprint)
      (Duplicates.release now fingerprint) := by
  refine (ask_alike_duplicates fun policy => kept.remove now policy _ covered).bind fun answer => ?_
  cases answer with
  | none => exact .pure _
  | some answer => exact (count_alike_duplicates _).bind fun _ => .log _

theorem hold (kept : relation.Kept) (now : Instant) {fingerprint : Fingerprint}
    (covered : relation.scope.fingerprints fingerprint = true) :
    Alike (relation.OnDuplicates now) (Duplicates.hold now fingerprint)
      (Duplicates.hold now fingerprint) := by
  refine (kept.enter now covered).bind fun admission => ?_
  cases admission <;> exact .pure _

end Kept

end Duplicates

/-! ### Challenges -/

theorem ask_alike_challenges {call : StoreCall} {key : ChallengeKey}
    {question : κ → Reply α × κ} {question' : κ' → Reply α × κ'}
    (kept : ∀ policy, Alike (relation.attempts now)
      (GuardedStore.ask now policy call (.counter key) question)
      (GuardedStore.ask now policy call (.counter key) question')) :
    Alike (relation.OnChallenges now) (Challenges.ask now call key question)
      (Challenges.ask now call key question') := by
  refine Alike.read fun first second start => ?_
  rw [start.settings]
  exact Alike.on (fun _ _ given => given.guarded)
    (fun _ _ _ _ given guarded => ⟨given.settings, guarded, given.verifier, given.tally⟩) (kept _)

theorem count_alike_challenges (update : ChallengeTally → ChallengeTally) :
    Alike (relation.OnChallenges now) (Challenges.count update) (Challenges.count update) :=
  Alike.change fun _ _ given => ⟨given.settings, given.guarded, given.verifier,
    fun counts => congrArg update (given.tally counts)⟩

namespace Kept

variable [DuplicateStore δ] [DuplicateStore δ'] [AttemptStore κ] [AttemptStore κ']
  [CaptchaVerifier ν] [CaptchaVerifier ν']

theorem attempts (kept : relation.Kept) (now : Instant) {key : ChallengeKey}
    (covered : relation.scope.users key.user = true) :
    Alike (relation.OnChallenges now) (Challenges.attempts now key) (Challenges.attempts now key) :=
  ask_alike_challenges fun policy => kept.readAttempts now policy key covered

theorem level (kept : relation.Kept) (now : Instant) {key : ChallengeKey}
    (covered : relation.scope.users key.user = true) :
    Alike (relation.OnChallenges now) (Challenges.level now key) (Challenges.level now key) := by
  refine Alike.read fun first second start => ?_
  unfold Challenges.limit
  rw [start.settings]
  dsimp only
  split
  · exact .pure _
  · refine (kept.attempts now covered).bind fun answer => ?_
    cases answer with
    | some attempts => exact .pure _
    | none => cases second.settings.onStoreError <;> exact .pure _

theorem record (kept : relation.Kept) (now : Instant) {key : ChallengeKey}
    (covered : relation.scope.users key.user = true) :
    Alike (relation.OnChallenges now) (Challenges.record now key) (Challenges.record now key) := by
  refine Alike.read fun first second start => ?_
  unfold Challenges.limit
  rw [start.settings]
  refine (ask_alike_challenges fun policy => kept.increment now policy key _ covered).bind
    fun answer => ?_
  cases answer with
  | none => exact .pure _
  | some attempts =>
    exact (count_alike_challenges _).bind fun _ => (Alike.log _).bind fun _ => .pure _

theorem consult (kept : relation.Kept) (now : Instant) {key : ChallengeKey}
    (covered : relation.scope.users key.user = true) (token : CaptchaToken) :
    Alike (relation.OnChallenges now) (Challenges.consult now key token)
      (Challenges.consult now key token) := by
  intro first second start
  obtain ⟨sameReply, verifiers⟩ := kept.verify start.verifier key.user key.kind token covered
  simp only [Activity.run, Challenges.consult, ← sameReply]
  cases (CaptchaVerifier.verify first.verifier now key.user key.kind token).1 with
  | answer passed => exact ⟨rfl, start.settings, start.guarded, verifiers, start.tally⟩
  | refused error =>
    exact ⟨rfl, start.settings, start.guarded, verifiers, fun counts => by
      simp only [start.tally counts]⟩
  | fault fault => exact ⟨rfl, start.settings, start.guarded, verifiers, start.tally⟩

theorem verification (kept : relation.Kept) (now : Instant) {key : ChallengeKey}
    (covered : relation.scope.users key.user = true) (token : CaptchaToken) :
    Alike (relation.OnChallenges now) (Challenges.verify now key token)
      (Challenges.verify now key token) := by
  refine (kept.consult now covered token).bind fun passed => ?_
  cases passed
  · exact (count_alike_challenges _).bind fun _ => (Alike.log _).bind fun _ => .pure _
  · refine (count_alike_challenges _).bind fun _ => ?_
    refine (ask_alike_challenges fun policy => kept.clearAttempts now policy key covered).bind
      fun _ => ?_
    exact (Alike.log _).bind fun _ => .pure _

theorem check (kept : relation.Kept) (now : Instant) {key : ChallengeKey}
    (covered : relation.scope.users key.user = true) (token : Option CaptchaToken) :
    Alike (relation.OnChallenges now) (Challenges.check now key token)
      (Challenges.check now key token) := by
  refine (kept.level now covered).bind fun level => ?_
  split
  · cases token with
    | none => exact (count_alike_challenges _).bind fun _ => .pure _
    | some given =>
      refine (kept.verification now covered given).bind fun verification => ?_
      cases verification <;> exact .pure _
  · exact .pure _

end Kept

/-! ### Gates -/

theorem onPermissions_alike {activity : Activity Permissions α}
    (alike : Alike relation.OnPermissions activity activity) :
    Alike relation.OnGates (Gate.onPermissions activity : Activity (Gate δ κ ν) α)
      (Gate.onPermissions activity) :=
  Alike.on (fun _ _ start => start.permissions)
    (fun _ _ _ _ start permissions =>
      ⟨start.now, permissions, start.duplicates, start.challenges, start.sharesMetrics⟩) alike

/-- What the duplicates do is alike at the gates if it is at every instant. -/
theorem onDuplicates_alike {activity : Instant → Activity (Duplicates δ) α}
    {activity' : Instant → Activity (Duplicates δ') α}
    (alike : ∀ now, Alike (relation.OnDuplicates now) (activity now) (activity' now)) :
    Alike relation.OnGates (Gate.onDuplicates activity : Activity (Gate δ κ ν) α)
      (Gate.onDuplicates activity' : Activity (Gate δ' κ' ν') α) := by
  intro first second start
  obtain ⟨sameResult, duplicates⟩ := alike first.now start.duplicates
  refine ⟨?_, start.now, start.permissions, ?_, start.challenges, start.sharesMetrics⟩
  · rw [Gate.run_onDuplicates, Gate.run_onDuplicates, ← start.now]
    exact sameResult
  · rw [Gate.run_onDuplicates, Gate.run_onDuplicates, ← start.now]
    exact duplicates

theorem onChallenges_alike {activity : Instant → Activity (Challenges κ ν) α}
    {activity' : Instant → Activity (Challenges κ' ν') α}
    (alike : ∀ now, Alike (relation.OnChallenges now) (activity now) (activity' now)) :
    Alike relation.OnGates (Gate.onChallenges activity : Activity (Gate δ κ ν) α)
      (Gate.onChallenges activity' : Activity (Gate δ' κ' ν') α) := by
  intro first second start
  obtain ⟨sameResult, challenges⟩ := alike first.now start.challenges
  refine ⟨?_, start.now, start.permissions, start.duplicates, ?_, start.sharesMetrics⟩
  · rw [Gate.run_onChallenges, Gate.run_onChallenges, ← start.now]
    exact sameResult
  · rw [Gate.run_onChallenges, Gate.run_onChallenges, ← start.now]
    exact challenges

/-- What the duplicates do goes unnoticed at the gates if it does at every instant. -/
theorem onDuplicates_unnoticed {activity : Instant → Activity (Duplicates δ) α}
    (unnoticed : ∀ now, Unnoticed (relation.OnDuplicates now) (activity now)) :
    Unnoticed relation.OnGates (Gate.onDuplicates activity : Activity (Gate δ κ ν) α) := by
  intro first second start
  obtain ⟨value, ended, duplicates⟩ := unnoticed first.now start.duplicates
  exact ⟨value, ended, start.now, start.permissions, duplicates, start.challenges,
    start.sharesMetrics⟩

theorem onChallenges_unnoticed {activity : Instant → Activity (Challenges κ ν) α}
    (unnoticed : ∀ now, Unnoticed (relation.OnChallenges now) (activity now)) :
    Unnoticed relation.OnGates (Gate.onChallenges activity : Activity (Gate δ κ ν) α) := by
  intro first second start
  obtain ⟨value, ended, challenges⟩ := unnoticed first.now start.challenges
  exact ⟨value, ended, start.now, start.permissions, start.duplicates, challenges,
    start.sharesMetrics⟩

namespace OnGates

variable {first : Gate δ κ ν} {second : Gate δ' κ' ν'}

theorem enteredFingerprint (start : relation.OnGates first second) (request : Request) :
    first.enteredFingerprint request = second.enteredFingerprint request := by
  unfold Gate.enteredFingerprint
  rw [start.duplicates.settings]

theorem isExempt (start : relation.OnGates first second) (actor : Actor) :
    first.isExempt actor = second.isExempt actor := by
  unfold Gate.isExempt Gate.hasExemptRank Challenges.isExempt
  rw [start.challenges.settings, start.permissions.rules]

theorem challengedKind (start : relation.OnGates first second) (request : Request) :
    first.challengedKind request = second.challengedKind request := by
  unfold Gate.challengedKind
  rw [start.isExempt]

end OnGates

namespace Kept

variable [DuplicateStore δ] [DuplicateStore δ'] [AttemptStore κ] [AttemptStore κ']
  [CaptchaVerifier ν] [CaptchaVerifier ν']

theorem holdAny (kept : relation.Kept) {fingerprint : Option Fingerprint}
    (covered : ∀ entered ∈ fingerprint, relation.scope.fingerprints entered = true) :
    Alike relation.OnGates (Gate.holdAny fingerprint : Activity (Gate δ κ ν) _)
      (Gate.holdAny fingerprint : Activity (Gate δ' κ' ν') _) := by
  cases fingerprint with
  | none => exact .pure _
  | some fingerprint =>
    exact (onDuplicates_alike fun now => kept.hold now (covered fingerprint rfl)).bind
      fun _ => .pure _

theorem releaseAny (kept : relation.Kept) {fingerprint : Option Fingerprint}
    (covered : ∀ entered ∈ fingerprint, relation.scope.fingerprints entered = true) :
    Alike relation.OnGates (Gate.releaseAny fingerprint : Activity (Gate δ κ ν) _)
      (Gate.releaseAny fingerprint : Activity (Gate δ' κ' ν') _) := by
  cases fingerprint with
  | none => exact .pure _
  | some fingerprint =>
    exact onDuplicates_alike fun now => kept.release now (covered fingerprint rfl)

theorem releasingOnFault (kept : relation.Kept) {fingerprint : Option Fingerprint}
    (covered : ∀ entered ∈ fingerprint, relation.scope.fingerprints entered = true)
    {first : Activity (Gate δ κ ν) α} {second : Activity (Gate δ' κ' ν') α}
    (alike : Alike relation.OnGates first second) :
    Alike relation.OnGates (Gate.releasingOnFault fingerprint first)
      (Gate.releasingOnFault fingerprint second) := by
  refine alike.attempt.bind fun outcome => ?_
  cases outcome with
  | ok value => exact .pure _
  | error fault => exact (kept.releaseAny covered).bind fun _ => .fault _

theorem recordAny (kept : relation.Kept) {user : String}
    (covered : relation.scope.users user = true) (kind : Option ActionKind) :
    Alike relation.OnGates (Gate.recordAny user kind : Activity (Gate δ κ ν) _)
      (Gate.recordAny user kind : Activity (Gate δ' κ' ν') _) := by
  cases kind with
  | none => exact .pure _
  | some kind => exact (onChallenges_alike fun now => kept.record now covered).bind fun _ => .pure _

theorem settle (kept : relation.Kept) {pass : Pass} (covered : relation.scope.CoversPass pass)
    (ended : Except Fault (Except ε α)) :
    Alike relation.OnGates (Gate.settle pass ended : Activity (Gate δ κ ν) _)
      (Gate.settle pass ended : Activity (Gate δ' κ' ν') _) := by
  refine Alike.bind (kept.releasingOnFault covered.held ?_) fun result => ?_
  · cases ended with
    | ok result => exact (kept.recordAny covered.user _).bind fun _ => .pure _
    | error fault => exact .fault _
  · cases result with
    | ok value => exact (Alike.log _).bind fun _ => .pure _
    | error error => exact (kept.releaseAny covered.held).bind fun _ => .pure _

theorem checkAny (kept : relation.Kept) {user : String}
    (covered : relation.scope.users user = true) (kind : Option ActionKind)
    (token : Option CaptchaToken) :
    Alike relation.OnGates (Gate.checkAny user kind token : Activity (Gate δ κ ν) _)
      (Gate.checkAny user kind token : Activity (Gate δ' κ' ν') _) := by
  cases kind with
  | none => exact .pure _
  | some kind => exact onChallenges_alike fun now => kept.check now covered token

theorem checks (kept : relation.Kept) {request : Request}
    (covered : relation.scope.users request.actor.id = true) (kind : Option ActionKind) :
    Alike relation.OnGates (Gate.checks request kind : Activity (Gate δ κ ν) _)
      (Gate.checks request kind : Activity (Gate δ' κ' ν') _) := by
  have permission : Alike relation.OnGates
      (Gate.onPermissions (Permissions.authorize request.query) : Activity (Gate δ κ ν) _)
      (Gate.onPermissions (Permissions.authorize request.query) : Activity (Gate δ' κ' ν') _) :=
    onPermissions_alike (authorize_alike request.query)
  have challenge := kept.checkAny covered kind request.token
  unfold Gate.checks
  cases request.order with
  | permissionFirst =>
    refine permission.bind fun permitted => ?_
    cases permitted with
    | ok granted => exact challenge
    | error rejection => exact .pure _
  | challengeFirst =>
    refine challenge.bind fun passed => ?_
    cases passed with
    | ok granted => exact permission
    | error rejection => exact .pure _

theorem screen (kept : relation.Kept) {request : Request}
    (covered : relation.scope.Covers request) :
    Alike relation.OnGates (Gate.screen request : Activity (Gate δ κ ν) _)
      (Gate.screen request : Activity (Gate δ' κ' ν') _) := by
  refine Alike.read fun first second start => ?_
  rw [start.enteredFingerprint, start.challengedKind]
  have entered : ∀ fingerprint ∈ second.enteredFingerprint request,
      relation.scope.fingerprints fingerprint = true :=
    fun fingerprint member => covered.fingerprint fingerprint
      (Gate.mem_of_enteredFingerprint member)
  refine (kept.holdAny entered).bind fun held => ?_
  cases held with
  | error rejection => exact .pure _
  | ok held =>
    refine Alike.bind (kept.releasingOnFault entered (kept.checks covered.user _)) fun checked => ?_
    cases checked with
    | ok granted => exact .pure _
    | error rejection => exact (kept.releaseAny entered).bind fun _ => .pure _

/-- A request has the same result at both gates, if its own action has, wherever the gates have
their places. -/
theorem runRequestWithin (kept : relation.Kept) {request : Request}
    (covered : relation.scope.Covers request) {σ τ : Type} {related : σ → τ → Prop}
    {place : Place σ (Gate δ κ ν)} {place' : Place τ (Gate δ' κ' ν')}
    (toGate : ∀ ⦃state other⦄, related state other →
      relation.OnGates (place.read state) (place'.read other))
    (ofGate : ∀ ⦃state other gate gate'⦄, related state other → relation.OnGates gate gate' →
      related (place.write gate state) (place'.write gate' other))
    {action : Activity σ (Except ε α)} {action' : Activity τ (Except ε α)}
    (alike : Alike related action action') :
    Alike related (Gate.runRequestWithin place request action)
      (Gate.runRequestWithin place' request action') := by
  refine Alike.bind_result (.on toGate ofGate (kept.screen covered))
    fun state screened let_through => ?_
  cases screened with
  | ok pass =>
    have owed : relation.scope.CoversPass pass := covered.pass let_through
    exact alike.attempt.bind fun ended => .on toGate ofGate (kept.settle owed ended)
  | error rejection => exact .pure _

end Kept

end StoreRelation

end Gatekeeper
