/-
This file proves that a request keeps to itself. Whatever it does to the stores of a gate in memory,
it does at its own fingerprint, at the counters of its own user, and at the captcha it answers. So a
request from outside the scope of a comparison leaves a gate in correspondence with whatever the
gate was in correspondence with before, provided that the captcha it answers has not been issued
within the scope.

What a request does to a gate is put together from what it does to the parts. An invariant is kept
by the whole if each of these calls keeps it.
-/
import Gatekeeper.Proofs.Footprint
import Gatekeeper.Proofs.Upkeep

namespace Gatekeeper

open Activity (Keeps)

variable {δ κ ν α ε : Type}

/-! ### What a desk registers -/

/-- The captchas on the desk that have been issued to some users have these identifiers. -/
def CaptchaDesk.Registers (users : String → Bool) (ids : String → Prop)
    (desk : CaptchaDesk) : Prop :=
  ∀ ⦃id captcha⦄, desk.issued.get? id = some captcha → users captcha.user = true → ids id

namespace CaptchaDesk

variable {desk : CaptchaDesk} {users : String → Bool} {ids : String → Prop}

theorem Registers.verify (registers : desk.Registers users ids) (now : Instant) (user : String)
    (kind : ActionKind) (token : CaptchaToken) :
    (desk.verify now user kind token).2.Registers users ids := by
  intro id captcha issued seen
  have erased : (desk.issued.erase token.id).get? id = some captcha := issued
  rw [KeyedStore.get?_erase] at erased
  split at erased
  · cases erased
  · exact registers erased seen

/-- The desk registers what it issues if the new identifier is registered. -/
theorem Registers.issue (registers : desk.Registers users ids) (now : Instant) {user : String}
    (kind : ActionKind) (answer : String)
    (new : ∀ id, (desk.issue now user kind answer).1 = .ok id → users user = true → ids id) :
    (desk.issue now user kind answer).2.Registers users ids := by
  unfold CaptchaDesk.issue at new ⊢
  dsimp only at new ⊢
  cases within : now.after? desk.life with
  | none => exact registers
  | some expiresAt =>
    rw [within] at new
    intro id captcha issued seen
    dsimp only at issued
    rw [KeyedStore.get?_insert] at issued
    split at issued
    · next same =>
      cases issued
      exact same ▸ new _ rfl seen
    · exact registers issued seen

end CaptchaDesk

/-! ### Calls from outside the scope -/

open StoreRelation

variable {scope : Scope} {now : Instant}

namespace Duplicates

variable {fingerprint : Fingerprint} {first second : Duplicates DuplicateRecords}

end Duplicates

namespace Challenges

variable {key : ChallengeKey} {first second : Challenges AttemptRecords CaptchaDesk}

end Challenges

/-! ### What is kept by the whole of a request -/

namespace Gate

variable {invariant : Gate δ κ ν → Prop} [DuplicateStore δ]

theorem releaseAny_keeps {fingerprint : Option Fingerprint}
    (release : ∀ entered ∈ fingerprint,
      Keeps invariant (onDuplicates fun now => Duplicates.release now entered)) :
    Keeps invariant (releaseAny fingerprint) := by
  cases fingerprint with
  | none => exact .pure _
  | some fingerprint => exact release fingerprint rfl

theorem releasingOnFault_keeps {fingerprint : Option Fingerprint}
    (release : ∀ entered ∈ fingerprint,
      Keeps invariant (onDuplicates fun now => Duplicates.release now entered))
    {activity : Activity (Gate δ κ ν) α} (keeps : Keeps invariant activity) :
    Keeps invariant (releasingOnFault fingerprint activity) := by
  refine keeps.attempt.bind fun outcome => ?_
  cases outcome with
  | ok value => exact .pure _
  | error fault => exact (releaseAny_keeps release).bind fun _ => .fault _

variable [AttemptStore κ]

omit [DuplicateStore δ] in
/-- Before anything is given back, settling a request records its attempt, if anything. -/
theorem recording_keeps {pass : Pass}
    (record : ∀ kind,
      Keeps invariant (onChallenges fun now => Challenges.record now ⟨pass.user, kind⟩))
    (ended : Except Fault (Except ε α)) :
    Keeps invariant (match ended with
      | .ok result => do
        recordAny pass.user pass.counted
        return result
      | .error fault => .fault fault) := by
  cases ended with
  | error fault => exact .fault _
  | ok result =>
    refine Keeps.bind ?_ fun _ => .pure _
    cases pass.counted with
    | none => exact .pure _
    | some kind => exact (record kind).bind fun _ => .pure _

/-- Settling a request releases its fingerprint and records its attempt, if anything. -/
theorem settle_keeps {pass : Pass}
    (release : ∀ entered ∈ pass.held,
      Keeps invariant (onDuplicates fun now => Duplicates.release now entered))
    (record : ∀ kind,
      Keeps invariant (onChallenges fun now => Challenges.record now ⟨pass.user, kind⟩))
    (ended : Except Fault (Except ε α)) : Keeps invariant (settle pass ended) := by
  refine Keeps.bind (releasingOnFault_keeps release (recording_keeps record ended)) fun result => ?_
  cases result with
  | ok value => exact (Keeps.log _).bind fun _ => .pure _
  | error error => exact (releaseAny_keeps release).bind fun _ => .pure _

variable [CaptchaVerifier ν]

omit [DuplicateStore δ] in
theorem checks_keeps {request : Request}
    (permission : Keeps invariant (onPermissions (Permissions.authorize request.query)))
    (check : ∀ kind, Keeps invariant
      (onChallenges fun now => Challenges.check now ⟨request.actor.id, kind⟩ request.token))
    (kind : Option ActionKind) : Keeps invariant (checks request kind) := by
  have challenge : Keeps invariant (checkAny request.actor.id kind request.token) := by
    cases kind with
    | none => exact .pure _
    | some kind => exact check kind
  unfold checks
  cases request.order with
  | permissionFirst =>
    refine permission.bind fun permitted => ?_
    cases permitted with
    | ok granted => exact challenge
    | error rejection => exact .pure _
  | challengeFirst =>
    refine challenge.bind fun passed => ?_
    cases passed with
    | ok granted => exact permission
    | error rejection => exact .pure _

/-- Screening a request enters and releases its fingerprint, asks for its permission and checks its
challenge, if anything. -/
theorem screen_keeps {request : Request}
    (hold : ∀ entered ∈ request.fingerprint,
      Keeps invariant (onDuplicates fun now => Duplicates.hold now entered))
    (release : ∀ entered ∈ request.fingerprint,
      Keeps invariant (onDuplicates fun now => Duplicates.release now entered))
    (permission : Keeps invariant (onPermissions (Permissions.authorize request.query)))
    (check : ∀ kind, Keeps invariant
      (onChallenges fun now => Challenges.check now ⟨request.actor.id, kind⟩ request.token)) :
    Keeps invariant (screen request) := by
  refine Keeps.read fun gate => ?_
  have released : ∀ entered ∈ gate.enteredFingerprint request,
      Keeps invariant (onDuplicates fun now => Duplicates.release now entered) :=
    fun entered member => release entered (mem_of_enteredFingerprint member)
  refine Keeps.bind ?_ fun held => ?_
  · cases entered : gate.enteredFingerprint request with
    | none => exact .pure _
    | some fingerprint =>
      exact (hold fingerprint (mem_of_enteredFingerprint entered)).bind fun _ => .pure _
  · cases held with
    | error rejection => exact .pure _
    | ok held =>
      refine (releasingOnFault_keeps released (checks_keeps permission check _)).bind
        fun checked => ?_
      cases checked with
      | ok granted => exact .pure _
      | error rejection => exact (releaseAny_keeps released).bind fun _ => .pure _

end Gate

/-! ### Requests and what the desk registers -/

/-- Logging what has been done adds nothing to it. -/
theorem Activity.run_logging {σ : Type} (activity : Activity σ α) (event : Event) (state : σ) :
    let outcome := (activity >>= fun value => log event >>= fun _ => pure value).run state
    outcome.result = (activity.run state).result ∧ outcome.state = (activity.run state).state := by
  dsimp only
  rw [run_bind]
  cases (activity.run state).result <;> exact ⟨rfl, rfl⟩

namespace Challenges

variable {users : String → Bool} {ids : String → Prop}

/-- The desk of the challenges registers its captchas. -/
def Registers (users : String → Bool) (ids : String → Prop)
    (challenges : Challenges κ CaptchaDesk) : Prop :=
  challenges.verifier.Registers users ids

theorem ask_registers {call : StoreCall} {key : ChallengeKey} {question : κ → Reply α × κ} :
    Keeps (Registers users ids : Challenges κ CaptchaDesk → Prop)
      (ask now call key question) := by
  intro challenges registers
  rw [run_ask]
  exact registers

theorem count_registers (update : ChallengeTally → ChallengeTally) :
    Keeps (Registers users ids : Challenges κ CaptchaDesk → Prop)
      (count update) :=
  fun _ registers => registers

theorem consult_registers (now : Instant) (key : ChallengeKey) (token : CaptchaToken) :
    Keeps (Registers users ids : Challenges κ CaptchaDesk → Prop)
      (consult now key token) :=
  fun _ registers => registers.verify now key.user key.kind token

variable [AttemptStore κ]

theorem record_registers (now : Instant) (key : ChallengeKey) :
    Keeps (Registers users ids : Challenges κ CaptchaDesk → Prop)
      (record now key) := by
  refine Keeps.read fun challenges => ask_registers.bind fun answer => ?_
  cases answer with
  | none => exact .pure _
  | some attempts => exact (count_registers _).bind fun _ => (Keeps.log _).bind fun _ => .pure _

theorem verify_registers (now : Instant) (key : ChallengeKey) (token : CaptchaToken) :
    Keeps (Registers users ids : Challenges κ CaptchaDesk → Prop)
      (verify now key token) := by
  refine (consult_registers now key token).bind fun passed => ?_
  cases passed
  · exact (count_registers _).bind fun _ => (Keeps.log _).bind fun _ => .pure _
  · refine (count_registers _).bind fun _ => ask_registers.bind fun _ => ?_
    exact (Keeps.log _).bind fun _ => .pure _

theorem check_registers (now : Instant) (key : ChallengeKey) (token : Option CaptchaToken) :
    Keeps (Registers users ids : Challenges κ CaptchaDesk → Prop)
      (check now key token) := by
  have level : Keeps (Registers users ids : Challenges κ CaptchaDesk → Prop)
      (level now key) := by
    intro challenges registers
    rw [Registers, level_verifier]
    exact registers
  refine level.bind fun level => ?_
  split
  · cases token with
    | none => exact (count_registers _).bind fun _ => .pure _
    | some given =>
      refine (verify_registers now key given).bind fun verification => ?_
      cases verification <;> exact .pure _
  · exact .pure _

end Challenges

namespace Gate

variable {users : String → Bool} {ids : String → Prop}

/-- The desk of the gate registers its captchas. -/
def Registers (users : String → Bool) (ids : String → Prop) (gate : Gate δ κ CaptchaDesk) : Prop :=
  gate.challenges.Registers users ids

variable [DuplicateStore δ] [AttemptStore κ]

/-- No request takes an identifier that is not registered to the desk. -/
theorem screen_registers (request : Request) :
    Keeps (Registers users ids : Gate δ κ CaptchaDesk → Prop) (screen request) :=
  screen_keeps (fun _ _ _ registers => registers) (fun _ _ _ registers => registers)
    (fun _ registers => registers)
    fun kind gate registers =>
      Challenges.check_registers gate.now ⟨request.actor.id, kind⟩ request.token registers

theorem settle_registers (pass : Pass) (ended : Except Fault (Except ε α)) :
    Keeps (Registers users ids : Gate δ κ CaptchaDesk → Prop) (settle pass ended) :=
  settle_keeps (fun _ _ _ registers => registers)
    (fun kind gate => @Challenges.record_registers _ _ _ _ gate.now ⟨pass.user, kind⟩ _) ended

omit [DuplicateStore δ] [AttemptStore κ] in
/-- What a gate issues is what its desk issues. -/
theorem run_issue (user : String) (kind : ActionKind) (answer : String)
    (gate : Gate δ κ CaptchaDesk) :
    let outcome := (issue user kind answer).run gate
    let issued := gate.challenges.verifier.issue gate.now user kind answer
    outcome.result = issued.1 ∧ outcome.state.challenges.verifier = issued.2 := by
  obtain ⟨sameResult, sameState⟩ := Activity.run_logging (onChallenges fun now challenges =>
    let (id, verifier) := CaptchaIssuer.issue challenges.verifier now user kind answer
    ⟨id, { challenges with verifier := verifier }, []⟩) (.captchaIssued user kind) gate
  exact ⟨sameResult, congrArg (fun gate => gate.challenges.verifier) sameState⟩

omit [DuplicateStore δ] [AttemptStore κ] in
theorem issue_registers {user : String} (kind : ActionKind) (answer : String)
    {gate : Gate δ κ CaptchaDesk} (registers : gate.Registers users ids)
    (new : ∀ id, ((issue user kind answer).run gate).result = .ok id → users user = true →
      ids id) : ((issue user kind answer).run gate).state.Registers users ids := by
  obtain ⟨sameResult, sameDesk⟩ := run_issue user kind answer gate
  rw [sameResult] at new
  rw [Registers, Challenges.Registers, sameDesk]
  exact CaptchaDesk.Registers.issue registers gate.now kind answer new

end Gate

/-! ### Requests from outside the scope -/

namespace Gate

variable {ids : String → Prop} {other : MemoryGate}

end Gate

end Gatekeeper
