/-
This file compares the two orders of the checks. The permission and the challenge of a request touch
different parts of a gate, and neither looks at what the other touches. So where both let the
request through they leave the same gate, whichever comes first, and the action is carried out at it
in either order or in neither. The order only decides what a request is told that both would turn
away, and what a check that comes second is spared: a request that its permission turns away first
leaves the challenges as they were.
-/
import Gatekeeper.Proofs.Faultless
import Gatekeeper.Proofs.TurnedAway
import Gatekeeper.Proofs.Verdicts

namespace Gatekeeper

variable {δ κ ν α ε : Type}

/-! ### Requests in either order -/

namespace Request

/-- The same request, with its checks in this order. -/
def inOrder (request : Request) (order : CheckOrder) : Request :=
  { request with order := order }

/-- What the challenge of a kind tells a request that it turns away. -/
def challengeRejection (request : Request) (kind : ActionKind) : Rejection :=
  match request.token with
  | none => .challengeRequired kind
  | some _ => .challengeFailed kind

end Request

/-! ### One check at a time -/

namespace Challenges

variable (now : Instant) (key : ChallengeKey) (challenges : Challenges AttemptRecords CaptchaDesk)

/-- A desk always has an answer, and clearing a counter cannot cut it short. -/
theorem verify_ends (token : CaptchaToken) :
    ∃ verification, ((verify now key token).run challenges).result = .ok verification := by
  rw [verify, Activity.run_bind, run_consult]
  dsimp only [CaptchaVerifier.verify]
  cases (challenges.verifier.verify now key.user key.kind token).1
  · exact ⟨_, rfl⟩
  · refine ⟨.passed, ?_⟩
    simp only [if_true, count, Activity.run_bind, Activity.run_change]
    split
    · rfl
    · next ended => exact absurd ended (clear_ne_error now key _ AttemptRecords.replies _)

/-- A check ends, and what it says to a request that it turns away depends on whether the request
has come with an answer. -/
theorem check_ends (token : Option CaptchaToken) :
    ∃ answer, ((check now key token).run challenges).result = .ok answer ∧
      ∀ rejection, answer = .error rejection → rejection = match token with
        | none => .challengeRequired key.kind
        | some _ => .challengeFailed key.kind := by
  obtain ⟨level, read, -⟩ := level_result now key challenges AttemptRecords.replies
  rw [check.eq_def, Activity.run_bind_of_ok read]
  cases level.isRequired
  · exact ⟨.ok (), rfl, nofun⟩
  · cases token with
    | none => exact ⟨_, rfl, fun rejection same => (Except.error.inj same).symm⟩
    | some token =>
      obtain ⟨verification, verified⟩ :=
        verify_ends now key ((Challenges.level now key).run challenges).state token
      simp only [if_true]
      rw [Activity.run_bind_of_ok verified]
      cases verification with
      | passed => exact ⟨.ok (), rfl, nofun⟩
      | failed => exact ⟨_, rfl, fun rejection same => (Except.error.inj same).symm⟩

end Challenges

namespace Gate

/-- A permission is given or refused, and a refusal is what the rules tell the request. -/
theorem permission_ends (request : Request) (gate : Gate δ κ ν) :
    ∃ told, ((onPermissions (Permissions.authorize request.query)).run gate).result = .ok told ∧
      (told = .ok () ↔ gate.Permitted request) ∧
      ∀ rejection, told = .error rejection →
        rejection = gate.permissions.rules.refusal request.action := by
  have ended := (Permissions.authorize_spec request.query gate.permissions).1
  refine ⟨_, ended, ?_, fun rejection => RuleTable.eq_refusal_of_authorization⟩
  rw [← permission_eq_ok_iff, run_onPermissions, ended, Except.ok.injEq]

/-! ### Both checks -/

/-- Two checks in turn. What the first turns away the second does not see. -/
def inTurn {σ : Type} (first second : Activity σ (Except Rejection Unit)) :
    Activity σ (Except Rejection Unit) := do
  match ← first with
  | .ok () => second
  | .error rejection => return .error rejection

theorem inTurn_of_passed {σ : Type} {first : Activity σ (Except Rejection Unit)} {state : σ}
    (passed : (first.run state).result = .ok (.ok ()))
    (second : Activity σ (Except Rejection Unit)) :
    ((inTurn first second).run state).result = (second.run (first.run state).state).result ∧
      ((inTurn first second).run state).state = (second.run (first.run state).state).state := by
  rw [inTurn, Activity.run_bind_of_ok passed]
  exact ⟨rfl, rfl⟩

theorem inTurn_of_rejected {σ : Type} {first : Activity σ (Except Rejection Unit)} {state : σ}
    {rejection : Rejection} (rejected : (first.run state).result = .ok (.error rejection))
    (second : Activity σ (Except Rejection Unit)) :
    ((inTurn first second).run state).result = .ok (.error rejection) ∧
      ((inTurn first second).run state).state = (first.run state).state := by
  rw [inTurn, Activity.run_bind_of_ok rejected]
  exact ⟨rfl, rfl⟩

section Checks

variable [AttemptStore κ] [CaptchaVerifier ν]

theorem checks_permissionFirst (request : Request) (kind : Option ActionKind) :
    (checks (request.inOrder .permissionFirst) kind : Activity (Gate δ κ ν) _) =
      inTurn (onPermissions (Permissions.authorize request.query))
        (checkAny request.actor.id kind request.token) := rfl

theorem checks_challengeFirst (request : Request) (kind : Option ActionKind) :
    (checks (request.inOrder .challengeFirst) kind : Activity (Gate δ κ ν) _) =
      inTurn (checkAny request.actor.id kind request.token)
        (onPermissions (Permissions.authorize request.query)) := rfl

variable {request : Request} {kind : Option ActionKind} {gate : Gate δ κ ν}
  {told answer : Except Rejection Unit}

/-- The permission first: then the request is told what the challenge says only if it is permitted,
and otherwise the challenges stay as they were. -/
theorem checks_permissionFirst_ends
    (permission :
      ((onPermissions (Permissions.authorize request.query)).run gate).result = .ok told)
    (challenge :
      ((checkAny request.actor.id kind request.token).run gate).result = .ok answer) :
    let outcome := (checks (request.inOrder .permissionFirst) kind).run gate
    outcome.result = .ok (told >>= fun _ => answer) ∧
      (told = .ok () → outcome.state =
        { gate with
          permissions := ((Permissions.authorize request.query).run gate.permissions).state
          challenges :=
            ((checkAny request.actor.id kind request.token).run gate).state.challenges }) ∧
      (told ≠ .ok () → outcome.state.challenges = gate.challenges) := by
  rw [checks_permissionFirst]
  cases told with
  | error rejection =>
    obtain ⟨result, state⟩ := inTurn_of_rejected permission
      (checkAny request.actor.id kind request.token)
    exact ⟨result, nofun, fun _ => by rw [state, run_onPermissions]⟩
  | ok granted =>
    obtain ⟨challenges, frame⟩ := checkAny_frame gate request.actor.id kind request.token
    obtain ⟨result, state⟩ := inTurn_of_passed permission
      (checkAny request.actor.id kind request.token)
    rw [run_onPermissions] at result state
    dsimp only at result state
    rw [run_checkAny_permissions] at result state
    dsimp only at result state
    refine ⟨result.trans challenge, fun _ => state.trans ?_, fun refused => absurd rfl refused⟩
    rw [frame]

/-- The challenge first: then the request is told what the permission says only if it is cleared. -/
theorem checks_challengeFirst_ends
    (permission :
      ((onPermissions (Permissions.authorize request.query)).run gate).result = .ok told)
    (challenge :
      ((checkAny request.actor.id kind request.token).run gate).result = .ok answer) :
    let outcome := (checks (request.inOrder .challengeFirst) kind).run gate
    outcome.result = .ok (answer >>= fun _ => told) ∧
      (answer = .ok () → outcome.state =
        { gate with
          permissions := ((Permissions.authorize request.query).run gate.permissions).state
          challenges :=
            ((checkAny request.actor.id kind request.token).run gate).state.challenges }) := by
  rw [checks_challengeFirst]
  cases answer with
  | error rejection => exact ⟨(inTurn_of_rejected challenge _).1, nofun⟩
  | ok granted =>
    obtain ⟨challenges, frame⟩ := checkAny_frame gate request.actor.id kind request.token
    obtain ⟨result, state⟩ := inTurn_of_passed challenge
      (onPermissions (Permissions.authorize request.query))
    rw [frame] at result state
    refine ⟨result.trans permission, fun _ => ?_⟩
    rw [state, frame, run_onPermissions]

end Checks

/-! ### Screening -/

section Memory

/-- What is in memory can be released, and that touches nothing but the duplicates. -/
theorem releaseAny_ends (fingerprint : Option Fingerprint) (gate : Gate DuplicateRecords κ ν) :
    ((releaseAny fingerprint).run gate).result = .ok () ∧
      ((releaseAny fingerprint).run gate).state.challenges = gate.challenges := by
  cases fingerprint with
  | none => exact ⟨rfl, rfl⟩
  | some fingerprint =>
    have steady : Activity.Steady (Duplicates.GoesBy gate.duplicates.settings)
        (Duplicates.release gate.now fingerprint) := Duplicates.release_steady fingerprint
    obtain ⟨_, ended, -⟩ := steady (show gate.duplicates.GoesBy _ from rfl)
    exact ⟨ended, rfl⟩

variable [AttemptStore κ] [CaptchaVerifier ν]

/-- A request that is not entered does not come to its checks. -/
theorem screen_of_unentered [DuplicateStore δ] (request : Request) (gate : Gate δ κ ν)
    (unentered : ((holdAny (gate.enteredFingerprint request)).run gate).result ≠ .ok (.ok ())) :
    let held := (holdAny (gate.enteredFingerprint request)).run gate
    let outcome := (screen request).run gate
    outcome.result = held.result.map (Except.map fun _ => gate.owes request) ∧
      outcome.state.challenges = gate.challenges := by
  obtain ⟨duplicates, frame⟩ := holdAny_frame gate (gate.enteredFingerprint request)
  dsimp only
  unfold screen
  rw [Activity.run_state_bind]
  cases ended : ((holdAny (gate.enteredFingerprint request)).run gate).result with
  | error fault =>
    rw [Activity.run_bind_of_error ended, frame]
    exact ⟨rfl, rfl⟩
  | ok verdict =>
    rw [Activity.run_bind_of_ok ended, frame]
    cases verdict with
    | error rejection => exact ⟨rfl, rfl⟩
    | ok granted => exact absurd ended unentered

/-- A request that is entered is let through as its checks have left the gate, or turned away as
they have left its challenges. -/
theorem screen_of_checked (request : Request) (gate : Gate DuplicateRecords κ ν)
    {verdict : Except Rejection Unit}
    (entered : ((holdAny (gate.enteredFingerprint request)).run gate).result = .ok (.ok ()))
    (checked : ((checks request (gate.challengedKind request)).run
      ((holdAny (gate.enteredFingerprint request)).run gate).state).result = .ok verdict) :
    let left := ((checks request (gate.challengedKind request)).run
      ((holdAny (gate.enteredFingerprint request)).run gate).state).state
    let outcome := (screen request).run gate
    outcome.result = .ok (verdict.map fun _ => gate.owes request) ∧
      (verdict = .ok () → outcome.state = left) ∧
      outcome.state.challenges = left.challenges := by
  have screened : ((releasingOnFault (gate.enteredFingerprint request)
      (checks request (gate.challengedKind request))).run
        ((holdAny (gate.enteredFingerprint request)).run gate).state).result = .ok verdict :=
    result_releasingOnFault_eq_ok_iff.mpr checked
  dsimp only
  unfold screen
  rw [Activity.run_state_bind, Activity.run_bind_of_ok entered]
  dsimp only
  rw [Activity.run_bind_of_ok screened, run_releasingOnFault_of_ok checked]
  cases verdict with
  | ok granted => exact ⟨rfl, fun _ => rfl, rfl⟩
  | error rejection =>
    obtain ⟨released, kept⟩ := releaseAny_ends (gate.enteredFingerprint request)
      ((checks request (gate.challengedKind request)).run
        ((holdAny (gate.enteredFingerprint request)).run gate).state).state
    dsimp only
    rw [Activity.run_bind_of_ok released]
    exact ⟨rfl, nofun, kept⟩

omit [AttemptStore κ] [CaptchaVerifier ν] in
/-- The check of a challenge ends. It lets a request through exactly when its challenge is cleared,
and what it says to any other depends on whether the request has come with an answer. -/
theorem challenge_ends (request : Request) (gate : Gate δ AttemptRecords CaptchaDesk) :
    ∃ answer, ((checkAny request.actor.id (gate.challengedKind request) request.token).run
        gate).result = .ok answer ∧
      (answer = .ok () ↔ gate.Cleared request) ∧
      ∀ rejection, answer = .error rejection →
        ∃ kind, request.challenge = some kind ∧ rejection = request.challengeRejection kind := by
  have cleared := checkAny_eq_ok_iff request gate AttemptRecords.replies
  cases challenged : gate.challengedKind request with
  | none =>
    rw [challenged] at cleared
    exact ⟨.ok (), rfl, iff_of_true rfl (cleared.mp rfl), nofun⟩
  | some kind =>
    obtain ⟨answer, ended, told⟩ :=
      Challenges.check_ends gate.now ⟨request.actor.id, kind⟩ gate.challenges request.token
    have checked : ((checkAny request.actor.id (some kind) request.token).run gate).result =
        .ok answer := ended
    rw [challenged, checked, Except.ok.injEq] at cleared
    refine ⟨answer, checked, cleared, fun rejection refused => ⟨kind, ?_, told rejection refused⟩⟩
    exact challenge_of_challengedKind challenged

/-- What a request that is entered is told in either order, and what is left of the gate. -/
theorem screen_inOrder (request : Request) (gate : MemoryGate)
    (unrepeated : gate.Unrepeated request) :
    let first := (screen (request.inOrder .permissionFirst)).run gate
    let second := (screen (request.inOrder .challengeFirst)).run gate
    ∃ told answer : Except Rejection Unit,
      (told = .ok () ↔ gate.Permitted request) ∧
      (∀ rejection, told = .error rejection →
        rejection = gate.permissions.rules.refusal request.action) ∧
      (answer = .ok () ↔ gate.Cleared request) ∧
      (∀ rejection, answer = .error rejection →
        ∃ kind, request.challenge = some kind ∧ rejection = request.challengeRejection kind) ∧
      first.result = .ok ((told >>= fun _ => answer).map fun _ => gate.owes request) ∧
      second.result = .ok ((answer >>= fun _ => told).map fun _ => gate.owes request) ∧
      (told = .ok () → answer = .ok () → first.state = second.state) ∧
      (told ≠ .ok () → first.state.challenges = gate.challenges) := by
  have entered := (gate.holdAny_eq_ok_iff request).mpr unrepeated
  obtain ⟨duplicates, frame⟩ := holdAny_frame gate (gate.enteredFingerprint request)
  -- Entering the request has touched neither the permissions nor the challenges.
  obtain ⟨told, permission, permitted, refused⟩ :=
    permission_ends request { gate with duplicates := duplicates }
  obtain ⟨answer, challenge, cleared, failed⟩ :=
    challenge_ends request { gate with duplicates := duplicates }
  have challenge : ((checkAny request.actor.id (gate.challengedKind request) request.token).run
      { gate with duplicates := duplicates }).result = .ok answer := challenge
  obtain ⟨first, firstLeft, kept⟩ := checks_permissionFirst_ends permission challenge
  obtain ⟨second, secondLeft⟩ := checks_challengeFirst_ends permission challenge
  rw [← frame] at first firstLeft kept second secondLeft
  obtain ⟨firstResult, firstState, firstChallenges⟩ :=
    screen_of_checked (request.inOrder .permissionFirst) gate entered first
  obtain ⟨secondResult, secondState, -⟩ :=
    screen_of_checked (request.inOrder .challengeFirst) gate entered second
  refine ⟨told, answer, permitted, refused, cleared, failed, firstResult, secondResult, ?_, ?_⟩
  · rintro rfl rfl
    exact (firstState rfl).trans ((firstLeft rfl).trans
      ((secondLeft rfl).symm.trans (secondState rfl).symm))
  · intro denied
    refine firstChallenges.trans ((kept denied).trans ?_)
    rw [frame]

end Memory

/-! ### Running -/

section Running

variable [DuplicateStore δ] [AttemptStore κ] [CaptchaVerifier ν]

/-- Whether the action of a request is carried out. -/
def Executes (request : Request) (action : Activity (Gate δ κ ν) (Except ε α))
    (gate : Gate δ κ ν) : Prop :=
  ((runRequest request (counting action)).run (gate.counted 0)).state.executions = 1

/-- A run goes on as the request has been screened. -/
theorem runRequest_congr {first second : Request} {gate : Gate δ κ ν}
    (result : ((screen first).run gate).result = ((screen second).run gate).result)
    (state : ((screen first).run gate).state = ((screen second).run gate).state)
    (action : Activity (Gate δ κ ν) (Except ε α)) :
    let one := (runRequest first action).run gate
    let other := (runRequest second action).run gate
    one.result = other.result ∧ one.state = other.state := by
  dsimp only
  rw [runRequest_eq, runRequest_eq, Activity.run_bind, Activity.run_bind, result, state]
  cases ((screen second).run gate).result with
  | error fault => exact ⟨rfl, rfl⟩
  | ok verdict => exact ⟨rfl, rfl⟩

/-- What comes of a request that is not let through is what its screening has come to. -/
theorem runRequest_of_turnedAway {request : Request} {gate : Gate δ κ ν}
    (verdict : Except Fault Rejection)
    (turnedAway : ((screen request).run gate).result = verdict.map .error)
    (action : Activity (Gate δ κ ν) (Except ε α)) :
    let outcome := (runRequest request action).run gate
    outcome.result = verdict.map (fun rejection => .error (.rejected rejection)) ∧
      outcome.state = ((screen request).run gate).state := by
  dsimp only
  cases verdict with
  | error fault =>
    rw [run_runRequest_of_fault turnedAway]
    exact ⟨rfl, rfl⟩
  | ok rejection =>
    rw [run_runRequest_of_rejection turnedAway]
    exact ⟨rfl, rfl⟩

end Running

section Orders

variable (gate : MemoryGate) (request : Request) (action : Activity MemoryGate (Except ε α))

theorem executes_iff :
    Executes request action gate ↔
      gate.Unrepeated request ∧ gate.Permitted request ∧ gate.Cleared request := by
  rw [Executes, executions_eq_one_iff, screen_eq_ok_iff _ _ AttemptRecords.replies]

/-- A request that is not entered is told the same in either order, and comes to no challenge. -/
theorem runRequest_inOrder_of_repeated (repeated : ¬ gate.Unrepeated request) :
    let one := (runRequest (request.inOrder .permissionFirst) action).run gate
    let other := (runRequest (request.inOrder .challengeFirst) action).run gate
    one.result = other.result ∧ one.state.challenges = gate.challenges := by
  have unentered := (gate.holdAny_eq_ok_iff request).not.mpr repeated
  obtain ⟨verdict, held⟩ : ∃ verdict : Except Fault Rejection,
      ((holdAny (gate.enteredFingerprint request)).run gate).result = verdict.map .error := by
    cases held : ((holdAny (gate.enteredFingerprint request)).run gate).result with
    | error fault => exact ⟨.error fault, rfl⟩
    | ok entered =>
      cases entered with
      | error rejection => exact ⟨.ok rejection, rfl⟩
      | ok granted => exact absurd held unentered
  have screened (order : CheckOrder) :
      ((screen (request.inOrder order)).run gate).result = verdict.map .error ∧
        ((screen (request.inOrder order)).run gate).state.challenges = gate.challenges := by
    obtain ⟨result, kept⟩ := screen_of_unentered (request.inOrder order) gate unentered
    refine ⟨result.trans ?_, kept⟩
    show Except.map _ ((holdAny (gate.enteredFingerprint request)).run gate).result = _
    rw [held]
    cases verdict <;> rfl
  obtain ⟨first, kept⟩ := screened .permissionFirst
  obtain ⟨second, -⟩ := screened .challengeFirst
  obtain ⟨one, left⟩ := runRequest_of_turnedAway verdict first action
  obtain ⟨other, -⟩ := runRequest_of_turnedAway verdict second action
  exact ⟨one.trans other.symm, (congrArg Gate.challenges left).trans kept⟩

/-- The order of the checks never decides whether an action is carried out: it is in both orders, or
in neither. If it is, then the result is the same and so is all of the gate. If it is not, then the
request is told the same, unless it is entered and neither permitted nor cleared; then it is told of
the check that comes first. And a permission that comes first and refuses leaves the challenges,
with their counters and captchas, as they were. -/
theorem check_order_immaterial :
    let one := (runRequest (request.inOrder .permissionFirst) action).run gate
    let other := (runRequest (request.inOrder .challengeFirst) action).run gate
    (Executes (request.inOrder .permissionFirst) action gate ↔
      Executes (request.inOrder .challengeFirst) action gate) ∧
    (Executes (request.inOrder .permissionFirst) action gate →
      one.result = other.result ∧ one.state = other.state) ∧
    (¬ Executes (request.inOrder .permissionFirst) action gate →
      (¬ (gate.Unrepeated request ∧ ¬ gate.Permitted request ∧ ¬ gate.Cleared request) →
        one.result = other.result) ∧
      (gate.Unrepeated request ∧ ¬ gate.Permitted request ∧ ¬ gate.Cleared request →
        one.result = .ok (.error (.rejected (gate.permissions.rules.refusal request.action))) ∧
        ∃ kind, request.challenge = some kind ∧
          other.result = .ok (.error (.rejected (request.challengeRejection kind))))) ∧
    (¬ gate.Permitted request → one.state.challenges = gate.challenges) := by
  dsimp only
  rw [executes_iff, executes_iff]
  refine ⟨Iff.rfl, ?_⟩
  by_cases unrepeated : gate.Unrepeated request
  · obtain ⟨told, answer, permitted, refused, cleared, failed, first, second, same, kept⟩ :=
      screen_inOrder request gate unrepeated
    cases told with
    | ok granted =>
      have allowed : gate.Permitted request := permitted.mp rfl
      cases answer with
      | ok passed =>
        have ran := runRequest_congr (first.trans second.symm) (same rfl rfl) action
        exact ⟨fun _ => ran, fun _ => ⟨fun _ => ran.1, fun bad => absurd allowed bad.2.1⟩,
          fun denied => absurd allowed denied⟩
      | error rejection =>
        have uncleared : ¬ gate.Cleared request := fun clear => nomatch cleared.mpr clear
        have one := (runRequest_of_turnedAway (.ok rejection) first action).1
        have other := (runRequest_of_turnedAway (.ok rejection) second action).1
        exact ⟨fun executed => absurd executed.2.2 uncleared,
          fun _ => ⟨fun _ => one.trans other.symm, fun bad => absurd allowed bad.2.1⟩,
          fun denied => absurd allowed denied⟩
    | error rejection =>
      have denied : ¬ gate.Permitted request := fun allowed => nomatch permitted.mpr allowed
      obtain ⟨one, left⟩ := runRequest_of_turnedAway (.ok rejection) first action
      have untouched := (congrArg Gate.challenges left).trans (kept nofun)
      refine ⟨fun executed => absurd executed.2.1 denied, fun _ => ?_, fun _ => untouched⟩
      cases answer with
      | ok passed =>
        have other := (runRequest_of_turnedAway (.ok rejection) second action).1
        exact ⟨fun _ => one.trans other.symm, fun bad => absurd (cleared.mp rfl) bad.2.2⟩
      | error failure =>
        have uncleared : ¬ gate.Cleared request := fun clear => nomatch cleared.mpr clear
        have other := (runRequest_of_turnedAway (.ok failure) second action).1
        obtain ⟨kind, challenged, rfl⟩ := failed failure rfl
        obtain rfl := refused rejection rfl
        exact ⟨fun fine => absurd ⟨unrepeated, denied, uncleared⟩ fine,
          fun _ => ⟨one, kind, challenged, other⟩⟩
  · obtain ⟨told, kept⟩ := runRequest_inOrder_of_repeated gate request action unrepeated
    exact ⟨fun executed => absurd executed.1 unrepeated,
      fun _ => ⟨fun _ => told, fun bad => absurd bad.1 unrepeated⟩, fun _ => kept⟩

end Orders

/-- The question of a member whose rank is too low for it. -/
def questionTooEarly : Request :=
  { question with actor := ⟨"ada", 5, false⟩ }

/-- The same question, without an answer to the captcha. -/
def questionUnsolved : Request :=
  { questionTooEarly with token := none }

/-- A question that may be asked is asked in either order. One that comes too early and is not
cleared is told of its rank or of the captcha, whichever is looked at first; a captcha that is
solved for one that comes too early stays good if the rank is looked at first. -/
theorem check_order_immaterial_questions :
    let action : Activity MemoryGate (Except Unit Unit) := pure (.ok ())
    let inOrder (request : Request) (order : CheckOrder) :=
      (runRequest (request.inOrder order) action).run questionGate
    (inOrder question .permissionFirst).state = (inOrder question .challengeFirst).state ∧
    (inOrder questionUnsolved .permissionFirst).result =
        .ok (.error (.rejected (.permissionDenied "question.add"))) ∧
      (inOrder questionUnsolved .challengeFirst).result =
        .ok (.error (.rejected (.challengeRequired .question))) ∧
    (inOrder questionTooEarly .permissionFirst).result =
        (inOrder questionTooEarly .challengeFirst).result ∧
      (inOrder questionTooEarly .permissionFirst).state.challenges = questionGate.challenges := by
  intro action inOrder
  obtain ⟨-, same, -⟩ := check_order_immaterial questionGate question action
  obtain ⟨-, -, unsolved, -⟩ := check_order_immaterial questionGate questionUnsolved action
  obtain ⟨-, -, early, kept⟩ := check_order_immaterial questionGate questionTooEarly action
  have entered : questionGate.Unrepeated questionUnsolved := .inr (.inr ⟨_, rfl, .inl ⟨rfl, rfl⟩⟩)
  have denied : ¬ questionGate.Permitted questionTooEarly := by
    rw [← permission_eq_ok_iff]
    decide +kernel
  have cleared : questionGate.Cleared questionTooEarly := by
    rw [← checkAny_eq_ok_iff _ _ AttemptRecords.replies]
    decide +kernel
  have uncleared : ¬ questionGate.Cleared questionUnsolved := by
    rw [← checkAny_eq_ok_iff _ _ AttemptRecords.replies]
    decide +kernel
  have executed : Executes (question.inOrder .permissionFirst) action questionGate := by
    show _ = 1
    decide +kernel
  have turnedAway (request : Request) (denied : ¬ questionGate.Permitted request) :
      ¬ Executes (request.inOrder .permissionFirst) action questionGate :=
    fun executed => denied ((executes_iff _ _ _).mp executed).2.1
  obtain ⟨told, kind, challenged, asked⟩ :=
    (unsolved (turnedAway _ denied)).2 ⟨entered, denied, uncleared⟩
  cases challenged
  exact ⟨(same executed).2, told, asked,
    (early (turnedAway _ denied)).1 fun bad => bad.2.2 cleared, kept denied⟩

/-- The order decides nothing for a question that has been asked before: whatever its rank and its
captcha are, in either order it is told that it is a duplicate. -/
theorem questionUnsolved_told_repeated :
    let action : Activity MemoryGate (Except Unit Unit) := pure (.ok ())
    let gate := ((holdAny question.fingerprint).run questionGate).state
    let inOrder (order : CheckOrder) :=
      ((runRequest (questionUnsolved.inOrder order) action).run gate).result
    let repeated : Except Fault (Except (RunError Unit) Unit) :=
      .ok (.error (.rejected (.duplicateRejected ⟨List.replicate 32 0, rfl⟩)))
    ¬ gate.Permitted questionUnsolved ∧ ¬ gate.Cleared questionUnsolved ∧
      gate.permissions.rules.refusal questionUnsolved.action = .permissionDenied "question.add" ∧
      inOrder .permissionFirst = repeated ∧ inOrder .challengeFirst = repeated := by
  intro action gate inOrder repeated
  refine ⟨?_, ?_, by decide +kernel, by decide +kernel, by decide +kernel⟩
  · rw [← permission_eq_ok_iff]
    decide +kernel
  · rw [← checkAny_eq_ok_iff _ _ AttemptRecords.replies]
    decide +kernel

end Gate

end Gatekeeper
