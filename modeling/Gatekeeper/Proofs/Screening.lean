/-
This file follows a request through its screening. Entering the fingerprint touches the duplicates
and nothing else, checking the permission touches the permissions, and checking the challenge
touches the challenges; so each of the three finds its part of the gate as the request found it, in
whichever order they come, and the request is let through exactly when all three let it through.
-/
import Gatekeeper.Gate.Run
import Gatekeeper.Proofs.Parts

namespace Gatekeeper

namespace Gate

variable {δ κ ν α ε : Type} (request : Request) (gate : Gate δ κ ν)

/-! ### What a request has to fulfil -/

section Demands

/-- The request is not a duplicate as far as the gate can tell: it has no fingerprint, or it is an
admin's and admins are let past, or the store answers that its fingerprint is new, or the store is
silent and the policy is to let requests go on. -/
def Unrepeated [DuplicateStore δ] : Prop :=
  request.fingerprint = none ∨
    request.actor.isAdmin = true ∧ gate.duplicates.settings.adminsBypass = true ∨
    ∃ fingerprint, request.fingerprint = some fingerprint ∧
      (gate.duplicates.guarded.Answers gate.now
          (gate.duplicates.entry gate.now fingerprint) true ∨
        gate.duplicates.guarded.Silent gate.now (gate.duplicates.entry gate.now fingerprint) ∧
          gate.duplicates.settings.onStoreError = .failOpen)

/-- The actor is an admin, or the action has a rule and the rank is enough for anyone, or the target
is the actor's own and the rank is enough for an owner. -/
def Permitted : Prop :=
  request.actor.isAdmin = true ∨
    ∃ rule, gate.permissions.rules.rule? request.action = some rule ∧
      (rule.others ≤ request.actor.rank ∨
        request.isOwner = true ∧ ∃ enough, rule.owner = some enough ∧ enough ≤ request.actor.rank)

/-- The exemption action has a rule, and the rank of the actor is enough for anyone. -/
def RankExempts (actor : Actor) : Prop :=
  ∃ rule, gate.permissions.rules.get? gate.challenges.settings.exemptionAction = some rule ∧
    rule.others ≤ actor.rank

/-- What each exemption asks of an actor. -/
def Exempt (actor : Actor) : Prop :=
  match gate.challenges.settings.exemption with
  | .nobody => False
  | .admins => actor.isAdmin = true
  | .adminsOrRank => actor.isAdmin = true ∨ gate.RankExempts actor
  | .adminsWithRank => actor.isAdmin = true ∧ gate.RankExempts actor

/-- The request is not challenged, or its actor is exempt, or the attempt is free, or the request
comes with an answer to which the verifier says yes. -/
def Cleared [AttemptStore κ] [CaptchaVerifier ν] : Prop :=
  request.challenge = none ∨ gate.Exempt request.actor ∨
    ∃ kind, request.challenge = some kind ∧
      (gate.challenges.Free gate.now ⟨request.actor.id, kind⟩ ∨
        ∃ token, request.token = some token ∧
          (CaptchaVerifier.verify gate.challenges.verifier gate.now request.actor.id kind
            token).1 = .answer true)

end Demands

/-! ### The demands and the model's tests -/

theorem hasExemptRank_iff (actor : Actor)
    (asked : gate.challenges.settings.exemption.usesRank = true) :
    gate.hasExemptRank actor = true ↔ gate.RankExempts actor := by
  unfold hasExemptRank RankExempts
  cases found : gate.permissions.rules.get? gate.challenges.settings.exemptionAction with
  | none => simp [found]
  | some rule =>
    have decided := rule.decide_eq_permit_iff actor.rank false
    simp [asked, found, Decision.isPermit, decided]

theorem isExempt_iff (actor : Actor) : gate.isExempt actor = true ↔ gate.Exempt actor := by
  have ranked := gate.hasExemptRank_iff actor
  unfold isExempt Challenges.isExempt Exempt
  cases exemption : gate.challenges.settings.exemption with
  | nobody => simp [Exemption.covers]
  | admins => simp [Exemption.covers]
  | adminsOrRank => simp [Exemption.covers, ranked (by rw [exemption]; rfl)]
  | adminsWithRank => simp [Exemption.covers, ranked (by rw [exemption]; rfl)]

/-! ### One part at a time -/

section Duplicates

variable [DuplicateStore δ]

theorem holdAny_frame (fingerprint : Option Fingerprint) :
    ∃ duplicates, ((holdAny fingerprint).run gate).state =
      { gate with duplicates := duplicates } := by
  cases fingerprint with
  | none => exact ⟨gate.duplicates, rfl⟩
  | some fingerprint =>
    unfold holdAny
    rw [Activity.run_bind, run_onDuplicates]
    dsimp only
    split <;> exact ⟨_, rfl⟩

theorem holdAny_some_eq_ok_iff (fingerprint : Fingerprint) :
    ((holdAny (some fingerprint)).run gate).result = .ok (.ok ()) ↔
      ((Duplicates.hold gate.now fingerprint).run gate.duplicates).result =
        .ok (.ok fingerprint) := by
  unfold holdAny
  rw [Activity.run_bind, run_onDuplicates]
  dsimp only
  cases held : ((Duplicates.hold gate.now fingerprint).run gate.duplicates).result with
  | error fault => simp
  | ok entered =>
    cases entered with
    | error rejection => simp [Activity.run_pure, Except.map]
    | ok entered =>
      have named := Duplicates.eq_of_hold gate.now fingerprint gate.duplicates held
      simp [Activity.run_pure, Except.map, named]

/-- The fingerprint is entered exactly when the request is unrepeated. -/
theorem holdAny_eq_ok_iff :
    ((holdAny (gate.enteredFingerprint request)).run gate).result = .ok (.ok ()) ↔
      gate.Unrepeated request := by
  unfold enteredFingerprint Unrepeated
  cases given : request.fingerprint with
  | none => simp [holdAny, Activity.run_pure]
  | some fingerprint =>
    by_cases past : request.actor.isAdmin = true ∧ gate.duplicates.settings.adminsBypass = true
    · simp [past, holdAny, Activity.run_pure]
    · simp [past, holdAny_some_eq_ok_iff, Duplicates.hold_eq_ok_iff]

end Duplicates

section Challenges

variable [AttemptStore κ] [CaptchaVerifier ν]

theorem checkAny_frame (user : String) (kind : Option ActionKind) (token : Option CaptchaToken) :
    ∃ challenges, ((checkAny user kind token).run gate).state =
      { gate with challenges := challenges } := by
  cases kind with
  | none => exact ⟨gate.challenges, rfl⟩
  | some kind => exact ⟨_, rfl⟩

theorem checkAny_eq_ok_iff (replies : AttemptStore.Replies κ) :
    ((checkAny request.actor.id (gate.challengedKind request) request.token).run gate).result =
      .ok (.ok ()) ↔ gate.Cleared request := by
  unfold challengedKind Cleared
  rw [← isExempt_iff]
  cases given : request.challenge with
  | none => simp [checkAny, Activity.run_pure]
  | some kind =>
    by_cases exempt : gate.isExempt request.actor = true
    · simp [exempt, checkAny, Activity.run_pure]
    · have checked := Challenges.check_eq_ok_iff gate.now ⟨request.actor.id, kind⟩ gate.challenges
        replies request.token
      simp [exempt, checkAny, run_onChallenges, checked]

end Challenges

/-! ### All parts -/

/-- What the first of two checks turns away the second does not see. -/
theorem both_eq_ok_iff {σ : Type} (first second : Activity σ (Except Rejection Unit)) (state : σ) :
    ((do
      match ← first with
      | .ok () => second
      | .error rejection => return .error rejection : Activity σ (Except Rejection Unit)).run
        state).result = .ok (.ok ()) ↔
      (first.run state).result = .ok (.ok ()) ∧
        (second.run (first.run state).state).result = .ok (.ok ()) := by
  rw [Activity.result_bind_eq_ok_iff]
  constructor
  · rintro ⟨rejection | granted, verdict, followed⟩
    · cases followed
    · exact ⟨verdict, followed⟩
  · rintro ⟨verdict, followed⟩
    exact ⟨.ok (), verdict, followed⟩

section All

variable [DuplicateStore δ]

/-- An activity that is not cut short is not touched by what would follow a fault. -/
theorem run_releasingOnFault_of_ok {fingerprint : Option Fingerprint}
    {activity : Activity (Gate δ κ ν) α} {gate : Gate δ κ ν} {value : α}
    (ended : (activity.run gate).result = .ok value) :
    (releasingOnFault fingerprint activity).run gate = activity.run gate := by
  unfold releasingOnFault
  rw [Activity.run_bind, Activity.run_attempt, ended]
  simp [Activity.run_pure, ← ended]

/-- What would follow a fault never makes up for it. -/
theorem result_releasingOnFault_eq_ok_iff {fingerprint : Option Fingerprint}
    {activity : Activity (Gate δ κ ν) α} {gate : Gate δ κ ν} {value : α} :
    ((releasingOnFault fingerprint activity).run gate).result = .ok value ↔
      (activity.run gate).result = .ok value := by
  constructor
  · intro ended
    obtain ⟨outcome, attempted, followed⟩ := Activity.result_bind_eq_ok_iff.mp ended
    cases outcome with
    | ok other =>
      cases followed
      exact Except.ok.inj attempted
    | error fault =>
      obtain ⟨_, _, faulted⟩ := Activity.result_bind_eq_ok_iff.mp followed
      cases faulted
  · intro ended
    rw [run_releasingOnFault_of_ok ended]
    exact ended

variable [AttemptStore κ] [CaptchaVerifier ν]

omit [DuplicateStore δ] [AttemptStore κ] [CaptchaVerifier ν] in
theorem permission_eq_ok_iff :
    ((onPermissions (Permissions.authorize request.query)).run gate).result = .ok (.ok ()) ↔
      gate.Permitted request :=
  Permissions.authorize_eq_ok_iff request.query gate.permissions

omit [DuplicateStore δ] in
/-- The checks let a request through exactly when it is permitted and its challenge is cleared, in
either order. -/
theorem checks_eq_ok_iff (replies : AttemptStore.Replies κ) :
    ((checks request (gate.challengedKind request)).run gate).result = .ok (.ok ()) ↔
      gate.Permitted request ∧ gate.Cleared request := by
  rw [← gate.permission_eq_ok_iff request, ← checkAny_eq_ok_iff request gate replies]
  unfold checks
  cases request.order with
  | permissionFirst =>
    refine (both_eq_ok_iff _ _ gate).trans (and_congr_right fun _ => ?_)
    cases gate.challengedKind request <;> exact Iff.rfl
  | challengeFirst =>
    refine ((both_eq_ok_iff _ _ gate).trans (and_congr_right fun _ => ?_)).trans and_comm
    obtain ⟨challenges, touched⟩ := checkAny_frame gate request.actor.id
      (gate.challengedKind request) request.token
    rw [touched]
    exact Iff.rfl

variable {request gate} in
omit [DuplicateStore δ] [AttemptStore κ] [CaptchaVerifier ν] in
/-- A request is entered with its own fingerprint, if at all. -/
theorem mem_of_enteredFingerprint {fingerprint : Fingerprint}
    (entered : fingerprint ∈ gate.enteredFingerprint request) :
    fingerprint ∈ request.fingerprint := by
  unfold enteredFingerprint at entered
  split at entered
  · cases entered
  · exact entered

/-- What a request that is let through owes. -/
def owes : Pass :=
  ⟨request.actor.id, request.action.name, gate.enteredFingerprint request,
    gate.challengedKind request⟩

/-- A request is let through exactly when its fingerprint is entered and the checks let it
through. -/
theorem screen_result_eq_ok_iff (pass : Pass) :
    ((screen request).run gate).result = .ok (.ok pass) ↔
      ((holdAny (gate.enteredFingerprint request)).run gate).result = .ok (.ok ()) ∧
      ((checks request (gate.challengedKind request)).run
        ((holdAny (gate.enteredFingerprint request)).run gate).state).result = .ok (.ok ()) ∧
      pass = gate.owes request := by
  unfold screen
  rw [Activity.run_state_bind]
  constructor
  · intro screened
    obtain ⟨rejection | entered, held, followed⟩ := Activity.result_bind_eq_ok_iff.mp screened
    · cases followed
    · obtain ⟨rejection | granted, verdict, ended⟩ := Activity.result_bind_eq_ok_iff.mp followed
      · obtain ⟨_, _, turnedAway⟩ := Activity.result_bind_eq_ok_iff.mp ended
        cases turnedAway
      · cases ended
        exact ⟨held, result_releasingOnFault_eq_ok_iff.mp verdict, rfl⟩
  · rintro ⟨held, verdict, rfl⟩
    refine Activity.result_bind_eq_ok_iff.mpr ⟨.ok (), held, ?_⟩
    refine Activity.result_bind_eq_ok_iff.mpr ⟨.ok (), ?_, rfl⟩
    exact result_releasingOnFault_eq_ok_iff.mpr verdict

variable {request gate} in
/-- A request that is turned away is turned away by its fingerprint or by its checks. -/
theorem screen_rejected_cases {rejection : Rejection}
    (rejected : ((screen request).run gate).result = .ok (.error rejection)) :
    let held := (holdAny (gate.enteredFingerprint request)).run gate
    held.result = .ok (.error rejection) ∨
      ((checks request (gate.challengedKind request)).run held.state).result =
        .ok (.error rejection) := by
  unfold screen at rejected
  rw [Activity.run_state_bind] at rejected
  obtain ⟨verdict, held, told⟩ := Activity.result_bind_eq_ok_iff.mp rejected
  cases verdict with
  | error turned =>
    cases told
    exact .inl held
  | ok entered =>
    obtain ⟨verdict, screened, told⟩ := Activity.result_bind_eq_ok_iff.mp told
    cases verdict with
    | ok granted => cases told
    | error turned =>
      obtain ⟨-, -, told⟩ := Activity.result_bind_eq_ok_iff.mp told
      cases told
      exact .inr (result_releasingOnFault_eq_ok_iff.mp screened)

/-- A request is let through exactly when it is unrepeated, permitted and cleared. -/
theorem screen_eq_ok_iff (replies : AttemptStore.Replies κ) :
    (∃ pass, ((screen request).run gate).result = .ok (.ok pass)) ↔
      gate.Unrepeated request ∧ gate.Permitted request ∧ gate.Cleared request := by
  obtain ⟨duplicates, touched⟩ := gate.holdAny_frame (gate.enteredFingerprint request)
  have checked : ((checks request (gate.challengedKind request)).run
      { gate with duplicates := duplicates }).result = .ok (.ok ()) ↔
        gate.Permitted request ∧ gate.Cleared request :=
    checks_eq_ok_iff request { gate with duplicates := duplicates } replies
  simp only [screen_result_eq_ok_iff, touched]
  rw [← gate.holdAny_eq_ok_iff request, ← checked]
  constructor
  · rintro ⟨_, held, verdict, _⟩
    exact ⟨held, verdict⟩
  · rintro ⟨held, verdict⟩
    exact ⟨gate.owes request, held, verdict, rfl⟩

end All

end Gate

end Gatekeeper
