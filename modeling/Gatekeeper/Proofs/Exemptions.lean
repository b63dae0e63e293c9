/-
This file proves what the exemption from challenges comes to. The request of an exempt actor runs
just as the same request that names no kind and brings no answer: of the challenges it reads nothing
but the settings, and it leaves them alone before and after its action. The request of any other
actor is carried out only if the challenge of its kind lets it through in the same run; one attempt
is then counted as soon as the action has come to its end, and none before.

That nothing is read is said with two gates that have nothing in common in their challenges but the
settings. These may even be on stores of different types, say on counters in memory and on a store
that faults whenever it is called.
-/
import Gatekeeper.Proofs.Aftermath
import Gatekeeper.Proofs.Validity

namespace Gatekeeper

open Activity (Alike)

variable {δ κ κ' ν ν' α ε : Type}

/-- The same request, with nothing to be challenged for and no answer. -/
def Request.unchallenged (request : Request) : Request :=
  { request with challenge := none, token := none }

namespace Gate

/-! ### Kinds -/

section Kinds

variable {request : Request} {gate : Gate δ κ ν}

theorem challengedKind_of_exempt (exempt : gate.Exempt request.actor) :
    gate.challengedKind request = none :=
  if_pos ((gate.isExempt_iff request.actor).mpr exempt)

theorem challengedKind_of_not_exempt (unexempt : ¬ gate.Exempt request.actor) :
    gate.challengedKind request = request.challenge :=
  if_neg (mt (gate.isExempt_iff request.actor).mp unexempt)

end Kinds

/-! ### Gates that differ in their challenges -/

/-- The gate with other challenges in place of its own. -/
def withChallenges (gate : Gate δ κ ν) (others : Challenges κ' ν') : Gate δ κ' ν' :=
  ⟨gate.now, gate.permissions, gate.duplicates, others, gate.sharesMetrics⟩

/-- The first gate has the one challenges and the second has the others, and that is all they differ
in. -/
def Apart (own : Challenges κ ν) (others : Challenges κ' ν') (first : Gate δ κ ν)
    (second : Gate δ κ' ν') : Prop :=
  first.challenges = own ∧ second = first.withChallenges others

section Apart

variable {own : Challenges κ ν} {others : Challenges κ' ν'}

theorem onPermissions_apart (activity : Activity Permissions α) :
    Alike (Apart own others) (onPermissions activity : Activity (Gate δ κ ν) α)
      (onPermissions activity : Activity (Gate δ κ' ν') α) := by
  rintro first _ ⟨same, rfl⟩
  exact ⟨rfl, same, rfl⟩

theorem onDuplicates_apart (activity : Instant → Activity (Duplicates δ) α) :
    Alike (Apart own others) (onDuplicates activity : Activity (Gate δ κ ν) α)
      (onDuplicates activity : Activity (Gate δ κ' ν') α) := by
  rintro first _ ⟨same, rfl⟩
  exact ⟨rfl, same, rfl⟩

variable [DuplicateStore δ]

theorem holdAny_apart (fingerprint : Option Fingerprint) :
    Alike (Apart own others) (holdAny fingerprint : Activity (Gate δ κ ν) _)
      (holdAny fingerprint : Activity (Gate δ κ' ν') _) := by
  cases fingerprint with
  | none => exact .pure _
  | some fingerprint => exact (onDuplicates_apart _).bind fun _ => .pure _

theorem releaseAny_apart (fingerprint : Option Fingerprint) :
    Alike (Apart own others) (releaseAny fingerprint : Activity (Gate δ κ ν) _)
      (releaseAny fingerprint : Activity (Gate δ κ' ν') _) := by
  cases fingerprint with
  | none => exact .pure _
  | some fingerprint => exact onDuplicates_apart _

theorem releasingOnFault_apart (fingerprint : Option Fingerprint)
    {first : Activity (Gate δ κ ν) α} {second : Activity (Gate δ κ' ν') α}
    (alike : Alike (Apart own others) first second) :
    Alike (Apart own others) (releasingOnFault fingerprint first)
      (releasingOnFault fingerprint second) := by
  refine alike.attempt.bind fun outcome => ?_
  cases outcome with
  | ok value => exact .pure _
  | error fault => exact (releaseAny_apart _).bind fun _ => .fault _

variable [AttemptStore κ] [AttemptStore κ']

/-- Where no attempt is owed, settling a request does not come to the challenges. -/
theorem settle_apart {pass : Pass} (unowed : pass.counted = none)
    (ended : Except Fault (Except ε α)) :
    Alike (Apart own others) (settle pass ended : Activity (Gate δ κ ν) _)
      (settle pass ended : Activity (Gate δ κ' ν') _) := by
  unfold settle
  rw [unowed]
  refine Alike.bind (releasingOnFault_apart _ ?_) fun result => ?_
  · cases ended with
    | ok result => exact Alike.bind (.pure _) fun _ => .pure _
    | error fault => exact .fault _
  · cases result with
    | ok value => exact (Alike.log _).bind fun _ => .pure _
    | error error => exact (releaseAny_apart _).bind fun _ => .pure _

variable [CaptchaVerifier ν] [CaptchaVerifier ν']

omit [DuplicateStore δ] in
/-- Without a kind there is only the permission to check, whichever order is asked for. -/
theorem checks_apart (request : Request) :
    Alike (Apart own others) (checks request none : Activity (Gate δ κ ν) _)
      (checks request none : Activity (Gate δ κ' ν') _) := by
  unfold checks
  cases request.order with
  | permissionFirst =>
    refine (onPermissions_apart _).bind fun permitted => ?_
    cases permitted <;> exact .pure _
  | challengeFirst =>
    refine Alike.bind (.pure (Except.ok ())) fun passed => ?_
    cases passed with
    | ok granted => exact onPermissions_apart _
    | error rejection => exact .pure _

variable {request : Request} {gate : Gate δ κ ν} (unchallenged : gate.challengedKind request = none)
  (settings : others.settings = gate.challenges.settings)

include unchallenged settings

theorem screen_apart :
    let here := (screen request).run gate
    let there := (screen request).run (gate.withChallenges others)
    here.result = there.result ∧ Apart gate.challenges others here.state there.state := by
  have unchallengedThere : (gate.withChallenges others).challengedKind request = none := by
    rw [← unchallenged]
    unfold challengedKind isExempt hasExemptRank Challenges.isExempt
    rw [← settings]
    rfl
  have start : Apart gate.challenges others gate (gate.withChallenges others) := ⟨rfl, rfl⟩
  dsimp only
  unfold screen
  rw [Activity.run_state_bind, Activity.run_state_bind, unchallenged, unchallengedThere]
  refine Alike.bind (holdAny_apart _) (fun held => ?_) start
  cases held with
  | error rejection => exact .pure _
  | ok entered =>
    refine (releasingOnFault_apart _ (checks_apart request)).bind fun checked => ?_
    cases checked with
    | ok granted => exact .pure _
    | error rejection => exact (releaseAny_apart _).bind fun _ => .pure _

/-- A request that is not challenged has the same result whatever the challenges are, if its own
action has, and it leaves them to its action. -/
theorem runRequest_apart {action : Activity (Gate δ κ ν) (Except ε α)}
    {action' : Activity (Gate δ κ' ν') (Except ε α)}
    (alike : Alike (Apart gate.challenges others) action action') :
    let here := (runRequest request action).run gate
    let there := (runRequest request action').run (gate.withChallenges others)
    here.result = there.result ∧ Apart gate.challenges others here.state there.state := by
  obtain ⟨sameResult, screened⟩ := screen_apart unchallenged settings
  dsimp only
  rw [runRequest_eq, runRequest_eq, Activity.run_bind, Activity.run_bind, ← sameResult]
  cases passed : ((screen request).run gate).result with
  | error fault => exact ⟨rfl, screened⟩
  | ok verdict =>
    cases verdict with
    | error rejection => exact ⟨rfl, screened⟩
    | ok pass =>
      obtain ⟨-, -, rfl⟩ := (screen_result_eq_ok_iff request gate pass).mp passed
      exact (alike.attempt.bind fun ended => settle_apart unchallenged ended) screened

end Apart

/-! ### Requests of exempt actors -/

section Exempt

variable [DuplicateStore δ] [AttemptStore κ] [CaptchaVerifier ν] {request : Request}
  {gate : Gate δ κ ν}

/-- The run of a request that has nothing to do with the challenges. -/
structure Unconcerned (request : Request) (action : Activity (Gate δ κ ν) (Except ε α))
    (gate : Gate δ κ ν) : Prop where
  /-- It is the run of the request that names no kind and brings no answer. -/
  unchallenged :
    (runRequest request action).run gate = (runRequest request.unchallenged action).run gate
  executes : Executes request action gate ↔ Executes request.unchallenged action gate
  /-- The request is never told that it needs a captcha, or that it has not solved one. -/
  told : ∀ kind,
    ((runRequest request action).run gate).result ≠
        .ok (.error (.rejected (.challengeRequired kind))) ∧
      ((runRequest request action).run gate).result ≠
        .ok (.error (.rejected (.challengeFailed kind)))
  /-- Whatever the challenges are, but for their settings, the request fares the same and leaves the
  same, unless its own action tells them apart. -/
  unread : ∀ {κ' ν' : Type} [AttemptStore κ'] [CaptchaVerifier ν'] (others : Challenges κ' ν')
    (action' : Activity (Gate δ κ' ν') (Except ε α)),
    others.settings = gate.challenges.settings →
    Alike (Apart gate.challenges others) action action' →
    let here := (runRequest request action).run gate
    let there := (runRequest request action').run (gate.withChallenges others)
    here.result = there.result ∧ Apart gate.challenges others here.state there.state
  /-- The challenges come to its action as they were, -/
  untouched : ((screen request).run gate).state.challenges = gate.challenges
  /-- are left as the action leaves them, -/
  left : Executes request action gate →
    ((runRequest request action).run gate).state.challenges =
      (action.run ((screen request).run gate).state).state.challenges
  /-- and are left as they were where it is not carried out. -/
  kept : ¬ Executes request action gate →
    ((runRequest request action).run gate).state.challenges = gate.challenges

/-- Screening the request of an exempt actor is screening the request without its challenge. -/
theorem screen_unchallenged (exempt : gate.Exempt request.actor) :
    (screen request).run gate = (screen request.unchallenged).run gate := by
  have kind := challengedKind_of_exempt exempt
  have without : gate.challengedKind request.unchallenged = none := challengedKind_of_exempt exempt
  unfold screen
  rw [Activity.run_state_bind, Activity.run_state_bind, kind, without]
  rfl

omit [DuplicateStore δ] in
/-- Without a kind to check it is the permission that turns a request away. -/
theorem checks_refusal {rejection : Rejection}
    (rejected : ((checks request none).run gate).result = .ok (.error rejection)) :
    rejection = gate.permissions.rules.refusal request.action := by
  obtain ⟨told, permission, -, refused⟩ := permission_ends request gate
  have challenge :
      ((checkAny request.actor.id none request.token).run gate).result = .ok (.ok ()) := rfl
  have ordered : request = request.inOrder request.order := rfl
  rw [ordered] at rejected
  refine refused rejection ?_
  cases order : request.order with
  | permissionFirst =>
    rw [order, (checks_permissionFirst_ends permission challenge).1] at rejected
    cases told with
    | ok granted => cases rejected
    | error turned => exact Except.ok.inj rejected
  | challengeFirst =>
    rw [order, (checks_challengeFirst_ends permission challenge).1] at rejected
    exact Except.ok.inj rejected

theorem refusal_ne_challenge (table : RuleTable) (action : Action) (kind : ActionKind) :
    table.refusal action ≠ .challengeRequired kind ∧
      table.refusal action ≠ .challengeFailed kind := by
  unfold RuleTable.refusal
  cases table.rule? action <;> exact ⟨nofun, nofun⟩

/-- A request that is not challenged is told of its fingerprint or of its permission. -/
theorem screen_refusal_of_unchallenged (unchallenged : gate.challengedKind request = none)
    {rejection : Rejection}
    (rejected : ((screen request).run gate).result = .ok (.error rejection)) :
    (∃ fingerprint, rejection = .duplicateRejected fingerprint) ∨
      rejection = gate.permissions.rules.refusal request.action := by
  obtain ⟨duplicates, frame⟩ := holdAny_frame gate (gate.enteredFingerprint request)
  rcases screen_rejected_cases rejected with repeated | checked
  · exact .inl (holdAny_rejection repeated)
  · right
    rw [unchallenged, frame] at checked
    have refused := checks_refusal checked
    exact refused

/-- A request is carried out exactly when its screening lets it through. -/
theorem executes_iff_screened {action : Activity (Gate δ κ ν) (Except ε α)} :
    Executes request action gate ↔
      ∃ pass, ((screen request).run gate).result = .ok (.ok pass) :=
  executions_eq_one_iff request action gate

omit [CaptchaVerifier ν] in
/-- Settling a request that owes no attempt leaves the challenges alone. -/
theorem settle_unowed {pass : Pass} (unowed : pass.counted = none)
    (ended : Except Fault (Except ε α)) (gate : Gate δ κ ν) :
    ((settle pass ended).run gate).state.challenges = gate.challenges :=
  (settle_apart unowed ended (⟨rfl, rfl⟩ : Apart gate.challenges gate.challenges gate gate)).2.1

/-- The request of an exempt actor has nothing to do with the challenges. -/
theorem unconcerned_of_exempt (exempt : gate.Exempt request.actor)
    (action : Activity (Gate δ κ ν) (Except ε α)) : Unconcerned request action gate := by
  have unchallenged := challengedKind_of_exempt exempt
  have same := screen_unchallenged exempt
  -- Gates with the same challenges are a case of gates with different ones.
  have untouched : ((screen request).run gate).state.challenges = gate.challenges :=
    (screen_apart unchallenged (show gate.challenges.settings = _ from rfl)).2.1
  have told {rejection : Rejection}
      (rejected : ((runRequest request action).run gate).result =
        .ok (.error (.rejected rejection))) (kind : ActionKind) :
      rejection ≠ .challengeRequired kind ∧ rejection ≠ .challengeFailed kind := by
    rcases screen_refusal_of_unchallenged unchallenged (screen_of_told rejected) with
      ⟨fingerprint, rfl⟩ | rfl
    · exact ⟨nofun, nofun⟩
    · exact refusal_ne_challenge _ _ kind
  refine {
    unchallenged := ?_, executes := ?_, unread := ?_, untouched := untouched, left := ?_, kept := ?_
    told := fun kind => ⟨fun rejected => (told rejected kind).1 rfl,
      fun rejected => (told rejected kind).2 rfl⟩ }
  · rw [runRequest_eq, runRequest_eq, Activity.run_bind, Activity.run_bind, same]
  · rw [executes_iff_screened, executes_iff_screened, same]
  · intro κ' ν' _ _ others action' settings alike
    exact runRequest_apart unchallenged settings alike
  · intro executed
    obtain ⟨pass, passed, -, left⟩ | ⟨stopped, -⟩ := runRequest_cases request action gate
    · obtain ⟨-, -, rfl⟩ := (screen_result_eq_ok_iff request gate pass).mp passed
      exact (congrArg Gate.challenges left).trans (settle_unowed unchallenged _ _)
    · exact absurd (executes_iff_screened.mp executed) stopped
  · intro unexecuted
    obtain ⟨pass, passed, -⟩ | ⟨-, -, left⟩ := runRequest_cases request action gate
    · exact absurd (executes_iff_screened.mpr ⟨pass, passed⟩) unexecuted
    · exact (congrArg Gate.challenges left).trans untouched

end Exempt

/-! ### Requests of all others -/

section Challenged

variable [DuplicateStore δ] [AttemptStore κ] [CaptchaVerifier ν]

/-- The run of a request that its challenge has let through, and whose action has been carried out.
-/
structure CheckedAndCounted (request : Request) (kind : ActionKind)
    (action : Activity (Gate δ κ ν) (Except ε α)) (gate : Gate δ κ ν) : Prop where
  /-- The check of its kind lets the request through. -/
  passed : ((Challenges.check gate.now ⟨request.actor.id, kind⟩ request.token).run
    gate.challenges).result = .ok (.ok ())
  /-- This check is what the challenges have been through before the action. -/
  checked : ((screen request).run gate).state.challenges =
    ((Challenges.check gate.now ⟨request.actor.id, kind⟩ request.token).run gate.challenges).state
  /-- Once the action has come to its end one attempt is counted, whatever came of it. -/
  counted : ∀ ended,
    let acted := action.run ((screen request).run gate).state
    acted.result = .ok ended →
      ((runRequest request action).run gate).state.challenges =
        ((Challenges.record acted.state.now ⟨request.actor.id, kind⟩).run
          acted.state.challenges).state
  /-- None is counted if the action is cut short. -/
  uncounted : ∀ fault,
    let acted := action.run ((screen request).run gate).state
    acted.result = .error fault →
      ((runRequest request action).run gate).state.challenges = acted.state.challenges

omit [DuplicateStore δ] [CaptchaVerifier ν] in
theorem recordAny_challenges (user : String) (kind : ActionKind) (gate : Gate δ κ ν) :
    ((recordAny user (some kind)).run gate).state.challenges =
      ((Challenges.record gate.now ⟨user, kind⟩).run gate.challenges).state := by
  unfold recordAny
  rw [Activity.run_bind, run_onChallenges]
  dsimp only
  split <;> rfl

variable {request : Request} {gate : Gate δ κ ν} {kind : ActionKind}

/-- What is carried out has been let through by its challenge, and is counted. -/
theorem checkedAndCounted_of_executes {action : Activity (Gate δ κ ν) (Except ε α)}
    (challenged : gate.challengedKind request = some kind)
    (executed : Executes request action gate) : CheckedAndCounted request kind action gate := by
  have screened := screen_shows request gate
  rw [challenged] at screened
  obtain ⟨pass, passed, -, left⟩ | ⟨stopped, -⟩ := runRequest_cases request action gate
  · obtain ⟨-, fails⟩ | ⟨shows, passes⟩ := screened
    · exact absurd passed (fails pass)
    · obtain ⟨through, user, counted⟩ := passes pass passed
      refine ⟨through, shows.challenges, fun ended => ?_, fun fault => ?_⟩
      · intro acted ends
        have settled := settle_shows_of_ok pass ended acted.state
        rw [user, counted] at settled
        rw [left, ends, settled.challenges, recordAny_challenges]
      · intro acted ends
        rw [left, ends]
        exact (settle_shows_of_error pass fault acted.state).challenges
  · exact absurd (executes_iff_screened.mp executed) stopped

/-- A request whose action is not carried out leaves the challenges as they were, or as the check of
its kind leaves them. -/
theorem challenges_of_unexecuted {action : Activity (Gate δ κ ν) (Except ε α)}
    (challenged : gate.challengedKind request = some kind)
    (unexecuted : ¬ Executes request action gate) :
    let left := ((runRequest request action).run gate).state.challenges
    left = gate.challenges ∨ left = ((Challenges.check gate.now ⟨request.actor.id, kind⟩
      request.token).run gate.challenges).state := by
  have screened := screen_shows request gate
  rw [challenged] at screened
  obtain ⟨pass, passed, -⟩ | ⟨-, -, left⟩ := runRequest_cases request action gate
  · exact absurd (executes_iff_screened.mpr ⟨pass, passed⟩) unexecuted
  · dsimp only
    rw [left]
    obtain ⟨shows, -⟩ | ⟨shows, -⟩ := screened
    · exact .inl shows.challenges
    · exact .inr shows.challenges

end Challenged

/-- Exempt actors live outside the challenges, whatever the stores and the verifier answer and
whether they answer at all. The run of such a request is that of the same request without its kind
and its answer: it reads nothing of the challenges but their settings, leaves them to its action,
and is never told of a captcha. The request of an actor who is not exempt is carried out only if the
check of its kind lets it through in the same run, and one attempt is counted once its action has
come to its end. Where it is not carried out none is. -/
theorem exemption_decides_challenge [DuplicateStore δ] [AttemptStore κ] [CaptchaVerifier ν]
    (request : Request) (action : Activity (Gate δ κ ν) (Except ε α)) (gate : Gate δ κ ν) :
    (gate.Exempt request.actor → Unconcerned request action gate) ∧
      (¬ gate.Exempt request.actor → ∀ kind, request.challenge = some kind →
        (Executes request action gate → CheckedAndCounted request kind action gate) ∧
        (¬ Executes request action gate →
          let checked := (Challenges.check gate.now ⟨request.actor.id, kind⟩ request.token).run
            gate.challenges
          let left := ((runRequest request action).run gate).state.challenges
          left = gate.challenges ∨ left = checked.state)) := by
  refine ⟨fun exempt => unconcerned_of_exempt exempt action, fun unexempt kind given => ?_⟩
  have challenged : gate.challengedKind request = some kind :=
    (challengedKind_of_not_exempt unexempt).trans given
  exact ⟨checkedAndCounted_of_executes challenged, challenges_of_unexecuted challenged⟩

/-- A gate at which a rank of 50 exempts from the captcha that a question takes. -/
def rankedGate : Gate DuplicateRecords AttemptRecords CaptchaDesk :=
  { questionGate with
    permissions := ⟨RuleTable.ofRules [(.standard .questionAdd, ⟨10, none⟩),
      (.standard .linkUrlLimit, ⟨50, none⟩)], .zero⟩
    challenges := { questionGate.challenges with
      settings := { questionGate.challenges.settings with exemption := .adminsOrRank } } }

/-- A question of a moderator, who hands in the captcha of a member. -/
def moderatedQuestion : Request :=
  { question with actor := ⟨"eve", 60, false⟩ }

/-- The moderator asks without using up the captcha that she has handed in, and would be told the
same if it had never been issued. The member to whom it was issued is let through by it, and her
attempt is counted. -/
theorem exemption_decides_challenge_ranked :
    let action : Activity MemoryGate (Except Unit Unit) := pure (.ok ())
    let screened := (screen question).run rankedGate
    let moderated := (runRequest moderatedQuestion action).run rankedGate
    let others := { rankedGate.challenges with verifier := CaptchaDesk.ofLife ⟨1000⟩ id }
    (rankedGate.Exempt moderatedQuestion.actor ∧ Executes moderatedQuestion action rankedGate ∧
      moderated.state.challenges = rankedGate.challenges ∧
      moderated.result =
        ((runRequest moderatedQuestion action).run (rankedGate.withChallenges others)).result) ∧
    ¬ rankedGate.Exempt question.actor ∧ question.challenge = some .question ∧
      Executes question action rankedGate ∧
      ((Challenges.check ⟨0⟩ ⟨"ada", .question⟩ question.token).run
        rankedGate.challenges).result = .ok (.ok ()) ∧
      ((runRequest question action).run rankedGate).state.challenges =
        ((Challenges.record ⟨0⟩ ⟨"ada", .question⟩).run screened.state.challenges).state := by
  intro action screened moderated others
  have exempt : rankedGate.Exempt moderatedQuestion.actor :=
    (isExempt_iff _ _).mp (by decide +kernel)
  have unexempt : ¬ rankedGate.Exempt question.actor := by
    rw [← isExempt_iff]
    decide +kernel
  have asks : Executes moderatedQuestion action rankedGate := by
    show _ = 1
    decide +kernel
  have executed : Executes question action rankedGate := by
    show _ = 1
    decide +kernel
  obtain ⟨beside, -⟩ := exemption_decides_challenge moderatedQuestion action rankedGate
  obtain ⟨-, asked⟩ := exemption_decides_challenge question action rankedGate
  have answered := (asked unexempt .question rfl).1 executed
  have unchanged := ((beside exempt).left asks).trans (beside exempt).untouched
  have unread := (beside exempt).unread others action rfl (.pure _)
  exact ⟨⟨exempt, asks, unchanged, unread.1⟩, unexempt, rfl, executed, answered.passed,
    answered.counted (.ok ()) rfl⟩

end Gate

end Gatekeeper
