/-
This file proves that a configuration is valid exactly when it is sound: nothing in it is zero that
must not be and, under the strict setting, every action that needs a rule has one. What is reported
of a configuration that lacks rules is which actions lack them, each required one in its place and
the exemption action at most once more.

Rules do not change once a gate is built. So at a gate of a valid strict configuration no request
for a required action is ever told that a rule is missing, whatever its stores are and whatever has
happened there before.
-/
import Gatekeeper.Proofs.Aftermath
import Gatekeeper.Proofs.CheckOrder

namespace Gatekeeper

variable {δ κ ν α ε : Type}

namespace Config

variable (config : Config)

/-! ### Sound configurations -/

/-- No window, lifetime, interval or threshold is zero. -/
structure Positive : Prop where
  duplicateWindow : config.duplicate.windowMillis ≠ 0
  defaultWindow : config.challenge.defaultLimit.windowSeconds ≠ 0
  kindWindow : ∀ kind limit, config.challenge.kinds.get? kind = some limit → limit.windowSeconds ≠ 0
  tokenLife : config.challenge.tokenSeconds ≠ 0
  sweepInterval : config.sweep.intervalSeconds ≠ 0
  failureThreshold : config.breaker.failureThreshold ≠ 0

/-- The exemption asks for a rank, so the exemption action needs a rule. -/
def AsksForRank : Prop :=
  config.challenge.exemption = .adminsOrRank ∨ config.challenge.exemption = .adminsWithRank

/-- Every action that needs a rule has one. -/
structure Ruled : Prop where
  required : ∀ name ∈ config.requiredActions, ∃ rule, config.permissions.get? name = some rule
  exemption : config.AsksForRank →
    ∃ rule, config.permissions.get? config.challenge.exemptionAction = some rule

/-! ### Faults -/

theorem challenge_fault?_eq_none_iff (settings : ChallengeSettings) :
    settings.fault? = none ↔ settings.defaultLimit.windowSeconds ≠ 0 ∧
      (∀ kind limit, settings.kinds.get? kind = some limit → limit.windowSeconds ≠ 0) ∧
      settings.tokenSeconds ≠ 0 := by
  have windows : (settings.kinds.entries.find? fun entry => entry.2.windowSeconds = 0) = none ↔
      ∀ kind limit, settings.kinds.get? kind = some limit → limit.windowSeconds ≠ 0 := by
    simp only [SortedMap.get?_eq_some_iff, List.find?_eq_none, decide_eq_true_eq, Prod.forall]
  unfold ChallengeSettings.fault?
  rw [← windows]
  by_cases zero : settings.defaultLimit.windowSeconds = 0
  · simp [zero]
  · cases settings.kinds.entries.find? fun entry => decide (entry.2.windowSeconds = 0) <;>
      simp [zero]

theorem sectionFault?_eq_none_iff : config.sectionFault? = none ↔ config.Positive := by
  unfold sectionFault? DuplicateSettings.fault? SweepSettings.fault? BreakerSettings.fault?
  simp only [Option.orElse_eq_orElse, Option.orElse_eq_or, Option.or_eq_none_iff,
    challenge_fault?_eq_none_iff]
  constructor
  · rintro ⟨duplicate, ⟨standard, kinds, token⟩, sweep, breaker⟩
    exact ⟨by simpa using duplicate, standard, kinds, token, by simpa using sweep,
      by simpa using breaker⟩
  · rintro ⟨duplicate, standard, kinds, token, sweep, breaker⟩
    exact ⟨by simpa using duplicate, ⟨standard, kinds, token⟩, by simpa using sweep,
      by simpa using breaker⟩

/-! ### Missing rules -/

/-- The required actions that have no rule, in their order. -/
def unruled : List String :=
  config.requiredActions.filter fun name => config.permissions.get? name = none

instance : Decidable config.AsksForRank :=
  inferInstanceAs (Decidable (_ ∨ _))

/-- What lacks a rule: the required actions that do, and behind them the exemption action if it
needs a rule, has none and is not among them. -/
def wanting : List String :=
  if config.AsksForRank ∧ config.permissions.get? config.challenge.exemptionAction = none ∧
      config.challenge.exemptionAction ∉ config.unruled then
    config.unruled ++ [config.challenge.exemptionAction]
  else config.unruled

theorem usesRank_iff : config.challenge.exemption.usesRank = true ↔ config.AsksForRank := by
  unfold AsksForRank
  cases config.challenge.exemption <;> decide

theorem missingRules_eq_wanting : config.missingRules = config.wanting := by
  have required : config.permissions.missing config.requiredActions = config.unruled := by
    refine List.filter_congr fun name _ => ?_
    rw [Bool.eq_iff_iff, Option.isNone_iff_eq_none, decide_eq_true_iff]
  unfold missingRules wanting
  simp only [required, Bool.and_eq_true, usesRank_iff, Option.isNone_iff_eq_none,
    Bool.not_eq_true', List.contains_eq_mem, decide_eq_false_iff_not, and_assoc]

theorem mem_unruled_iff (name : String) :
    name ∈ config.unruled ↔
      name ∈ config.requiredActions ∧ config.permissions.get? name = none := by
  rw [unruled, List.mem_filter, decide_eq_true_iff]

/-- Nothing lacks a rule exactly when everything that needs one has one. -/
theorem wanting_eq_nil_iff : config.wanting = [] ↔ config.Ruled := by
  have required : config.unruled = [] ↔
      ∀ name ∈ config.requiredActions, ∃ rule, config.permissions.get? name = some rule := by
    simp only [List.eq_nil_iff_forall_not_mem, mem_unruled_iff, not_and, ← ne_eq,
      Option.ne_none_iff_exists']
  unfold wanting
  split
  · next lacking =>
    obtain ⟨asks, absent, -⟩ := lacking
    refine iff_of_false (List.append_ne_nil_of_right_ne_nil _ (List.cons_ne_nil _ _)) ?_
    intro ruled
    obtain ⟨rule, present⟩ := ruled.exemption asks
    cases absent.symm.trans present
  · next covered =>
    rw [required]
    refine ⟨fun each => ⟨each, fun asks => ?_⟩, Ruled.required⟩
    rw [← Option.ne_none_iff_exists']
    intro absent
    refine covered ⟨asks, absent, fun listed => ?_⟩
    rw [required.mpr each] at listed
    cases listed

/-! ### Validation -/

theorem validate_of_positive (positive : config.Positive) :
    config.validate =
      if config.strict = true ∧ config.wanting ≠ [] then
        (.error (.invalid (.missingRules config.wanting)), [])
      else (.ok (), if config.wanting = [] then [] else [.rulesMissing config.wanting]) := by
  unfold validate fault?
  rw [config.sectionFault?_eq_none_iff.mpr positive, missingRules_eq_wanting]
  by_cases strict : config.strict = true <;> by_cases none : config.wanting = [] <;>
    simp [strict, none]

/-- A configuration is accepted exactly when nothing in it is zero that must not be and, under the
strict setting, everything that needs a rule has one. -/
theorem validate_eq_ok_iff :
    config.validate.1 = .ok () ↔ config.Positive ∧ (config.strict = true → config.Ruled) := by
  by_cases positive : config.Positive
  · rw [validate_of_positive config positive, ← wanting_eq_nil_iff]
    by_cases strict : config.strict = true <;> by_cases none : config.wanting = [] <;>
      simp [strict, none, positive]
  · refine iff_of_false (fun accepted => positive ?_) fun sound => positive sound.1
    rw [← sectionFault?_eq_none_iff]
    cases found : config.sectionFault? with
    | none => rfl
    | some fault =>
      rw [validate, fault?, found] at accepted
      cases accepted

end Config

/-! ### What a request can be told -/

/-- A duplicate is told that it is one. -/
theorem Duplicates.hold_rejection [DuplicateStore δ] {now : Instant} {fingerprint : Fingerprint}
    {duplicates : Duplicates δ} {rejection : Rejection}
    (rejected : ((hold now fingerprint).run duplicates).result = .ok (.error rejection)) :
    rejection = .duplicateRejected fingerprint := by
  obtain ⟨admission, _, told⟩ := Activity.result_bind_eq_ok_iff.mp rejected
  cases admission <;> cases told
  rfl

section Challenges

variable [AttemptStore κ] [CaptchaVerifier ν]

/-- A challenge tells of the captcha that it asks for. -/
theorem Challenges.check_rejection {now : Instant} {key : ChallengeKey}
    {token : Option CaptchaToken} {challenges : Challenges κ ν} {rejection : Rejection}
    (rejected : ((check now key token).run challenges).result = .ok (.error rejection)) :
    rejection = .challengeRequired key.kind ∨ rejection = .challengeFailed key.kind := by
  obtain ⟨level, _, told⟩ := Activity.result_bind_eq_ok_iff.mp rejected
  split at told
  · cases token with
    | none =>
      obtain ⟨_, _, told⟩ := Activity.result_bind_eq_ok_iff.mp told
      cases told
      exact .inl rfl
    | some given =>
      obtain ⟨verification, _, told⟩ := Activity.result_bind_eq_ok_iff.mp told
      cases verification <;> cases told
      exact .inr rfl
  · cases told

theorem Gate.checkAny_rejection {user : String} {kind : Option ActionKind}
    {token : Option CaptchaToken} {gate : Gate δ κ ν} {rejection : Rejection}
    (rejected : ((checkAny user kind token).run gate).result = .ok (.error rejection)) :
    ∀ action, rejection ≠ .configurationMissing action := by
  cases kind with
  | none => cases rejected
  | some kind =>
    rcases Challenges.check_rejection rejected with rfl | rfl <;> exact nofun

end Challenges

namespace Gate

/-- Of two checks the one that turns away is the first, or the second after the first. -/
theorem inTurn_rejection {σ : Type} {first second : Activity σ (Except Rejection Unit)} {state : σ}
    {rejection : Rejection}
    (rejected : ((inTurn first second).run state).result = .ok (.error rejection)) :
    (first.run state).result = .ok (.error rejection) ∨
      (second.run (first.run state).state).result = .ok (.error rejection) := by
  obtain ⟨verdict, ended, told⟩ := Activity.result_bind_eq_ok_iff.mp rejected
  cases verdict with
  | ok granted => exact .inr told
  | error turned =>
    cases told
    exact .inl ended

variable {request : Request} {gate : Gate δ κ ν} {action : String}

theorem permission_configurationMissing
    (rejected : ((onPermissions (Permissions.authorize request.query)).run gate).result =
      .ok (.error (.configurationMissing action))) :
    gate.permissions.rules.refusal request.action = .configurationMissing action := by
  obtain ⟨told, ended, -, refused⟩ := permission_ends request gate
  cases rejected.symm.trans ended
  exact (refused _ rfl).symm

variable [AttemptStore κ] [CaptchaVerifier ν]

theorem checks_configurationMissing {kind : Option ActionKind}
    (rejected : ((checks request kind).run gate).result =
      .ok (.error (.configurationMissing action))) :
    gate.permissions.rules.refusal request.action = .configurationMissing action := by
  obtain ⟨challenges, frame⟩ := checkAny_frame gate request.actor.id kind request.token
  have ordered : request = request.inOrder request.order := rfl
  rw [ordered] at rejected
  cases order : request.order with
  | permissionFirst =>
    rw [order, checks_permissionFirst] at rejected
    rcases inTurn_rejection rejected with refused | failed
    · exact permission_configurationMissing refused
    · exact absurd rfl (checkAny_rejection failed action)
  | challengeFirst =>
    rw [order, checks_challengeFirst] at rejected
    rcases inTurn_rejection rejected with failed | refused
    · exact absurd rfl (checkAny_rejection failed action)
    · rw [frame] at refused
      exact permission_configurationMissing refused

variable [DuplicateStore δ]

omit [AttemptStore κ] [CaptchaVerifier ν] in
/-- Where a fingerprint is not entered the request is told that it is a duplicate. -/
theorem holdAny_rejection {fingerprint : Option Fingerprint} {rejection : Rejection}
    (rejected : ((holdAny fingerprint).run gate).result = .ok (.error rejection)) :
    ∃ repeated, rejection = .duplicateRejected repeated := by
  cases fingerprint with
  | none => cases rejected
  | some fingerprint =>
    obtain ⟨verdict, held, told⟩ := Activity.result_bind_eq_ok_iff.mp rejected
    cases verdict with
    | ok entered => cases told
    | error turned =>
      cases told
      exact ⟨fingerprint, Duplicates.hold_rejection held⟩

/-- That a rule is missing is something that a request is told by the rules alone. -/
theorem screen_configurationMissing
    (rejected : ((screen request).run gate).result = .ok (.error (.configurationMissing action))) :
    gate.permissions.rules.refusal request.action = .configurationMissing action := by
  obtain ⟨duplicates, frame⟩ := holdAny_frame gate (gate.enteredFingerprint request)
  rcases screen_rejected_cases rejected with repeated | checked
  · obtain ⟨_, same⟩ := holdAny_rejection repeated
    cases same
  · have refused := checks_configurationMissing checked
    rw [frame] at refused
    exact refused

/-- What a request is told when it is turned away is what its screening has told it. -/
theorem screen_of_told {action : Activity (Gate δ κ ν) (Except ε α)} {rejection : Rejection}
    (told : ((runRequest request action).run gate).result =
      .ok (.error (.rejected rejection))) :
    ((screen request).run gate).result = .ok (.error rejection) := by
  obtain ⟨verdict, screened, ended⟩ := Activity.result_bind_eq_ok_iff.mp told
  cases verdict with
  | error turned =>
    cases ended
    exact screened
  | ok pass =>
    obtain ⟨_, _, settled⟩ := Activity.result_bind_eq_ok_iff.mp ended
    exact absurd settled (Session.settle_ne_rejected pass _ _ rejection)

/-- At a gate with a rule for its action no request is told that a rule is missing. -/
theorem runRequest_ne_configurationMissing {rule : Rule}
    (ruled : gate.permissions.rules.rule? request.action = some rule)
    (action : Activity (Gate δ κ ν) (Except ε α)) (name : String) :
    ((runRequest request action).run gate).result ≠
      .ok (.error (.rejected (.configurationMissing name))) := by
  intro told
  have refused := screen_configurationMissing (screen_of_told told)
  rw [RuleTable.refusal, ruled] at refused
  cases refused

/-! ### Rules over time -/

/-- What a gate comes to from this one, whatever its stores are. Requests overlap in every way they
can: one may be settled at any time, whether or not it has been let through. What is done to the
duplicates, to the challenges and to the clock may be anything at all. -/
inductive Evolved (start : Gate δ κ ν) : Gate δ κ ν → Prop where
  | start : Evolved start start
  | query {gate : Gate δ κ ν} (query : PermissionQuery) (earlier : Evolved start gate) :
      Evolved start ((onPermissions (Permissions.evaluate query)).run gate).state
  | screened {gate : Gate δ κ ν} (request : Request) (earlier : Evolved start gate) :
      Evolved start ((screen request).run gate).state
  | settled {gate : Gate δ κ ν} {ε α : Type} (pass : Pass) (ended : Except Fault (Except ε α))
      (earlier : Evolved start gate) : Evolved start ((settle pass ended).run gate).state
  | others {gate : Gate δ κ ν} (now : Instant) (duplicates : Duplicates δ)
      (challenges : Challenges κ ν) (earlier : Evolved start gate) :
      Evolved start
        { gate with now := now, duplicates := duplicates, challenges := challenges }
  | reset {gate : Gate δ κ ν} (earlier : Evolved start gate) : Evolved start gate.resetMetrics

namespace Evolved

variable {start gate : Gate δ κ ν}

/-- Where an action goes from its gate to one that it comes to, so does its request. -/
theorem runRequest (evolved : Evolved start gate) (request : Request)
    {action : Activity (Gate δ κ ν) (Except ε α)}
    (acts : ∀ gate, Evolved start gate → Evolved start (action.run gate).state) :
    Evolved start ((Gate.runRequest request action).run gate).state := by
  have before := evolved.screened request
  rcases runRequest_cases request action gate with
    ⟨pass, _, _, left⟩ | ⟨_, _, left⟩
  · rw [left]
    exact (acts _ before).settled pass _
  · rw [left]
    exact before

/-- Whatever comes of a gate, its rules are those that it started with. -/
theorem rules (evolved : Evolved start gate) :
    gate.permissions.rules = start.permissions.rules := by
  let same (gate : Gate δ κ ν) : Prop := gate.permissions.rules = start.permissions.rules
  have permission (query : PermissionQuery) :
      Activity.Keeps same (onPermissions (Permissions.authorize query)) := fun gate kept => by
    rw [run_onPermissions]
    exact (Permissions.authorize_cases query gate.permissions).1.trans kept
  induction evolved with
  | start => rfl
  | @query gate query _ inductionHypothesis =>
    rw [run_onPermissions]
    exact (congrArg Permissions.rules (Permissions.evaluate_spec query gate.permissions).2).trans
      inductionHypothesis
  | screened request _ inductionHypothesis =>
    exact screen_keeps (fun _ _ _ kept => kept) (fun _ _ _ kept => kept)
      (permission request.query) (fun _ _ kept => kept) inductionHypothesis
  | settled pass ended _ inductionHypothesis =>
    have keeps : Activity.Keeps same (settle pass ended) :=
      settle_keeps (fun _ _ _ kept => kept) (fun _ _ kept => kept) ended
    exact keeps inductionHypothesis
  | others _ _ _ _ inductionHypothesis => exact inductionHypothesis
  | reset _ inductionHypothesis =>
    unfold resetMetrics
    split <;> exact inductionHypothesis

end Evolved

omit [DuplicateStore δ] [AttemptStore κ] [CaptchaVerifier ν] in
/-- A gate has the rules of the configuration that it is built from, and that is a valid one. -/
theorem valid_of_build {config : Config} {breaker : Option BreakerSettings} {now : Instant}
    {duplicates : δ} {attempts : κ} {verifier : ν} {gate : Gate δ κ ν}
    (built : (build config breaker now duplicates attempts verifier).1 = .ok gate) :
    gate.permissions.rules = config.permissions ∧
      { config with breaker := breaker.getD config.breaker }.validate.1 = .ok () := by
  unfold build at built
  dsimp only at built
  split at built
  · cases built
  · next validated =>
    cases built
    exact ⟨rfl, congrArg Prod.fst validated⟩

end Gate

namespace Config

/-- Validation accepts exactly the sound configurations. If nothing is zero that must not be, a
strict configuration that lacks rules is refused with the names of what lacks them, and any other is
accepted, with one warning of those names if there are any and the configuration is not strict. And
a gate that has been built from a strict configuration never tells a request for a required action
that a rule is missing, whatever has come of the gate meanwhile. -/
theorem validation_sound [DuplicateStore δ] [AttemptStore κ] [CaptchaVerifier ν] (config : Config) :
    (config.validate.1 = .ok () ↔ config.Positive ∧ (config.strict = true → config.Ruled)) ∧
    (config.Positive → config.strict = true → ¬ config.Ruled →
      config.validate = (.error (.invalid (.missingRules config.wanting)), []) ∧
        (ConfigError.invalid (.missingRules config.wanting)).message? =
          some ("invalid config: missing permission rules: " ++
            String.intercalate ", " config.wanting)) ∧
    (config.Positive → config.strict = false →
      config.validate =
        (.ok (), if config.wanting = [] then [] else [.rulesMissing config.wanting])) ∧
    ∀ (breaker : Option BreakerSettings) (now : Instant) (duplicates : δ) (attempts : κ)
      (verifier : ν) (start gate : Gate δ κ ν),
      (Gate.build config breaker now duplicates attempts verifier).1 = .ok start →
      config.strict = true → Gate.Evolved start gate →
      ∀ (request : Request) (action : Activity (Gate δ κ ν) (Except ε α)) (name : String),
        request.action.name ∈ config.requiredActions →
        ((Gate.runRequest request action).run gate).result ≠
          .ok (.error (.rejected (.configurationMissing name))) := by
  refine ⟨config.validate_eq_ok_iff, fun positive strict lacking => ?_,
    fun positive lenient => ?_, ?_⟩
  · refine ⟨?_, rfl⟩
    rw [validate_of_positive config positive,
      if_pos ⟨strict, config.wanting_eq_nil_iff.not.mpr lacking⟩]
  · rw [validate_of_positive config positive, if_neg fun refused => ?_]
    rw [lenient] at refused
    cases refused.1
  · intro breaker now duplicates attempts verifier start gate built strict evolved request action
      name required
    obtain ⟨started, valid⟩ := Gate.valid_of_build built
    have ruled := ((validate_eq_ok_iff _).mp valid).2 strict
    obtain ⟨rule, found⟩ := ruled.required _ required
    have present : gate.permissions.rules.rule? request.action = some rule := by
      rw [evolved.rules, started]
      exact found
    exact Gate.runRequest_ne_configurationMissing present action name

/-- A strict configuration of a board with a wiki, with these rules. -/
def wikiBoard (rules : List (Action × Rule)) : Config :=
  { Config.standard with
    strict := true
    requiredActions := ["question.add", "wiki.edit", "question.add"]
    permissions := RuleTable.ofRules rules
    challenge := { ChallengeSettings.standard with exemption := .adminsOrRank } }

/-- The rules that the board needs. -/
def wikiRules : List (Action × Rule) :=
  [(.standard .questionAdd, ⟨10, none⟩), (.custom "wiki.edit", ⟨5, none⟩),
    (.standard .linkUrlLimit, ⟨100, none⟩)]

/-- With a rule for the wiki alone the board is refused, or warned of if it is not strict. With all
of its rules it has a gate, and a question that is asked there again is not told that its rule is
missing. -/
theorem validation_sound_wikiBoard :
    let lacking := wikiBoard [(.custom "wiki.edit", ⟨5, none⟩)]
    let names := ["question.add", "question.add", "link.url_limit"]
    let start : MemoryGate := .assemble (wikiBoard wikiRules) .standard true ⟨0⟩ .empty .empty
      (.ofLife ⟨1000⟩ id)
    let action : Activity MemoryGate (Except Unit Unit) := pure (.ok ())
    lacking.validate = (.error (.invalid (.missingRules names)), []) ∧
      { lacking with strict := false }.validate = (.ok (), [.rulesMissing names]) ∧
      (wikiBoard wikiRules).validate.1 = .ok () ∧
      ((Gate.runRequest Gate.question action).run
        ((Gate.runRequest Gate.question action).run start).state).result ≠
          .ok (.error (.rejected (.configurationMissing "question.add"))) := by
  intro lacking names start action
  let validation := @validation_sound DuplicateRecords AttemptRecords CaptchaDesk Unit Unit _ _ _
  obtain ⟨-, refused, -⟩ := validation lacking
  obtain ⟨-, -, warned, -⟩ := validation { lacking with strict := false }
  obtain ⟨accepted, -, -, told⟩ := validation (wikiBoard wikiRules)
  have wanted : lacking.wanting = names := by decide +kernel
  have lacks : ¬ lacking.Ruled := by
    rw [← wanting_eq_nil_iff, wanted]
    decide
  have ruled : (wikiBoard wikiRules).Ruled := by
    rw [← wanting_eq_nil_iff]
    decide +kernel
  have valid : (wikiBoard wikiRules).validate.1 = .ok () :=
    accepted.mpr ⟨⟨by decide, by decide, nofun, by decide, by decide, by decide⟩, fun _ => ruled⟩
  have again : Gate.Evolved start ((Gate.runRequest Gate.question action).run start).state :=
    Gate.Evolved.start.runRequest Gate.question fun _ evolved => evolved
  refine ⟨?_, ?_, valid, ?_⟩
  · rw [← wanted]
    exact (refused ⟨by decide, by decide, nofun, by decide, by decide, by decide⟩ rfl lacks).1
  · have same : { lacking with strict := false }.wanting = names := wanted
    rw [warned ⟨by decide, by decide, nofun, by decide, by decide, by decide⟩ rfl, same]
    rfl
  · exact told none ⟨0⟩ .empty .empty (.ofLife ⟨1000⟩ id) start _ (build_eq_ok valid _ _) rfl again
      Gate.question action _ (by decide)

end Config

end Gatekeeper
