/-
This file proves that a request which is turned away leaves no trace. Its fingerprint, if it has
been entered at all, is released again, and it was not live before; what its checks read they may
drop, but only once it has elapsed. So unless the verifier is asked, whatever happens later is
answered as if the request had never come. If the verifier is asked, the captcha that was answered
is used up; and if it says yes, and the permission then says no, the counter has been cleared as
well. There is no other difference.

What happens later may be anything that a client can do at a gate, and it may begin while other
requests are in flight.
-/
import Gatekeeper.Proofs.Footprint
import Gatekeeper.Proofs.Session
import Gatekeeper.Store.Outage

namespace Gatekeeper

open Activity (Alike)

variable {δ κ ν ε α : Type} {counts : Prop}

/-! ### What is left at the parts -/

/-- The gates show the same, metrics aside. -/
abbrev StoreRelation.metricsAside : StoreRelation DuplicateRecords DuplicateRecords AttemptRecords
    AttemptRecords CaptchaDesk CaptchaDesk :=
  upToExpired .everything False

namespace Duplicates

open StoreRelation

variable {now : Instant} {fingerprint : Fingerprint} {first second : Duplicates DuplicateRecords}

/-- A duplicate is counted, and leaves the store as it is. -/
theorem hold_rejected (start : metricsAside.OnDuplicates now first second) {rejection : Rejection}
    (rejected : ((hold now fingerprint).run first).result = .ok (.error rejection)) :
    rejection = .duplicateRejected fingerprint ∧
      metricsAside.OnDuplicates now ((hold now fingerprint).run first).state second := by
  cases live : first.guarded.store.isLive fingerprint now with
  | true =>
    rw [run_hold_of_live start.guarded.idle live] at rejected ⊢
    cases rejected
    exact ⟨rfl, start.settings, start.guarded, False.elim⟩
  | false =>
    cases within : now.after? first.settings.window with
    | none =>
      rw [run_hold_of_overflow start.guarded.idle live within] at rejected
      cases rejected
    | some expiresAt =>
      rw [run_hold_of_new start.guarded.idle live within] at rejected
      cases rejected

/-- A fingerprint that is entered and released again leaves the store as it was. -/
theorem hold_release (start : metricsAside.OnDuplicates now first second) {held : Fingerprint}
    (entered : ((hold now fingerprint).run first).result = .ok (.ok held)) :
    let released := (release now fingerprint).run ((hold now fingerprint).run first).state
    released.result = .ok () ∧ metricsAside.OnDuplicates now released.state second := by
  cases live : first.guarded.store.isLive fingerprint now with
  | true =>
    rw [run_hold_of_live start.guarded.idle live] at entered
    cases entered
  | false =>
    cases within : now.after? first.settings.window with
    | none =>
      rw [run_hold_of_overflow start.guarded.idle live within] at entered
      cases entered
    | some expiresAt =>
      have absent : first.guarded.store.live (Scope.everything.hidesRecord now) fingerprint =
          none := by
        have covered : Scope.everything.fingerprints fingerprint = true := rfl
        rw [DuplicateRecords.isLive_eq first.guarded.store covered] at live
        exact Option.isNone_iff_eq_none.mp (Option.isSome_eq_false_iff.mp live)
      rw [run_hold_of_new start.guarded.idle live within]
      dsimp only
      rw [run_release]
      · exact ⟨rfl, start.settings, ⟨start.guarded.stores.insert_erase absent expiresAt,
          start.guarded.idle, start.guarded.breaker, start.guarded.refusals⟩, False.elim⟩
      · exact start.guarded.idle

end Duplicates

/-! ### What is left at the gate -/

namespace Gate

open StoreRelation

section Checks

variable [AttemptStore κ] [CaptchaVerifier ν]

/-- A check of the challenge goes the same whatever the permissions have counted. -/
theorem run_checkAny_permissions (user : String) (kind : Option ActionKind)
    (token : Option CaptchaToken) (gate : Gate δ κ ν) (permissions : Permissions) :
    (checkAny user kind token).run { gate with permissions := permissions } =
      let checked := (checkAny user kind token).run gate
      ⟨checked.result, { checked.state with permissions := permissions }, checked.events⟩ := by
  cases kind <;> rfl

/-- The challenges once a request has been turned away. They are as they were before, or as the
check has left them; the request has then been turned away by the check, or by its permission after
it. -/
inductive Refused (request : Request) (rejection : Rejection) (before checked : Challenges κ ν)
    (verdict : Except Fault (Except Rejection Unit)) : Challenges κ ν → Prop where
  | unchecked (about : ∀ kind, rejection ≠ .challengeFailed kind) :
    Refused request rejection before checked verdict before
  | byChallenge (turned : verdict = .ok (.error rejection)) :
    Refused request rejection before checked verdict checked
  | byPermission (passed : verdict = .ok (.ok ())) (order : request.order = .challengeFirst)
    (about : ∀ kind, rejection ≠ .challengeFailed kind) :
    Refused request rejection before checked verdict checked

/-- What turns a request away is its permission or its challenge. The permission leaves nothing but
a count; it comes after the challenge only if the request asks for that. -/
theorem checks_rejected (request : Request) (kind : Option ActionKind) (gate : Gate δ κ ν)
    {rejection : Rejection}
    (rejected : ((checks request kind).run gate).result = .ok (.error rejection)) :
    let checked := (checkAny request.actor.id kind request.token).run gate
    ∃ permissions challenges,
      ((checks request kind).run gate).state =
          { gate with permissions := permissions, challenges := challenges } ∧
        permissions.rules = gate.permissions.rules ∧
        Refused request rejection gate.challenges checked.state.challenges checked.result
          challenges := by
  obtain ⟨changed, frame⟩ := checkAny_frame gate request.actor.id kind request.token
  dsimp only
  unfold checks at rejected ⊢
  cases order : request.order with
  | permissionFirst =>
    simp only [order] at rejected ⊢
    obtain ⟨rules, permitted | ⟨verdict, denied, about⟩⟩ :=
      gate.permissions.authorize_cases request.query
    · have granted : ((onPermissions (Permissions.authorize request.query)).run gate).result =
          .ok (.ok ()) := permitted
      rw [Activity.run_bind_of_ok granted] at rejected ⊢
      rw [run_onPermissions] at rejected ⊢
      dsimp only at rejected ⊢
      rw [run_checkAny_permissions] at rejected ⊢
      dsimp only at rejected ⊢
      rw [frame]
      exact ⟨_, changed, rfl, rules, .byChallenge rejected⟩
    · have turned : ((onPermissions (Permissions.authorize request.query)).run gate).result =
          .ok (.error verdict) := denied
      rw [Activity.run_bind_of_ok turned] at rejected ⊢
      cases rejected
      exact ⟨_, gate.challenges, rfl, rules, .unchecked about⟩
  | challengeFirst =>
    simp only [order] at rejected ⊢
    cases ended : ((checkAny request.actor.id kind request.token).run gate).result with
    | error fault =>
      rw [Activity.run_bind_of_error ended] at rejected
      cases rejected
    | ok verdict =>
      rw [Activity.run_bind_of_ok ended] at rejected ⊢
      rw [frame] at rejected ⊢
      cases verdict with
      | error turned =>
        cases rejected
        exact ⟨gate.permissions, changed, rfl, rfl, .byChallenge rfl⟩
      | ok granted =>
        obtain ⟨rules, permitted | ⟨verdict, denied, about⟩⟩ :=
          gate.permissions.authorize_cases request.query
        · cases permitted.symm.trans rejected
        · cases denied.symm.trans rejected
          exact ⟨_, changed, rfl, rules, .byPermission rfl order about⟩

end Checks

section Memory

variable {gate : Gate DuplicateRecords κ ν} {fingerprint : Option Fingerprint}
  {second : Duplicates DuplicateRecords}

/-- A duplicate leaves the gate as it is, but for a count. -/
theorem holdAny_rejected
    (start : metricsAside.OnDuplicates gate.now gate.duplicates second)
    {rejection : Rejection}
    (rejected : ((holdAny fingerprint).run gate).result = .ok (.error rejection)) :
    (∀ kind, rejection ≠ .challengeFailed kind) ∧
      ∃ duplicates,
        ((holdAny fingerprint).run gate).state = { gate with duplicates := duplicates } ∧
        metricsAside.OnDuplicates gate.now duplicates second := by
  cases fingerprint with
  | none => cases rejected
  | some fingerprint =>
    unfold holdAny at rejected ⊢
    rw [Activity.run_bind, run_onDuplicates] at rejected ⊢
    dsimp only at rejected ⊢
    cases held : ((Duplicates.hold gate.now fingerprint).run gate.duplicates).result with
    | error fault =>
      rw [held] at rejected
      cases rejected
    | ok verdict =>
      rw [held] at rejected
      cases verdict with
      | ok entered => cases rejected
      | error turned =>
        cases rejected
        obtain ⟨rfl, left⟩ := Duplicates.hold_rejected start held
        exact ⟨nofun, _, rfl, left⟩

/-- What has been entered is released again, whatever has happened to the other parts. -/
theorem releaseAny_held
    (start : metricsAside.OnDuplicates gate.now gate.duplicates second)
    (entered : ((holdAny fingerprint).run gate).result = .ok (.ok ()))
    {between : Gate DuplicateRecords κ ν} (now : between.now = gate.now)
    (kept : between.duplicates = ((holdAny fingerprint).run gate).state.duplicates) :
    let released := (releaseAny fingerprint).run between
    released.result = .ok () ∧
      ∃ duplicates, released.state = { between with duplicates := duplicates } ∧
        metricsAside.OnDuplicates gate.now duplicates second := by
  cases fingerprint with
  | none =>
    refine ⟨rfl, between.duplicates, rfl, ?_⟩
    rw [kept]
    exact start
  | some fingerprint =>
    have held := (holdAny_some_eq_ok_iff gate fingerprint).mp entered
    have same : between.duplicates =
        ((Duplicates.hold gate.now fingerprint).run gate.duplicates).state := by
      rw [kept]
      unfold holdAny
      rw [Activity.run_bind, run_onDuplicates]
      dsimp only
      rw [held]
      rfl
    obtain ⟨ended, left⟩ := Duplicates.hold_release start held
    rw [← same, ← now] at ended left
    rw [← now]
    exact ⟨ended, _, rfl, left⟩

variable [AttemptStore κ] [CaptchaVerifier ν]

/-- A request that is turned away leaves its duplicates as they were, and leaves nothing elsewhere
but what the check of its challenge leaves, if it comes to that. -/
theorem screen_rejected
    (start : metricsAside.OnDuplicates gate.now gate.duplicates second)
    (request : Request) {rejection : Rejection}
    (rejected : ((screen request).run gate).result = .ok (.error rejection)) :
    let kind := gate.challengedKind request
    let checked := (checkAny request.actor.id kind request.token).run gate
    ∃ permissions duplicates challenges,
      ((screen request).run gate).state = { gate with
          permissions := permissions, duplicates := duplicates, challenges := challenges } ∧
        permissions.rules = gate.permissions.rules ∧
        metricsAside.OnDuplicates gate.now duplicates second ∧
        Refused request rejection gate.challenges checked.state.challenges checked.result
          challenges := by
  obtain ⟨entry, frame⟩ := holdAny_frame gate (gate.enteredFingerprint request)
  dsimp only
  unfold screen at rejected ⊢
  rw [Activity.run_state_bind] at rejected ⊢
  cases held : ((holdAny (gate.enteredFingerprint request)).run gate).result with
  | error fault =>
    rw [Activity.run_bind_of_error held] at rejected
    cases rejected
  | ok verdict =>
    rw [Activity.run_bind_of_ok held] at rejected ⊢
    cases verdict with
    | error turned =>
      cases rejected
      obtain ⟨about, duplicates, left, kept⟩ := holdAny_rejected start held
      exact ⟨gate.permissions, duplicates, gate.challenges, left, rfl, kept, .unchecked about⟩
    | ok granted =>
      let kind := gate.challengedKind request
      let entered := ((holdAny (gate.enteredFingerprint request)).run gate).state
      obtain ⟨verdict, screened, _⟩ := Activity.result_bind_eq_ok_iff.mp rejected
      have ended : ((checks request kind).run entered).result = .ok verdict :=
        result_releasingOnFault_eq_ok_iff.mp screened
      dsimp only at rejected ⊢
      rw [Activity.run_bind_of_ok screened, run_releasingOnFault_of_ok ended] at rejected ⊢
      cases verdict with
      | ok granted => cases rejected
      | error turned =>
        have now : entered.now = gate.now := (congrArg Gate.now frame).trans rfl
        have before : entered.challenges = gate.challenges :=
          (congrArg Gate.challenges frame).trans rfl
        obtain ⟨sameResult, sameState, _⟩ :=
          checkAny_congr request.actor.id kind request.token now before
        obtain ⟨permissions, challenges, left, rules, shown⟩ :=
          checks_rejected request kind entered ended
        let between := { entered with permissions := permissions, challenges := challenges }
        have still : between.now = gate.now := now
        have unchanged : between.duplicates = entered.duplicates := rfl
        obtain ⟨released, duplicates, after, kept⟩ := releaseAny_held start held still unchanged
        dsimp only at rejected ⊢
        rw [left, Activity.run_bind_of_ok released, after] at rejected ⊢
        cases rejected
        rw [before, sameResult, sameState] at shown
        have framed : entered = { gate with duplicates := entry } := frame
        rw [framed] at rules
        refine ⟨permissions, duplicates, challenges, ?_, rules, kept, shown⟩
        show { entered with
          permissions := permissions, duplicates := duplicates, challenges := challenges } = _
        rw [framed]

end Memory

/-! ### Whether the verifier is asked -/

/-- The gate, with a count of what its verifier is asked. -/
def metered (gate : Gate δ κ ν) : Gate δ κ (Switched ν) where
  now := gate.now
  permissions := gate.permissions
  duplicates := gate.duplicates
  challenges := ⟨gate.challenges.settings, gate.challenges.guarded,
    .ofStore gate.challenges.verifier, gate.challenges.tally⟩
  sharesMetrics := gate.sharesMetrics

/-- How often the verifier is asked while a request is screened. -/
def consultations [DuplicateStore δ] [AttemptStore κ] [CaptchaVerifier ν] (request : Request)
    (gate : Gate δ κ ν) : Nat :=
  ((screen request).run gate.metered).state.challenges.verifier.calls

end Gate

namespace StoreRelation

/-- A verifier whose calls are counted replies as the verifier does. -/
def metering (δ κ ν : Type) : StoreRelation δ δ κ κ ν (Switched ν) where
  scope := .everything
  counts := True
  duplicates _ := Eq
  attempts _ := Eq
  verifiers _ verifier metered := metered.inner = verifier ∧ metered.outage = none

theorem metering_kept [DuplicateStore δ] [AttemptStore κ] [CaptchaVerifier ν] :
    (metering δ κ ν).Kept where
  tryInsert _ _ _ _ _ := .refl _
  remove _ _ _ _ := .refl _
  readAttempts _ _ _ _ := .refl _
  increment _ _ _ _ _ := .refl _
  clearAttempts _ _ _ _ := .refl _
  verify := by
    rintro now _ ⟨verifier, _, fault, calls⟩ ⟨rfl, rfl⟩ user kind token _
    exact ⟨rfl, rfl, rfl⟩

theorem onGates_metered (gate : Gate δ κ ν) : (metering δ κ ν).OnGates gate gate.metered :=
  ⟨rfl, ⟨rfl, fun _ => rfl⟩, ⟨rfl, rfl, fun _ => rfl⟩, ⟨rfl, rfl, ⟨rfl, rfl⟩, fun _ => rfl⟩, rfl⟩

end StoreRelation

/-! ### What the cases come down to -/

namespace Challenges

variable {scope : Scope} {now : Instant} {key : ChallengeKey} {before after : AttemptRecords}
  {events : List Event}

/-- What a check may drop does not show. -/
theorem Unpassed.sameLive (unpassed : Unpassed now key before events after) :
    KeyedStore.SameLive (scope.hidesWindow now) after before := by
  funext other
  by_cases same : other = key
  · subst same
    rw [← before.live_live? other now]
    unfold KeyedStore.live
    rcases unpassed.own with own | own
    · rw [own]
      exact (before.live_live? other now).symm
    · rw [own]
  · unfold KeyedStore.live
    rw [unpassed.others other same]

/-- A captcha that is passed clears the counter and does nothing else. -/
theorem Passed.sameLive (passed : Passed key before events after) (now : Instant) :
    KeyedStore.SameLive (scope.hidesWindow now) after (before.erase key) := by
  funext other
  unfold KeyedStore.live
  rw [KeyedStore.get?_erase]
  by_cases same : other = key
  · rw [if_pos same, same, passed.own]
  · rw [if_neg same, passed.others other same]

end Challenges

/-- The captcha of this identifier can no longer be answered. -/
def CaptchaDesk.spend (desk : CaptchaDesk) (id : String) : CaptchaDesk :=
  { desk with issued := desk.issued.erase id }

/-- Whoever answers a captcha that has been spent is told no. -/
theorem CaptchaDesk.verify_spend (desk : CaptchaDesk) (now : Instant) (user : String)
    (kind : ActionKind) (token : CaptchaToken) :
    ((desk.spend token.id).verify now user kind token).1 = false := by
  show (((desk.issued.erase token.id).get? token.id).any _) = false
  rw [KeyedStore.get?_erase_self]
  rfl

namespace Gate

open StoreRelation

variable {gate left : MemoryGate}

/-- The gate after the captcha of this identifier has been answered. -/
def spend (gate : MemoryGate) (id : String) : MemoryGate :=
  gate.mapVerifier fun desk => desk.spend id

/-- The gate after the counter of this user and kind has been cleared. -/
def clear (gate : MemoryGate) (key : ChallengeKey) : MemoryGate :=
  gate.mapAttemptStore fun records => records.erase key

/-- What is left of a request that is turned away. -/
inductive Remains (request : Request) (rejection : Rejection) (gate left : MemoryGate) : Prop where
  /-- The verifier has not been asked. -/
  | nothing (unasked : consultations request gate = 0)
    (about : ∀ kind, rejection ≠ .challengeFailed kind)
    (same : metricsAside.OnGates left gate)
  /-- The verifier has said no. -/
  | failure (asked : consultations request gate ≠ 0) {kind : ActionKind}
    (about : rejection = .challengeFailed kind) {token : CaptchaToken}
    (given : request.token = some token)
    (same : metricsAside.OnGates left (gate.spend token.id))
  /-- The verifier has said yes, and the permission no. -/
  | denial (asked : consultations request gate ≠ 0)
    (about : ∀ kind, rejection ≠ .challengeFailed kind)
    (order : request.order = .challengeFirst) {token : CaptchaToken}
    (given : request.token = some token) {kind : ActionKind}
    (challenged : request.challenge = some kind)
    (said : (gate.challenges.verifier.verify gate.now request.actor.id kind token).1 = true)
    (same : metricsAside.OnGates left ((gate.spend token.id).clear ⟨request.actor.id, kind⟩))

theorem challenge_of_challengedKind {request : Request} {gate : Gate δ κ ν} {kind : ActionKind}
    (challenged : gate.challengedKind request = some kind) : request.challenge = some kind := by
  unfold challengedKind at challenged
  split at challenged
  · cases challenged
  · exact challenged

/-- Whatever its challenges come down to, the rest of the gate shows what it did before. -/
def RestShown (gate left : MemoryGate)
    (challenges : Challenges AttemptRecords (Switched CaptchaDesk)) : Prop :=
  ∀ others : Challenges AttemptRecords CaptchaDesk, challenges.settings = others.settings →
    metricsAside.attempts gate.now challenges.guarded others.guarded →
    CaptchaDesk.Matches .everything gate.now challenges.verifier.inner others.verifier →
    metricsAside.OnGates left { gate with challenges := others }

theorem restShown_of_metered {permissions : Permissions} {duplicates : Duplicates DuplicateRecords}
    {challenges : Challenges AttemptRecords (Switched CaptchaDesk)}
    (related : (metering _ _ _).OnGates left { gate.metered with
      permissions := permissions, duplicates := duplicates, challenges := challenges })
    (rules : permissions.rules = gate.permissions.rules)
    (kept : metricsAside.OnDuplicates gate.now duplicates gate.duplicates) :
    RestShown gate left challenges := by
  intro others settings attempts verifier
  obtain ⟨now, ⟨sameRules, _⟩, ⟨duplicateSettings, sameDuplicates, _⟩,
    ⟨challengeSettings, sameAttempts, ⟨sameVerifier, _⟩, _⟩, sharesMetrics⟩ := related
  refine ⟨now, ⟨sameRules.trans rules, False.elim⟩,
    ⟨duplicateSettings.trans kept.settings, ?_, False.elim⟩,
    ⟨challengeSettings.trans settings, ?_, ?_, False.elim⟩, sharesMetrics⟩
  · rw [now, sameDuplicates]
    exact kept.guarded
  · rw [now, sameAttempts]
    exact attempts
  · rw [now, ← sameVerifier]
    exact verifier

section Remaining

variable {request : Request} {rejection : Rejection}

/-- If the challenges have not been touched, nothing is left. -/
theorem remains_of_untouched (start : metricsAside.OnGates gate gate)
    (rest : RestShown gate left gate.metered.challenges) (unasked : consultations request gate = 0)
    (about : ∀ kind, rejection ≠ .challengeFailed kind) : Remains request rejection gate left :=
  .nothing unasked about
    (rest gate.challenges rfl start.challenges.guarded ⟨rfl, rfl, rfl, rfl⟩)

/-- A check that does not ask the verifier leaves nothing. -/
theorem remains_of_unasked (start : metricsAside.OnGates gate gate) {key : ChallengeKey}
    {checked : Outcome (Challenges AttemptRecords (Switched CaptchaDesk)) (Except Rejection Unit)}
    (quiet : Challenges.Unasked gate.now key gate.metered.challenges checked)
    (rest : RestShown gate left checked.state)
    (asked : consultations request gate = checked.state.verifier.calls)
    (about : ∀ kind, rejection ≠ .challengeFailed kind) : Remains request rejection gate left := by
  obtain ⟨records, tally, shown, unpassed⟩ := quiet.left
  rw [shown] at rest asked
  exact .nothing asked about (rest gate.challenges rfl
    ⟨unpassed.sameLive, start.challenges.guarded.idle, rfl, rfl⟩ ⟨rfl, rfl, rfl, rfl⟩)

/-- What is left once the challenge of a kind has been checked follows from what the check has done
with the verifier. -/
theorem remains_of_check (start : metricsAside.OnGates gate gate) {kind : ActionKind}
    (wanted : request.challenge = some kind)
    {challenges : Challenges AttemptRecords (Switched CaptchaDesk)}
    (rest : RestShown gate left challenges)
    (asked : consultations request gate = challenges.verifier.calls) :
    let checked := (Challenges.check gate.now ⟨request.actor.id, kind⟩ request.token).run
      gate.metered.challenges
    Refused request rejection gate.metered.challenges checked.state checked.result challenges →
      Remains request rejection gate left := by
  intro checked refused
  have idle : gate.metered.challenges.guarded.breaker.Idle := start.challenges.guarded.idle
  have answers : CaptchaVerifier.Answers gate.metered.challenges.verifier :=
    fun _ _ _ _ => ⟨_, rfl⟩
  have trichotomy := Challenges.check_trichotomy gate.metered.now ⟨request.actor.id, kind⟩ idle
    answers request.token
  cases refused with
  | unchecked about => exact remains_of_untouched start rest asked about
  | byChallenge turned =>
    rcases trichotomy with unasked | ⟨token, given, failed | accepted⟩
    · rcases unasked.result with free | required
      · cases free.symm.trans turned
      · cases required.symm.trans turned
        exact remains_of_unasked start unasked rest asked nofun
    · cases failed.result.symm.trans turned
      obtain ⟨records, tally, shown, unpassed⟩ := failed.left
      have left : checked.state = _ := shown
      rw [left] at rest asked
      exact .failure (asked ▸ Nat.one_ne_zero) rfl given (rest _ rfl
        ⟨unpassed.sameLive, idle, rfl, rfl⟩ ⟨rfl, rfl, rfl, rfl⟩)
    · cases accepted.result.symm.trans turned
  | byPermission passed order about =>
    rcases trichotomy with unasked | ⟨token, given, failed | accepted⟩
    · exact remains_of_unasked start unasked rest asked about
    · cases failed.result.symm.trans passed
    · obtain ⟨records, tally, shown, passed⟩ := accepted.left
      have left : checked.state = _ := shown
      rw [left] at rest asked
      have said : (gate.challenges.verifier.verify gate.now request.actor.id kind token).1 = true :=
        Reply.answer.inj accepted.said
      exact .denial (asked ▸ Nat.one_ne_zero) about order given wanted said (rest _ rfl
        ⟨passed.sameLive gate.now, idle, rfl, rfl⟩ ⟨rfl, rfl, rfl, rfl⟩)

end Remaining

/-- What is left of a request that is turned away follows from what its challenge has done with the
verifier, if it has come to that. -/
theorem screen_remains (start : metricsAside.OnGates gate gate) (request : Request)
    {rejection : Rejection}
    (rejected : ((screen request).run gate).result = .ok (.error rejection)) :
    Remains request rejection gate ((screen request).run gate).state := by
  obtain ⟨sameResult, related⟩ := metering_kept.screen (Scope.everything_covers request)
    (onGates_metered gate)
  have duplicates : metricsAside.OnDuplicates gate.metered.now gate.metered.duplicates
    gate.duplicates := start.duplicates
  obtain ⟨permissions, duplicates, challenges, left, rules, kept, refused⟩ :=
    screen_rejected duplicates request (sameResult.symm.trans rejected)
  have asked : consultations request gate = challenges.verifier.calls :=
    congrArg (fun gate : Gate DuplicateRecords AttemptRecords (Switched CaptchaDesk) =>
      gate.challenges.verifier.calls) left
  rw [left] at related
  have rest := restShown_of_metered related rules kept
  cases challenged : gate.metered.challengedKind request with
  | some kind =>
    rw [challenged] at refused
    exact remains_of_check start (challenge_of_challengedKind challenged) rest asked refused
  | none =>
    rw [challenged] at refused
    cases refused with
    | unchecked about => exact remains_of_untouched start rest asked about
    | byChallenge turned => cases turned
    | byPermission passed order about => exact remains_of_untouched start rest asked about

end Gate

/-! ### Moves -/

/-- Something that happens at a gate. A request may come while others are in flight, so its coming
and its leaving are moves of their own. -/
inductive Move (ε α : Type) where
  | script (script : Script ε α)
  | come (request : Request)
  /-- The action of a request that has been let through has ended like this. -/
  | leave (pass : Pass) (ended : Except Fault (Except ε α))

/-- What is seen of a move, metrics aside. -/
inductive Sight (ε α : Type) where
  /-- A script has come to this end, and this has been observed so far. -/
  | script (ending : Except Fault (Except ε α)) (observed : List (Observation ε α))
  | came (screened : Except Fault (Except Rejection Pass))
  | left (settled : Except Fault (Except (RunError ε) α))

namespace Move

def perform : Move ε α → Activity (Session ε α) (Sight ε α)
  | script steps => do
    let ending ← steps.perform.attempt
    let session ← .state
    return .script ending (session.seen.map Prod.fst)
  | come request => return .came (← (Session.onGate (Gate.screen request)).attempt)
  | leave pass ended => return .left (← (Session.onGate (Gate.settle pass ended)).attempt)

/-- Makes some moves, in order. -/
def performAll : List (Move ε α) → Activity (Session ε α) (List (Sight ε α))
  | [] => return []
  | move :: rest => do
    let seen ← move.perform
    let others ← performAll rest
    return seen :: others

end Move

namespace Session

/-- What is seen of some moves. -/
def sights (session : Session ε α) (moves : List (Move ε α)) : Except Fault (List (Sight ε α)) :=
  ((Move.performAll moves).run session).result

def after (session : Session ε α) (moves : List (Move ε α)) : Session ε α :=
  ((Move.performAll moves).run session).state

/-- Whatever happens later, the same is seen of it. -/
def Indistinguishable (first second : Session ε α) : Prop :=
  ∀ later, first.sights later = second.sights later

end Session

/-! ### Moves at sessions that match -/

/-- A script does the same at both, since it does the same as without its asides. -/
theorem Script.performs_alike (script : Script ε α) :
    Alike (Session.Matches counts) script.perform script.perform :=
  script.perform_alike.self (fun _ _ start => start.symm) fun _ _ _ start next => start.trans next

namespace Move

theorem perform_alike (move : Move ε α) :
    Alike (Session.Matches counts) move.perform move.perform := by
  have kept := @StoreRelation.upToExpired_kept .everything counts
  cases move with
  | script steps =>
    refine steps.performs_alike.attempt.bind fun ending => ?_
    refine Alike.read fun first second start => ?_
    rw [start.observed]
    exact .pure _
  | come request =>
    refine Alike.bind (Alike.attempt (Session.onGate_alike ?_)) fun _ => .pure _
    exact kept.screen (Scope.everything_covers request)
  | leave pass ended =>
    refine Alike.bind (Alike.attempt (Session.onGate_alike ?_)) fun _ => .pure _
    exact kept.settle (Scope.everything_coversPass pass) ended

theorem performAll_alike (moves : List (Move ε α)) :
    Alike (Session.Matches counts) (performAll moves) (performAll moves) := by
  induction moves with
  | nil => exact .pure _
  | cons move rest restAlike =>
    exact move.perform_alike.bind fun _ => restAlike.bind fun _ => .pure _

end Move

namespace Session

theorem Matches.indistinguishable {first second : Session ε α}
    (start : Matches counts first second) : Indistinguishable first second :=
  fun later => (Move.performAll_alike later start).1

/-- A session that has been opened somehow matches itself at any later point. -/
theorem after_matches (config : Config) (breaker : BreakerSettings) (sharesMetrics : Bool)
    (now : Instant) (duplicates : DuplicateRecords) (attempts : AttemptRecords)
    (desk : CaptchaDesk) (earlier : List (Move ε α)) :
    let session :=
      (opened config breaker sharesMetrics now duplicates attempts desk : Session ε α).after earlier
    Matches counts session session :=
  (Move.performAll_alike earlier
    (opened_matches config breaker sharesMetrics now duplicates attempts desk)).2

/-! ### Requests that are turned away -/

/-- The session with another gate. -/
def withGate (session : Session ε α) (gate : MemoryGate) :
    Session ε α :=
  { session with holding := { session.holding with gate := gate } }

theorem Matches.withGate {session : Session ε α} (start : Matches counts session session)
    {first second : MemoryGate}
    (same : (StoreRelation.upToExpired .everything counts).OnGates first second) :
    Matches counts (session.withGate first) (session.withGate second) :=
  ⟨⟨same, start.holding.held⟩, start.observed, start.counted⟩

/-- Nobody is turned away once the action has been carried out. -/
theorem settle_ne_rejected [DuplicateStore δ] [AttemptStore κ] (pass : Pass)
    (ended : Except Fault (Except ε α)) (gate : Gate δ κ ν) (rejection : Rejection) :
    ((Gate.settle pass ended).run gate).result ≠ .ok (.error (.rejected rejection)) := by
  intro rejected
  obtain ⟨result, _, settled⟩ := Activity.result_bind_eq_ok_iff.mp rejected
  cases result with
  | ok value => cases settled
  | error error =>
    obtain ⟨_, _, told⟩ := Activity.result_bind_eq_ok_iff.mp settled
    cases told

/-- A request that is turned away is turned away when it is screened, and goes no further. -/
theorem screen_of_rejected {request : Request} {action : Activity (Session ε α) (Except ε α)}
    {session : Session ε α} {rejection : Rejection}
    (rejected : ((runRequest request action).run session).result =
      .ok (.error (.rejected rejection))) :
    let screened := (Gate.screen request).run session.holding.gate
    screened.result = .ok (.error rejection) ∧
      ((runRequest request action).run session).state = session.withGate screened.state := by
  unfold runRequest Gate.runRequestWithin at rejected ⊢
  obtain ⟨verdict, screened, followed⟩ := Activity.result_bind_eq_ok_iff.mp rejected
  rw [Activity.run_bind_of_ok screened]
  cases verdict with
  | ok pass =>
    obtain ⟨ended, _, settled⟩ := Activity.result_bind_eq_ok_iff.mp followed
    exact absurd settled (settle_ne_rejected pass ended _ rejection)
  | error turned =>
    cases followed
    exact ⟨screened, rfl⟩

/-- A request that is turned away leaves no trace. Whatever has happened at the gate before, and
whatever happens at it later: if the verifier has not been asked, the same is seen as if the request
had never come. If a captcha has not been solved, the same is seen as if it could no longer be
answered, and that is all; if it has been solved and it is the permission that turns the request
away, then moreover as if the counter of this user and kind had been cleared. -/
theorem rejection_traceless (config : Config) (breaker : BreakerSettings) (sharesMetrics : Bool)
    (now : Instant) (duplicates : DuplicateRecords) (attempts : AttemptRecords)
    (desk : CaptchaDesk) (earlier : List (Move ε α)) (request : Request)
    (action : Activity (Session ε α) (Except ε α)) (rejection : Rejection) :
    let session :=
      (opened config breaker sharesMetrics now duplicates attempts desk : Session ε α).after earlier
    let gate := session.holding.gate
    let ran := (runRequest request action).run session
    ran.result = .ok (.error (.rejected rejection)) →
      (gate.consultations request = 0 → Indistinguishable ran.state session) ∧
      (∀ kind, rejection = .challengeFailed kind → ∃ token, request.token = some token ∧
        Indistinguishable ran.state (session.withGate (gate.spend token.id))) ∧
      (gate.consultations request ≠ 0 → (∀ kind, rejection ≠ .challengeFailed kind) →
        request.order = .challengeFirst ∧ ∃ token kind, request.token = some token ∧
          request.challenge = some kind ∧
          (gate.challenges.verifier.verify gate.now request.actor.id kind token).1 = true ∧
          Indistinguishable ran.state
            (session.withGate ((gate.spend token.id).clear ⟨request.actor.id, kind⟩))) := by
  intro session gate ran rejected
  have start : Matches False session session :=
    after_matches config breaker sharesMetrics now duplicates attempts desk earlier
  obtain ⟨screened, left⟩ := screen_of_rejected rejected
  have remains := Gate.screen_remains start.holding.gate request screened
  have seen {others : MemoryGate}
      (same : StoreRelation.metricsAside.OnGates ((Gate.screen request).run gate).state others) :
      Indistinguishable ran.state (session.withGate others) := by
    rw [left]
    exact (start.withGate same).indistinguishable
  cases remains with
  | nothing unasked about same =>
    exact ⟨fun _ => seen same, fun kind failed => absurd failed (about kind),
      fun asked => absurd unasked asked⟩
  | failure asked about given same =>
    exact ⟨fun unasked => absurd unasked asked, fun _ _ => ⟨_, given, seen same⟩,
      fun _ others => absurd about (others _)⟩
  | denial asked about order given challenged said same =>
    exact ⟨fun unasked => absurd unasked asked, fun kind failed => absurd failed (about kind),
      fun _ _ => ⟨order, _, _, given, challenged, said, seen same⟩⟩

/-- Questions are asked by members of rank 10 or more, each with a captcha. -/
def questionConfig : Config :=
  { Config.standard with
    permissions := RuleTable.ofRules [(.standard .questionAdd, ⟨10, none⟩)]
    challenge := { ChallengeSettings.standard with defaultLimit := ⟨0, 300⟩ } }

/-- Ada has been issued a captcha. -/
def questionDesk : CaptchaDesk :=
  ⟨⟨1000⟩, id, 1, KeyedStore.empty.insert "1" ⟨"ada", .question, "blue", ⟨1000⟩⟩⟩

/-- She asks, but her rank is too low. -/
def questionRequest : Request :=
  ⟨⟨"ada", 5, false⟩, .standard .questionAdd, false, some .question, some ⟨"1", "blue"⟩,
    some ⟨List.replicate 32 1, rfl⟩, .challengeFirst⟩

/-- She has asked before, without answering the captcha. -/
def questionSession : Session Unit Unit :=
  (opened questionConfig .standard true ⟨0⟩ .empty .empty questionDesk).after
    [.come { questionRequest with token := none }]

/-- A member who solves her captcha and is then denied for her rank has used the captcha up, and
nothing else has changed. -/
theorem denied_after_solving :
    let gate := questionSession.holding.gate
    let ran := (runRequest questionRequest (pure (.ok ()))).run questionSession
    ran.result = .ok (.error (.rejected (.permissionDenied questionRequest.action.name))) ∧
      gate.consultations questionRequest = 1 ∧
      Indistinguishable ran.state
        (questionSession.withGate ((gate.spend "1").clear ⟨"ada", .question⟩)) := by
  have rejected : ((runRequest questionRequest (pure (.ok ()))).run questionSession).result =
      .ok (.error (.rejected (.permissionDenied questionRequest.action.name))) := rfl
  have asked : questionSession.holding.gate.consultations questionRequest = 1 := rfl
  obtain ⟨_, _, denied⟩ := rejection_traceless questionConfig .standard true ⟨0⟩ .empty .empty
    questionDesk [.come { questionRequest with token := none }] questionRequest (pure (.ok ())) _
    rejected
  obtain ⟨_, token, kind, given, challenged, _, same⟩ :=
    denied (asked ▸ Nat.one_ne_zero) nofun
  cases given
  cases challenged
  exact ⟨rejected, asked, same⟩

end Session

end Gatekeeper
