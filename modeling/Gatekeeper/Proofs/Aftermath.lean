/-
This file says what a request leaves behind at a gate on stores in memory. Of the records it touches
the one it has been admitted with, and that one is there afterwards exactly when the request has
succeeded, however else it has ended. Of the counters it touches that of its user and kind, and
counts one attempt there exactly when its action has come to its end, at the time when it did.

A request comes to an end in many ways, but a fingerprint is given back in one: what is left of the
records is put together, phase by phase, as a function of the result alone.
-/
import Gatekeeper.Proofs.Circuits
import Gatekeeper.Proofs.RateLimit
import Mathlib.Control.Monad.Basic

namespace Gatekeeper

variable {δ κ ν α ε : Type}

namespace DuplicateRecords

/-- The records once a fingerprint has been given back, if one was held. -/
def freed (records : DuplicateRecords) (held : Option Fingerprint) : DuplicateRecords :=
  held.elim records fun fingerprint => records.erase fingerprint

theorem get?_freed_self (records : DuplicateRecords) (fingerprint : Fingerprint) :
    (records.freed (some fingerprint)).get? fingerprint = none :=
  records.get?_erase_self fingerprint

theorem get?_freed_of_ne (records : DuplicateRecords) {held : Option Fingerprint}
    {fingerprint : Fingerprint} (apart : held ≠ some fingerprint) :
    (records.freed held).get? fingerprint = records.get? fingerprint := by
  cases held with
  | none => rfl
  | some other => exact records.get?_erase_of_ne fun same => apart (congrArg some same.symm)

end DuplicateRecords

/-- An attempt can be counted if the end of a new window could be represented. -/
theorem AttemptWindow.exists_next? {live : Option AttemptWindow} {now expiresAt : Instant}
    {length : Duration} (ends : now.after? length = some expiresAt) :
    ∃ window, next? live now length = some window := by
  cases live with
  | some window => exact ⟨window.count, rfl⟩
  | none => exact ⟨⟨1, expiresAt⟩, next?_none_eq_some_iff.mpr ⟨expiresAt, ends, rfl⟩⟩

namespace AttemptRecords

/-- Once an attempt has been counted, the live window counts one more than before. Only a window of
no length at all is gone as soon as it is opened. -/
theorem countAt_of_next {before after : AttemptRecords} {key : ChallengeKey} {now : Instant}
    {length : Duration} {window : AttemptWindow}
    (next : AttemptWindow.next? (before.live? key now) now length = some window)
    (counted : after.get? key = some window)
    (lasting : length.nanos ≠ 0 ∨ before.live? key now ≠ none) :
    after.countAt key now = saturatingSucc (before.countAt key now) := by
  unfold countAt
  cases live : before.live? key now with
  | some found =>
    rw [live] at next
    cases next
    have early := (AttemptWindow.live?_eq_some_iff.mp live).2
    have still : after.live? key now = some found.count :=
      AttemptWindow.live?_eq_some_iff.mpr ⟨counted, early⟩
    rw [still]
    rfl
  | none =>
    rw [live] at next lasting
    obtain ⟨expiresAt, ends, rfl⟩ := AttemptWindow.next?_none_eq_some_iff.mp next
    have later := ((Instant.after?_eq_some_iff _ _ _).mp ends).1
    have long : length.nanos ≠ 0 := lasting.resolve_right fun absent => absent rfl
    have opened : after.live? key now = some ⟨1, expiresAt⟩ :=
      AttemptWindow.live?_eq_some_iff.mpr ⟨counted, by dsimp only; omega⟩
    rw [opened]
    rfl

end AttemptRecords

/-- The pass owes an attempt at this counter. -/
def Pass.Owes (pass : Pass) (key : ChallengeKey) : Prop :=
  pass.counted = some key.kind ∧ pass.user = key.user

namespace Gate

def records (gate : Gate δ κ ν) : δ :=
  gate.duplicates.guarded.store

def windows (gate : Gate δ κ ν) : κ :=
  gate.challenges.guarded.store

/-! ### Records -/

section Records

variable {gate : Gate DuplicateRecords AttemptRecords ν}

/-- The request is entered with this fingerprint, and admitted. -/
def Admits (gate : Gate DuplicateRecords AttemptRecords ν) (request : Request)
    (fingerprint : Fingerprint) : Prop :=
  gate.enteredFingerprint request = some fingerprint ∧
    ((Duplicates.hold gate.now fingerprint).run gate.duplicates).result = .ok (.ok fingerprint)

/-- Holding a fingerprint writes its record, or changes none. -/
theorem holdAny_records (calm : gate.Calm) (fingerprint : Fingerprint) :
    let held := (holdAny (some fingerprint)).run gate
    held.result = .ok (.ok ()) ∧ (∃ expiresAt,
        gate.now.after? gate.duplicates.settings.window = some expiresAt ∧
        held.state.records = gate.records.insert fingerprint expiresAt) ∨
      held.result ≠ .ok (.ok ()) ∧ held.state.records = gate.records := by
  dsimp only
  unfold holdAny
  dsimp only
  rw [Activity.run_bind, run_onDuplicates]
  cases live : gate.records.isLive fingerprint gate.now with
  | true =>
    rw [Duplicates.run_hold_of_live calm.duplicates live]
    exact .inr ⟨nofun, rfl⟩
  | false =>
    cases within : gate.now.after? gate.duplicates.settings.window with
    | some expiresAt =>
      rw [Duplicates.run_hold_of_new calm.duplicates live within]
      exact .inl ⟨rfl, expiresAt, rfl, rfl⟩
    | none =>
      rw [Duplicates.run_hold_of_overflow calm.duplicates live within]
      exact .inr ⟨nofun, rfl⟩

theorem holdAny_record_of_entered (calm : gate.Calm) {fingerprint : Fingerprint}
    (entered : ((holdAny (some fingerprint)).run gate).result = .ok (.ok ())) :
    ∃ expiresAt, gate.now.after? gate.duplicates.settings.window = some expiresAt ∧
      ((holdAny (some fingerprint)).run gate).state.records.get? fingerprint = some expiresAt := by
  rcases holdAny_records calm fingerprint with ⟨_, expiresAt, ends, written⟩ | ⟨turned, _⟩
  · refine ⟨expiresAt, ends, ?_⟩
    rw [written, KeyedStore.get?_insert_self]
  · exact absurd entered turned

theorem holdAny_record_of_other (calm : gate.Calm) {held : Option Fingerprint}
    {fingerprint : Fingerprint}
    (apart : ¬ (held = some fingerprint ∧ ((holdAny held).run gate).result = .ok (.ok ()))) :
    ((holdAny held).run gate).state.records.get? fingerprint = gate.records.get? fingerprint := by
  cases held with
  | none => rfl
  | some other =>
    rcases holdAny_records calm other with ⟨entered, expiresAt, _, written⟩ | ⟨_, unchanged⟩
    · rw [written, KeyedStore.get?_insert_of_ne]
      rintro rfl
      exact apart ⟨rfl, entered⟩
    · rw [unchanged]

theorem releaseAny_records (calm : gate.Calm) (held : Option Fingerprint) :
    let released := (releaseAny held).run gate
    released.result = .ok () ∧ released.state.records = gate.records.freed held := by
  cases held with
  | none => exact ⟨rfl, rfl⟩
  | some fingerprint =>
    dsimp only [releaseAny]
    rw [run_onDuplicates, Duplicates.run_release calm.duplicates]
    exact ⟨rfl, rfl⟩

/-- What does not touch the records itself leaves them as they are if it comes to an end; if it is
cut short, the fingerprint is given back. -/
theorem releasingOnFault_records (calm : gate.Calm) (held : Option Fingerprint)
    {activity : Activity (Gate DuplicateRecords AttemptRecords ν) α}
    (calms : Activity.Keeps Calm activity)
    (keeps : ∀ records, Activity.Keeps (fun gate => gate.records = records) activity) :
    let outcome := (releasingOnFault held activity).run gate
    outcome.state.Calm ∧ outcome.state.records =
      match outcome.result with
      | .ok _ => gate.records
      | .error _ => gate.records.freed held := by
  have stillCalm := calms calm
  have kept : (activity.run gate).state.records = gate.records := keeps _ rfl
  dsimp only
  cases ended : (activity.run gate).result with
  | ok value =>
    rw [run_releasingOnFault_of_ok ended, ended]
    exact ⟨stillCalm, kept⟩
  | error fault =>
    obtain ⟨released, left⟩ := releaseAny_records stillCalm held
    have after : Calm ((releaseAny held).run (activity.run gate).state).state :=
      releaseAny_calm held stillCalm
    have attempted : (activity.attempt.run gate).result = .ok (.error fault) :=
      congrArg Except.ok ended
    unfold releasingOnFault
    rw [Activity.run_bind_of_ok attempted]
    dsimp only
    rw [Activity.run_attempt, Activity.run_bind_of_ok released]
    rw [kept] at left
    exact ⟨after, left⟩

theorem onPermissions_records (activity : Activity Permissions α) (records : DuplicateRecords) :
    Activity.Keeps (fun gate : Gate DuplicateRecords AttemptRecords ν => gate.records = records)
      (onPermissions activity) :=
  fun _ same => same

theorem onChallenges_records (activity : Instant → Activity (Challenges AttemptRecords ν) α)
    (records : DuplicateRecords) :
    Activity.Keeps (fun gate => gate.records = records) (onChallenges activity) :=
  fun _ same => same

/-- The fingerprint has been given back unless this is a success. -/
def GivesBack {β ρ : Type} (held : Option Fingerprint) (result : Except Fault (Except ρ β))
    (before after : DuplicateRecords) : Prop :=
  after =
    match result with
    | .ok (.ok _) => before
    | _ => before.freed held

/-- A fingerprint is given back by what does not come to its end and by what comes to a bad one, and
by nothing else. -/
theorem ending_records (calm : gate.Calm) (held : Option Fingerprint) {β β' ρ ρ' : Type}
    {activity : Activity (Gate DuplicateRecords AttemptRecords ν) (Except ρ β)}
    (calms : Activity.Keeps Calm activity)
    (keeps : ∀ records, Activity.Keeps (fun gate => gate.records = records) activity)
    {next : Except ρ β → Activity (Gate DuplicateRecords AttemptRecords ν) (Except ρ' β')}
    (ok : ∀ value state, ∃ result events,
      (next (.ok value)).run state = ⟨.ok (.ok result), state, events⟩)
    (error : ∀ reason, ∃ told, next (.error reason) = do
      releaseAny held
      return .error told) :
    let outcome := (releasingOnFault held activity >>= next).run gate
    GivesBack held outcome.result gate.records outcome.state.records := by
  obtain ⟨stillCalm, left⟩ := releasingOnFault_records calm held calms keeps
  dsimp only [GivesBack] at stillCalm left ⊢
  rw [Activity.run_bind]
  generalize (releasingOnFault held activity).run gate = ended at stillCalm left ⊢
  obtain ⟨fault | reason | value, after, events⟩ := ended
  · exact left
  · obtain ⟨told, continued⟩ := error reason
    obtain ⟨released, freed⟩ := releaseAny_records stillCalm held
    dsimp only at left released freed ⊢
    rw [continued, Activity.run_bind_of_ok released, ← left]
    exact freed
  · obtain ⟨result, more, continued⟩ := ok value after
    dsimp only at left ⊢
    rw [continued]
    exact left

/-- Once its action has ended, a request gives its fingerprint back unless it has succeeded. -/
theorem settle_records_of_calm (calm : gate.Calm) (pass : Pass)
    (ended : Except Fault (Except ε α)) :
    let outcome := (settle pass ended).run gate
    GivesBack pass.held outcome.result gate.records outcome.state.records :=
  ending_records calm pass.held
    (recording_keeps (fun kind => onChallenges_calm fun _ =>
      Challenges.record_calm ⟨pass.user, kind⟩) ended)
    (fun records => recording_keeps (fun _ => onChallenges_records _ records) ended)
    (fun _ _ => ⟨_, _, rfl⟩) fun _ => ⟨_, rfl⟩

variable [CaptchaVerifier ν]

/-- A request that has been entered and is not let through gives its fingerprint back. One that has
not been entered has nothing to give back. -/
theorem screen_records_of_calm (calm : gate.Calm) (request : Request) :
    let held := gate.enteredFingerprint request
    let entered := (holdAny held).run gate
    let outcome := (screen request).run gate
    entered.result ≠ .ok (.ok ()) ∧ outcome.state.records = entered.state.records ∨
      entered.result = .ok (.ok ()) ∧
        GivesBack held outcome.result entered.state.records outcome.state.records := by
  dsimp only
  unfold screen
  rw [Activity.run_state_bind]
  cases entered : ((holdAny (gate.enteredFingerprint request)).run gate).result with
  | error fault =>
    rw [Activity.run_bind_of_error entered]
    exact .inl ⟨nofun, rfl⟩
  | ok verdict =>
    rw [Activity.run_bind_of_ok entered]
    cases verdict with
    | error rejection => exact .inl ⟨nofun, rfl⟩
    | ok granted =>
      have checksCalm : Activity.Keeps (Calm (ν := ν))
          (checks request (gate.challengedKind request)) :=
        checks_keeps onPermissions_calm (fun kind => onChallenges_calm fun _ =>
          Challenges.check_calm ⟨request.actor.id, kind⟩ request.token) _
      exact .inr ⟨rfl, ending_records (holdAny_calm _ calm) _ checksCalm
        (fun records => checks_keeps (onPermissions_records _ records)
          (fun _ => onChallenges_records _ records) _)
        (fun () _ => ⟨_, _, rfl⟩) fun _ => ⟨_, rfl⟩⟩

theorem GivesBack.eq_of_success {β ρ : Type} {held : Option Fingerprint}
    {result : Except Fault (Except ρ β)} {before after : DuplicateRecords}
    (givesBack : GivesBack held result before after) (success : ∃ value, result = .ok (.ok value)) :
    after = before := by
  obtain ⟨value, rfl⟩ := success
  exact givesBack

theorem givesBack_of_failure {β ρ : Type} {held : Option Fingerprint}
    {result : Except Fault (Except ρ β)} {before after : DuplicateRecords}
    (failure : ¬ ∃ value, result = .ok (.ok value)) :
    GivesBack held result before after ↔ after = before.freed held := by
  obtain fault | reason | value := result
  · exact Iff.rfl
  · exact Iff.rfl
  · exact absurd ⟨value, rfl⟩ failure

end Records

/-! ### Counters -/

section Windows

variable {gate : Gate DuplicateRecords AttemptRecords ν}

theorem recordAny_windows (calm : gate.Calm) (user : String) (kind : ActionKind) :
    let key : ChallengeKey := ⟨user, kind⟩
    let length := (gate.challenges.limit kind).window
    ((recordAny user (some kind)).run gate).state.windows =
      (gate.windows.recorded? key gate.now length).elim gate.windows (gate.windows.insert key) := by
  dsimp only
  unfold recordAny
  rw [Activity.run_bind, run_onChallenges]
  cases recorded : gate.windows.recorded? ⟨user, kind⟩ gate.now
      (gate.challenges.limit kind).window with
  | none =>
    dsimp only
    rw [Challenges.run_record_of_none calm.challenges recorded]
    rfl
  | some window =>
    dsimp only
    rw [Challenges.run_record_of_some calm.challenges recorded]
    rfl

/-- An action that has come to its end is counted as an attempt. -/
theorem settle_windows_of_calm (calm : gate.Calm) {pass : Pass} {kind : ActionKind}
    (owed : pass.counted = some kind) (result : Except ε α) :
    let key : ChallengeKey := ⟨pass.user, kind⟩
    let length := (gate.challenges.limit kind).window
    ((settle pass (.ok result)).run gate).state.windows =
      (gate.windows.recorded? key gate.now length).elim gate.windows (gate.windows.insert key) := by
  have shows := settle_shows_of_ok pass result gate
  rw [owed] at shows
  dsimp only
  unfold windows
  rw [shows.challenges]
  exact recordAny_windows calm pass.user kind

/-- An action that has been cut short is not counted, and neither is one that owes no attempt. -/
theorem settle_windows_of_uncounted [DuplicateStore δ] [AttemptStore κ] {gate : Gate δ κ ν}
    {pass : Pass} {ended : Except Fault (Except ε α)}
    (uncounted : (∀ result, ended ≠ .ok result) ∨ pass.counted = none) :
    ((settle pass ended).run gate).state.windows = gate.windows := by
  unfold windows
  cases ended with
  | error fault => rw [(settle_shows_of_error pass fault gate).challenges]
  | ok result =>
    have owed := uncounted.resolve_left fun never => never result rfl
    have shows := settle_shows_of_ok pass result gate
    rw [owed] at shows
    rw [shows.challenges]
    rfl

variable [CaptchaVerifier ν]

/-- Screening a request touches no counter but its own, and that one it leaves as it is or drops. -/
theorem screen_windows_of_calm (calm : gate.Calm) (request : Request) (key : ChallengeKey) :
    let before := gate.windows
    let outcome := (screen request).run gate
    let after := outcome.state.windows
    (after.get? key = before.get? key ∨ after.get? key = before.live? key gate.now ∨
        after.get? key = none) ∧
      (gate.concerns request key = false → after.get? key = before.get? key) := by
  obtain ⟨_, records, verifier, tally, screened, checked⟩ := screen_cases calm.challenges request
  dsimp only
  unfold windows
  rw [screened]
  rcases checked with ⟨same, _⟩ | ⟨kind, challenged, _, checked⟩
  · rw [same]
    exact ⟨.inl rfl, fun _ => rfl⟩
  · by_cases own : (⟨request.actor.id, kind⟩ : ChallengeKey) = key
    · have concerned := (concerns_of_key challenged key).mpr own
      refine ⟨?_, fun apart => absurd (concerned.symm.trans apart) nofun⟩
      subst own
      rcases checked with passed | ⟨unpassed, _⟩
      · exact .inr (.inr passed.own)
      · exact unpassed.own.imp id .inl
    · have spared : records.get? key = gate.challenges.guarded.store.get? key := by
        rcases checked with passed | ⟨unpassed, _⟩
        · exact passed.others key (Ne.symm own)
        · exact unpassed.others key (Ne.symm own)
      exact ⟨.inl spared, fun _ => spared⟩

theorem screen_settings_of_calm (calm : gate.Calm) (request : Request) :
    ((screen request).run gate).state.challenges.settings = gate.challenges.settings := by
  obtain ⟨_, records, verifier, tally, screened, _⟩ := screen_cases calm.challenges request
  rw [screened]
  rfl

end Windows

/-! ### Whole runs -/

section Runs

variable {gate : Gate DuplicateRecords AttemptRecords ν}
  {action : Activity (Gate DuplicateRecords AttemptRecords ν) (Except ε α)}

/-- While the activity goes on time may pass, and nothing else happens at the gate. -/
def Aloof (activity : Activity (Gate δ κ ν) α) : Prop :=
  ∀ gate, ∃ later, (activity.run gate).state = { gate with now := later } ∧
    gate.now.nanos ≤ later.nanos

/-- A gate that conducts still does when an action has kept to itself. -/
theorem Conducts.act (conducts : gate.Conducts) (aloof : Aloof action) :
    (action.run gate).state.Conducts := by
  obtain ⟨later, acted, ordered⟩ := aloof gate
  rw [acted]
  exact conducts.later ordered

theorem Aloof.records (aloof : Aloof action) (gate : Gate DuplicateRecords AttemptRecords ν) :
    (action.run gate).state.records = gate.records := by
  obtain ⟨later, acted, _⟩ := aloof gate
  rw [acted]
  rfl

theorem Aloof.challenges (aloof : Aloof action) (gate : Gate DuplicateRecords AttemptRecords ν) :
    (action.run gate).state.challenges = gate.challenges := by
  obtain ⟨later, acted, _⟩ := aloof gate
  rw [acted]

/-- What a run leaves of the records. -/
structure RecordsLeft (gate left : Gate DuplicateRecords AttemptRecords ν) (request : Request)
    (success : Prop) : Prop where
  /-- The record of a request that has succeeded lasts for the window, from its admission on. -/
  kept : success → ∀ fingerprint, gate.Admits request fingerprint → ∃ expiresAt,
    gate.now.after? gate.duplicates.settings.window = some expiresAt ∧
      left.records.get? fingerprint = some expiresAt
  released : ¬ success → ∀ fingerprint, gate.Admits request fingerprint →
    left.records.get? fingerprint = none
  /-- No other record changes, nor does the one that a request is turned away for. -/
  others : ∀ fingerprint, ¬ gate.Admits request fingerprint →
    left.records.get? fingerprint = gate.records.get? fingerprint

/-- What a run leaves of the counters, as they were when it began and when its action ended. -/
structure WindowsLeft (gate ended left : Gate DuplicateRecords AttemptRecords ν)
    (request : Request) (returned : Prop) : Prop where
  /-- Until the action has ended nothing is counted. -/
  checked : ∀ key, ended.windows.get? key = gate.windows.get? key ∨
    ended.windows.get? key = gate.windows.live? key gate.now ∨ ended.windows.get? key = none
  /-- If it has come to its end, one attempt is counted then. -/
  counted : returned → ∀ key, gate.concerns request key = true →
    let length := (gate.challenges.limit key.kind).window
    let live := ended.windows.live? key ended.now
    (∃ expiresAt, ended.now.after? length = some expiresAt) →
      left.windows.get? key = AttemptWindow.next? live ended.now length ∧
      (length.nanos ≠ 0 ∨ live ≠ none →
        left.windows.countAt key left.now = saturatingSucc (ended.windows.countAt key ended.now))
  uncounted : ¬ returned → left.windows = ended.windows
  others : ∀ key, gate.concerns request key = false →
    left.windows.get? key = gate.windows.get? key

theorem now_settle (pass : Pass) (ended : Except Fault (Except ε α)) :
    ((settle pass ended).run gate).state.now = gate.now :=
  (settle_shows pass ended gate).elim (·.now) (·.now)

theorem owes_iff (gate : Gate DuplicateRecords AttemptRecords ν) (request : Request)
    (key : ChallengeKey) : (gate.owes request).Owes key ↔ gate.concerns request key = true := by
  unfold concerns
  rw [Bool.and_eq_true, decide_eq_true_iff, decide_eq_true_iff]
  rfl

variable [CaptchaVerifier ν]

/-- What a gate that conducts does with a request it does whatever has happened to its breakers. -/
theorem screen_calmed (conducts : gate.Conducts) (request : Request) :
    let outcome := (screen request).run gate
    let calm := (screen request).run gate.calmed
    outcome.result = calm.result ∧ (StoreRelation.conducting ν).OnGates outcome.state calm.state :=
  StoreRelation.conducting_kept.screen (Scope.everything_covers request)
    (StoreRelation.onGates_calmed conducts)

theorem settle_calmed (conducts : gate.Conducts) (pass : Pass)
    (ended : Except Fault (Except ε α)) :
    let outcome := (settle pass ended).run gate
    let calm := (settle pass ended).run gate.calmed
    outcome.result = calm.result ∧ (StoreRelation.conducting ν).OnGates outcome.state calm.state :=
  StoreRelation.conducting_kept.settle (Scope.everything_coversPass pass) ended
    (StoreRelation.onGates_calmed conducts)

theorem admits_iff_calmed (conducts : gate.Conducts) (request : Request)
    (fingerprint : Fingerprint) :
    gate.Admits request fingerprint ↔ gate.enteredFingerprint request = some fingerprint ∧
      ((holdAny (some fingerprint)).run gate.calmed).result = .ok (.ok ()) := by
  have covered : (StoreRelation.conducting ν).scope.fingerprints fingerprint = true := rfl
  have same := (StoreRelation.conducting_kept.hold gate.now covered
    (StoreRelation.onGates_calmed conducts).duplicates).1
  rw [Admits, holdAny_some_eq_ok_iff, same]
  rfl

theorem screen_records (conducts : gate.Conducts) (request : Request) :
    let held := gate.enteredFingerprint request
    let entered := (holdAny held).run gate.calmed
    let outcome := (screen request).run gate
    entered.result ≠ .ok (.ok ()) ∧ outcome.state.records = entered.state.records ∨
      entered.result = .ok (.ok ()) ∧
        GivesBack held outcome.result entered.state.records outcome.state.records := by
  obtain ⟨sameResult, related⟩ := screen_calmed conducts request
  have sameRecords : ((screen request).run gate).state.records =
      ((screen request).run gate.calmed).state.records := related.duplicates.guarded.store
  dsimp only
  rw [sameResult, sameRecords]
  exact screen_records_of_calm (calmed_calm gate) request

theorem settle_records (conducts : gate.Conducts) (pass : Pass)
    (ended : Except Fault (Except ε α)) :
    let outcome := (settle pass ended).run gate
    GivesBack pass.held outcome.result gate.records outcome.state.records := by
  obtain ⟨sameResult, related⟩ := settle_calmed conducts pass ended
  have sameRecords : ((settle pass ended).run gate).state.records =
      ((settle pass ended).run gate.calmed).state.records := related.duplicates.guarded.store
  dsimp only
  rw [sameResult, sameRecords]
  exact settle_records_of_calm (calmed_calm gate) pass ended

theorem Conducts.screen (conducts : gate.Conducts) (request : Request) :
    ((screen request).run gate).state.Conducts :=
  (screen_calmed conducts request).2.conducts

/-- A request gives back at its end what it has been entered with, unless it succeeds. -/
theorem runRequest_records (conducts : gate.Conducts) (request : Request) (aloof : Aloof action) :
    let held := gate.enteredFingerprint request
    let entered := (holdAny held).run gate.calmed
    let outcome := (runRequest request action).run gate
    entered.result ≠ .ok (.ok ()) ∧ outcome.state.records = entered.state.records ∨
      entered.result = .ok (.ok ()) ∧
        GivesBack held outcome.result entered.state.records outcome.state.records := by
  have screened := screen_records conducts request
  dsimp only at screened ⊢
  rcases runRequest_cases request action gate with ⟨pass, passed, ended, left⟩ |
    ⟨stopped, failure, left⟩
  · obtain ⟨held, _, rfl⟩ := (screen_result_eq_ok_iff request gate.calmed pass).mp
      ((screen_calmed conducts request).1.symm.trans passed)
    have entered := (screened.resolve_left fun turned => turned.1 held).2.eq_of_success ⟨_, passed⟩
    have settled := settle_records ((conducts.screen request).act aloof) (gate.calmed.owes request)
      (action.run ((screen request).run gate).state).result
    dsimp only at settled
    rw [aloof.records, entered, ← ended, ← left] at settled
    exact .inr ⟨held, settled⟩
  · rw [left, givesBack_of_failure failure]
    rw [givesBack_of_failure stopped] at screened
    exact screened

theorem recordsLeft (conducts : gate.Conducts) (request : Request) (aloof : Aloof action) :
    let outcome := (runRequest request action).run gate
    RecordsLeft gate outcome.state request (∃ value, outcome.result = .ok (.ok value)) := by
  have ran := runRequest_records conducts request aloof
  have admits := admits_iff_calmed conducts request
  dsimp only at ran ⊢
  generalize gate.enteredFingerprint request = held at ran admits
  refine ⟨fun success fingerprint admitted => ?_, fun failure fingerprint admitted => ?_,
    fun fingerprint turned => ?_⟩
  · obtain ⟨rfl, entered⟩ := (admits fingerprint).mp admitted
    rw [(ran.resolve_left fun turned => turned.1 entered).2.eq_of_success success]
    exact holdAny_record_of_entered (calmed_calm gate) entered
  · obtain ⟨rfl, entered⟩ := (admits fingerprint).mp admitted
    rw [(givesBack_of_failure failure).mp (ran.resolve_left fun turned => turned.1 entered).2]
    exact DuplicateRecords.get?_freed_self _ fingerprint
  · have apart : ¬ (held = some fingerprint ∧
        ((holdAny held).run gate.calmed).result = .ok (.ok ())) := by
      rintro ⟨rfl, entered⟩
      exact turned ((admits fingerprint).mpr ⟨rfl, entered⟩)
    have same := holdAny_record_of_other (calmed_calm gate) apart
    rcases ran with ⟨_, left⟩ | ⟨entered, givesBack⟩
    · rw [left]
      exact same
    · by_cases success : ∃ value, ((runRequest request action).run gate).result = .ok (.ok value)
      · rw [givesBack.eq_of_success success]
        exact same
      · rw [(givesBack_of_failure success).mp givesBack,
          DuplicateRecords.get?_freed_of_ne _ fun own => apart ⟨own, entered⟩]
        exact same

theorem screen_windows (conducts : gate.Conducts) (request : Request) (key : ChallengeKey) :
    let before := gate.windows
    let outcome := (screen request).run gate
    let after := outcome.state.windows
    (after.get? key = before.get? key ∨ after.get? key = before.live? key gate.now ∨
        after.get? key = none) ∧
      (gate.concerns request key = false → after.get? key = before.get? key) := by
  have same : ((screen request).run gate).state.windows =
      ((screen request).run gate.calmed).state.windows :=
    (screen_calmed conducts request).2.challenges.guarded.store
  dsimp only
  rw [same]
  exact screen_windows_of_calm (calmed_calm gate) request key

theorem screen_limit (conducts : gate.Conducts) (request : Request) (kind : ActionKind) :
    ((screen request).run gate).state.challenges.limit kind = gate.challenges.limit kind := by
  have same := (screen_calmed conducts request).2.challenges.settings
  unfold Challenges.limit
  rw [same, screen_settings_of_calm (calmed_calm gate) request]
  rfl

theorem settle_windows (conducts : gate.Conducts) {pass : Pass} {kind : ActionKind}
    (owed : pass.counted = some kind) (result : Except ε α) :
    let key : ChallengeKey := ⟨pass.user, kind⟩
    let length := (gate.challenges.limit kind).window
    ((settle pass (.ok result)).run gate).state.windows =
      (AttemptWindow.next? (gate.windows.live? key gate.now) gate.now length).elim gate.windows
        (gate.windows.insert key) := by
  have same : ((settle pass (.ok result)).run gate).state.windows =
      ((settle pass (.ok result)).run gate.calmed).state.windows :=
    (settle_calmed conducts pass (.ok result)).2.challenges.guarded.store
  rw [same, settle_windows_of_calm (calmed_calm gate) owed, AttemptRecords.recorded?_eq]
  rfl

theorem settle_window_of_owed (conducts : gate.Conducts) {pass : Pass} {key : ChallengeKey}
    (owes : pass.Owes key) (result : Except ε α) {window : AttemptWindow}
    (next : AttemptWindow.next? (gate.windows.live? key gate.now) gate.now
      (gate.challenges.limit key.kind).window = some window) :
    ((settle pass (.ok result)).run gate).state.windows.get? key = some window := by
  obtain ⟨user, kind⟩ := key
  obtain ⟨counted, rfl⟩ := owes
  rw [settle_windows conducts counted, next]
  exact KeyedStore.get?_insert_self _ _ _

theorem settle_window_of_other (conducts : gate.Conducts) {pass : Pass} {key : ChallengeKey}
    (apart : ¬ pass.Owes key) (ended : Except Fault (Except ε α)) :
    ((settle pass ended).run gate).state.windows.get? key = gate.windows.get? key := by
  cases ended with
  | error fault =>
    have never : ∀ result, (.error fault : Except Fault (Except ε α)) ≠ .ok result := nofun
    rw [settle_windows_of_uncounted (.inl never)]
  | ok result =>
    cases counted : pass.counted with
    | none => rw [settle_windows_of_uncounted (.inr counted)]
    | some kind =>
      have other : key ≠ ⟨pass.user, kind⟩ := by
        rintro rfl
        exact apart ⟨counted, rfl⟩
      rw [settle_windows conducts counted]
      cases AttemptWindow.next? _ _ _ with
      | none => rfl
      | some window => exact KeyedStore.get?_insert_of_ne _ _ other

theorem windowsLeft (conducts : gate.Conducts) (request : Request) (aloof : Aloof action) :
    let screened := (screen request).run gate
    let acted := action.run screened.state
    let outcome := (runRequest request action).run gate
    WindowsLeft gate acted.state outcome.state request
      ((∃ pass, screened.result = .ok (.ok pass)) ∧ ∃ ended, acted.result = .ok ended) := by
  dsimp only
  have checked := screen_windows conducts request
  have actedConducts := (conducts.screen request).act aloof
  have untouched := aloof.challenges ((screen request).run gate).state
  have windows : (action.run ((screen request).run gate).state).state.windows =
      ((screen request).run gate).state.windows := congrArg (·.guarded.store) untouched
  have limit : ∀ kind, (action.run ((screen request).run gate).state).state.challenges.limit kind =
      gate.challenges.limit kind := by
    intro kind
    rw [untouched]
    exact screen_limit conducts request kind
  have ran := runRequest_cases request action gate
  have passes := screen_result_eq_ok_iff request gate
  dsimp only at checked ran
  rw [← windows] at checked
  generalize (screen request).run gate = screened at *
  generalize action.run screened.state = acted at *
  generalize (runRequest request action).run gate = outcome at *
  refine ⟨fun key => (checked key).1, ?_, ?_, ?_⟩
  · rintro ⟨through, result, returned⟩ key concerned length live ⟨expiresAt, ends⟩
    obtain ⟨pass, passed, _, left⟩ := ran.resolve_right fun stopped => stopped.1 through
    obtain ⟨_, _, rfl⟩ := (passes pass).mp passed
    obtain ⟨window, next⟩ : ∃ window,
        AttemptWindow.next? live acted.state.now length = some window :=
      AttemptWindow.exists_next? ends
    rw [returned] at left
    have counted := settle_window_of_owed actedConducts ((owes_iff gate request key).mpr concerned)
      result (by rw [limit]; exact next)
    rw [← left] at counted
    have now : outcome.state.now = acted.state.now := by rw [left, now_settle]
    rw [now]
    exact ⟨counted.trans next.symm, AttemptRecords.countAt_of_next next counted⟩
  · intro unreturned
    rcases ran with ⟨pass, passed, _, left⟩ | ⟨_, _, left⟩
    · have never : ∀ result, acted.result ≠ .ok result := fun result returned =>
        unreturned ⟨⟨pass, passed⟩, result, returned⟩
      rw [left, settle_windows_of_uncounted (.inl never)]
    · rw [left, windows]
  · intro key apart
    rcases ran with ⟨pass, passed, _, left⟩ | ⟨_, _, left⟩
    · obtain ⟨_, _, rfl⟩ := (passes pass).mp passed
      have other : ¬ (gate.owes request).Owes key := fun owed =>
        nomatch apart.symm.trans ((owes_iff gate request key).mp owed)
      rw [left, settle_window_of_other actedConducts other]
      exact (checked key).2 apart
    · rw [left, ← windows]
      exact (checked key).2 apart

/-- What one run leaves behind, at any gate on stores in memory whose circuits let calls through, as
they do in every state that a gate comes to unless its breakers are operated by hand. The run may be
of any request, and its action may take any time and end in any way.

The record of the fingerprint that the request has been admitted with is there afterwards, for its
window from the admission on, if the run has succeeded, and is not there otherwise; no other record
changes, and neither does the one that the request has been turned away for. If the action has been
carried out and has come to its end, one attempt is counted where the request is challenged, at the
time when the action ended; otherwise none is, and nowhere else does any counter change. -/
theorem runRequest_leaves (config : Config) (breaker : BreakerSettings) (sharesMetrics : Bool)
    (now : Instant) (records : DuplicateRecords) (windows : AttemptRecords) (verifier : ν) :
    let start := assemble config breaker sharesMetrics now records windows verifier
    (∀ gate, Reached start gate → gate.Conducts) ∧
      ∀ gate : Gate DuplicateRecords AttemptRecords ν, gate.Conducts → ∀ (request : Request)
        (action : Activity (Gate DuplicateRecords AttemptRecords ν) (Except ε α)), Aloof action →
        let acted := action.run ((screen request).run gate).state
        let counted := (runRequest request (counting action)).run (gate.counted 0)
        let outcome := (runRequest request action).run gate
        RecordsLeft gate outcome.state request (∃ value, outcome.result = .ok (.ok value)) ∧
          WindowsLeft gate acted.state outcome.state request
            (counted.state.executions = 1 ∧ ∃ ended, acted.result = .ok ended) := by
  intro start
  refine ⟨fun gate reached => (reached.calm ?_).conducts, fun gate conducts request action aloof =>
    ⟨recordsLeft conducts request aloof, ?_⟩⟩
  · exact assemble_calm config breaker sharesMetrics now records windows verifier
  · rw [executions_eq_one_iff]
    exact windowsLeft conducts request aloof

end Runs

/-- A gate at which members may ask questions, with counting windows of this many seconds. -/
def forum (breaker : BreakerSettings) (windowSeconds : UInt64) :
    Gate DuplicateRecords AttemptRecords CaptchaDesk :=
  let config := { Config.standard with
    permissions := RuleTable.ofRules [(.standard .questionAdd, ⟨10, none⟩)]
    challenge := { ChallengeSettings.standard with defaultLimit := ⟨5, windowSeconds⟩ } }
  assemble config breaker true ⟨0⟩ .empty .empty (.ofLife ⟨1000⟩ id)

/-- The same question, asked three seconds after it has been asked and taking one second to be
written down. -/
def questionAgain : Visit Unit Unit :=
  ⟨.ofSeconds 3, question, .ofSeconds 1, .ok ()⟩

theorem runRequest_leaves_again :
    let start := forum .standard 300
    let asked := ((runRequest question (pure (.ok ()) : Activity _ (Except Unit Unit))).run
      start).state
    let gate := questionAgain.arrive asked
    let left := ((runRequest question questionAgain.action).run gate).state
    left.records.get? ⟨List.replicate 32 0, rfl⟩ = some ⟨5000000000⟩ ∧
      left.windows.countAt ⟨"ada", .question⟩ left.now = 2 := by
  intro start asked gate left
  have acts : ∀ gate, Reached start gate →
      Reached start ((pure (.ok ()) : Activity _ (Except Unit Unit)).run gate).state :=
    fun _ reached => reached
  have once : Reached start asked := Reached.start.runRequest question acts
  obtain ⟨circuits, leaves⟩ := runRequest_leaves { Config.standard with
    permissions := RuleTable.ofRules [(.standard .questionAdd, ⟨10, none⟩)]
    challenge := { ChallengeSettings.standard with defaultLimit := ⟨5, 300⟩ } }
    .standard true ⟨0⟩ .empty .empty (CaptchaDesk.ofLife ⟨1000⟩ id)
  obtain ⟨records, windows⟩ := leaves gate (circuits gate (once.waited _)) question
    questionAgain.action questionAgain.state_action
  have executed : ((runRequest question (counting questionAgain.action)).run
    (gate.counted 0)).state.executions = 1 := by decide +kernel
  have succeeded : ((runRequest question questionAgain.action).run gate).result = .ok (.ok ()) := by
    decide +kernel
  have admitted : gate.Admits question ⟨List.replicate 32 0, rfl⟩ := by
    refine ⟨rfl, ?_⟩
    decide +kernel
  obtain ⟨expiresAt, ends, kept⟩ := records.kept ⟨(), succeeded⟩ _ admitted
  have returned : ((questionAgain.action (δ := DuplicateRecords)).run
    ((screen question).run gate).state).result = .ok (.ok ()) := by decide +kernel
  have counted := (windows.counted ⟨executed, _, returned⟩ ⟨"ada", .question⟩ (by decide +kernel)
    ⟨⟨304000000000⟩, by decide +kernel⟩).2
  refine ⟨kept.trans (ends.symm.trans (by decide +kernel)), ?_⟩
  rw [counted (.inl (by decide +kernel))]
  decide +kernel

/-- Where counting windows have no length an attempt is not seen, and while the circuit of its store
is open a request is let in without a record. -/
theorem runRequest_leaves_less :
    let action : Activity (Gate DuplicateRecords AttemptRecords CaptchaDesk) (Except Unit Unit) :=
      pure (.ok ())
    let brief := forum .standard 0
    let acted := action.run ((screen question).run brief).state
    let passed := (runRequest question action).run brief
    let key : ChallengeKey := ⟨"ada", .question⟩
    let failure := onBreaker .duplicates fun now => .change fun breaker => (breaker.fail now).2
    let shut := (failure.run (forum ⟨1, 30⟩ 300)).state
    let missed := (runRequest question action).run shut
    let fingerprint : Fingerprint := ⟨List.replicate 32 0, rfl⟩
    (passed.result = .ok (.ok ()) ∧ brief.concerns question key = true ∧
        passed.state.windows.countAt key passed.state.now ≠
          saturatingSucc (acted.state.windows.countAt key acted.state.now)) ∧
      missed.result = .ok (.ok ()) ∧ shut.Admits question fingerprint ∧
        missed.state.records.get? fingerprint = none := by
  intro action brief acted passed key failure shut missed fingerprint
  refine ⟨⟨?_, ?_, ?_⟩, ?_, ⟨?_, ?_⟩, ?_⟩
  all_goals decide +kernel

end Gate

end Gatekeeper
