/-
This file is about ends that lie beyond the last instant there is. A store in memory faults when it
would have to write such an end, and only then: while an entry is live, how long a new one would
last does not matter. A fault leaves the store as it was, down to an entry that has expired.

So a request whose attempt cannot be counted is cut short with nothing counted anywhere. Its
fingerprint is given back on the way out, if the circuit of the duplicates still lets calls through.
-/
import Gatekeeper.Proofs.Aftermath
import Gatekeeper.Proofs.RightAnswer

namespace Gatekeeper

open Activity (Keeps)

variable {δ κ σ α ε ν : Type}

/-! ### Entries with an end -/

/-- A call that writes an entry of some length faults exactly when there is none that is live and
the end of a new one cannot be represented. When it faults the store is as before, and while there
is a live entry the length does not matter. -/
structure FaultsWhole (store : σ) (now : Instant) (live : Prop)
    (call : Duration → Reply α × σ) : Prop where
  faults : ∀ length, (∃ fault, (call length).1 = .fault fault) ↔
    ¬ live ∧ Instant.horizon ≤ now.nanos + length.nanos
  unchanged : ∀ length, (∃ fault, (call length).1 = .fault fault) → (call length).2 = store
  indifferent : live → ∀ length other, call length = call other

/-- It is enough to know the call in three cases: there is a live entry, or the end of a new one can
be represented, or neither. -/
theorem FaultsWhole.of_cases {store : σ} {now : Instant} {live : Prop}
    {call : Duration → Reply α × σ}
    (found : live → ∃ value after, ∀ length, call length = (.answer value, after))
    (within : ¬ live → ∀ length expiresAt, now.after? length = some expiresAt →
      ∃ value, (call length).1 = .answer value)
    (beyond : ¬ live → ∀ length, now.after? length = none →
      call length = (.fault .expiryOverflow, store)) :
    FaultsWhole store now live call := by
  by_cases lives : live
  · obtain ⟨value, after, same⟩ := found lives
    have never : ∀ length, ¬ ∃ fault, (call length).1 = .fault fault := by
      rintro length ⟨fault, faulted⟩
      rw [same] at faulted
      cases faulted
    exact ⟨fun length => iff_of_false (never length) fun both => both.1 lives,
      fun length faulted => absurd faulted (never length),
      fun _ length other => (same length).trans (same other).symm⟩
  · refine ⟨fun length => ?_, fun length => ?_, fun live => absurd live lives⟩
    · rw [← Instant.after?_eq_none_iff]
      cases ends : now.after? length with
      | none => exact iff_of_true ⟨_, congrArg Prod.fst (beyond lives length ends)⟩ ⟨lives, rfl⟩
      | some expiresAt =>
        obtain ⟨value, answered⟩ := within lives length expiresAt ends
        refine iff_of_false ?_ fun both => nomatch both.2
        rintro ⟨fault, faulted⟩
        cases answered.symm.trans faulted
    · rintro ⟨fault, faulted⟩
      cases ends : now.after? length with
      | none => exact congrArg Prod.snd (beyond lives length ends)
      | some expiresAt =>
        obtain ⟨value, answered⟩ := within lives length expiresAt ends
        cases answered.symm.trans faulted

theorem DuplicateRecords.tryInsert_faultsWhole (records : DuplicateRecords)
    (fingerprint : Fingerprint) (now : Instant) :
    FaultsWhole records now
      (∃ expiresAt, records.get? fingerprint = some expiresAt ∧ now.nanos < expiresAt.nanos)
      (records.tryInsert fingerprint now) := by
  rw [← isLive_eq_true_iff]
  refine .of_cases (fun live => ⟨false, records, fun _ => if_pos live⟩) ?_ ?_
  · intro new window expiresAt ends
    exact ⟨true, by rw [tryInsert, if_neg new, ends]⟩
  · intro new window ends
    rw [tryInsert, if_neg new, ends]

theorem AttemptRecords.increment_faultsWhole (records : AttemptRecords) (key : ChallengeKey)
    (now : Instant) :
    FaultsWhole records now
      (∃ window, records.get? key = some window ∧ now.nanos < window.expiresAt.nanos)
      (records.increment key now) := by
  have live_iff : (∃ window, records.get? key = some window ∧
      now.nanos < window.expiresAt.nanos) ↔ ∃ window, records.live? key now = some window :=
    exists_congr fun window => AttemptWindow.live?_eq_some_iff.symm
  have fresh : ∀ {length}, (¬ ∃ window, records.live? key now = some window) →
      records.recorded? key now length = (AttemptWindow.open? now length).map .count := by
    intro length new
    rw [recorded?_eq, Option.eq_none_iff_forall_ne_some.mpr fun window live => new ⟨window, live⟩]
    rfl
  rw [live_iff]
  refine .of_cases ?_ ?_ ?_
  · rintro ⟨window, live⟩
    refine ⟨window.count.attempts, records.insert key window.count, fun length => ?_⟩
    rw [increment, recorded?_eq, live]
    rfl
  · intro new length expiresAt ends
    refine ⟨1, ?_⟩
    rw [increment, fresh new, AttemptWindow.open?, ends]
    rfl
  · intro new length ends
    rw [increment, fresh new, AttemptWindow.open?, ends]
    rfl

/-- Issuing faults exactly when the end of a captcha's life cannot be represented, and then issues
nothing. -/
theorem CaptchaDesk.issue_faults_iff (desk : CaptchaDesk) (now : Instant) (user : String)
    (kind : ActionKind) (answer : String) :
    let issue := desk.issue now user kind answer
    ((∃ fault, issue.1 = .error fault) ↔ Instant.horizon ≤ now.nanos + desk.life.nanos) ∧
      ((∃ fault, issue.1 = .error fault) → issue.2.issued = desk.issued) := by
  rw [← Instant.after?_eq_none_iff]
  cases ends : now.after? desk.life with
  | none =>
    rw [issue_of_none ends]
    exact ⟨iff_of_true ⟨_, rfl⟩ rfl, fun _ => rfl⟩
  | some expiresAt =>
    rw [issue_of_some ends]
    exact ⟨iff_of_false (fun ⟨_, faulted⟩ => nomatch faulted) nofun,
      fun ⟨_, faulted⟩ => nomatch faulted⟩

/-! ### Calls behind a breaker -/

/-- What asking faults with is a fault of the store, which is left as that call leaves it. -/
theorem GuardedStore.ask_error {now : Instant} {policy : FailurePolicy} {call : StoreCall}
    {subject : StoreSubject} {question : σ → Reply α × σ} {guarded : GuardedStore σ} {fault : Fault}
    (faulted : ((ask now policy call subject question).run guarded).result = .error fault) :
    (question guarded.store).1 = .fault fault ∧
      ((ask now policy call subject question).run guarded).state.store =
        (question guarded.store).2 := by
  rw [ask_result] at faulted
  cases allowed : (guarded.breaker.allow now).1 with
  | false => rw [allowed] at faulted; cases faulted
  | true =>
    cases reply : (question guarded.store).1 with
    | answer value => rw [allowed, reply] at faulted; cases faulted
    | refused error => rw [allowed, reply] at faulted; cases faulted
    | fault fault =>
      rw [allowed, reply] at faulted
      cases faulted
      simp only [Activity.run, ask, allowed, reply, if_true, and_self]

instance (breaker : Breaker) (now : Instant) : Decidable (breaker.Conducts now) :=
  inferInstanceAs (Decidable ((breaker.allow now).1 = true))

/-- A release comes to its end whatever becomes of it. It removes the fingerprint if the circuit
lets the call through, and otherwise changes no record. -/
theorem Duplicates.release_cases (duplicates : Duplicates DuplicateRecords) (now : Instant)
    (fingerprint : Fingerprint) :
    let released := (release now fingerprint).run duplicates
    released.result = .ok () ∧
      released.state.guarded.store =
        if duplicates.guarded.breaker.Conducts now then duplicates.guarded.store.erase fingerprint
        else duplicates.guarded.store := by
  have answered : DuplicateStore.remove duplicates.guarded.store fingerprint =
      (.answer (), duplicates.guarded.store.erase fingerprint) := rfl
  dsimp only
  rw [release, Activity.run_bind, run_ask]
  cases conducts : (duplicates.guarded.breaker.allow now).1 with
  | true =>
    simp only [Activity.run, GuardedStore.ask, Breaker.Conducts, answered, conducts, if_true]
    exact ⟨rfl, rfl⟩
  | false =>
    simp only [Activity.run, GuardedStore.ask, Breaker.Conducts, conducts, Bool.false_eq_true,
      if_false]
    exact ⟨rfl, rfl⟩

/-- An attempt that cannot be counted leaves the counters as they are, and then no live window has
been there. -/
theorem AttemptRecords.increment_fault {records : AttemptRecords} {key : ChallengeKey}
    {now : Instant} {length : Duration} {fault : Fault}
    (faulted : (records.increment key now length).1 = .fault fault) :
    fault = .expiryOverflow ∧ records.live? key now = none ∧
      (records.increment key now length).2 = records := by
  unfold increment at faulted ⊢
  cases recorded : records.recorded? key now length with
  | some window => rw [recorded] at faulted; cases faulted
  | none =>
    rw [recorded] at faulted
    cases faulted
    rw [recorded?_eq] at recorded
    refine ⟨rfl, ?_, rfl⟩
    cases live : records.live? key now with
    | none => rfl
    | some window => rw [live] at recorded; cases recorded

namespace Challenges

variable {now : Instant} {key : ChallengeKey} {challenges : Challenges AttemptRecords ν}

theorem record_error {fault : Fault}
    (faulted : ((record now key).run challenges).result = .error fault) :
    let left := ((record now key).run challenges).state
    fault = .expiryOverflow ∧ challenges.guarded.store.live? key now = none ∧
      left.guarded.store = challenges.guarded.store ∧ left.tally = challenges.tally := by
  unfold record at faulted ⊢
  rw [Activity.run_state_bind, Activity.run_bind, run_ask] at faulted ⊢
  split at faulted
  · next answer _ => cases answer <;> cases faulted
  · next fault asked =>
    cases faulted
    obtain ⟨replied, left⟩ := GuardedStore.ask_error asked
    obtain ⟨overflow, unopened, unchanged⟩ := AttemptRecords.increment_fault replied
    exact ⟨overflow, unopened, left.trans unchanged, rfl⟩

/-! ### Checks count no attempts -/

/-- So many attempts have been counted since the counts began. -/
def Counted (attempts : UInt64) (challenges : Challenges κ ν) : Prop :=
  challenges.tally.attemptsRecorded = attempts

section Checks

variable {attempts : UInt64}

theorem ask_counted {call : StoreCall} {question : κ → Reply α × κ} :
    Keeps (Counted (ν := ν) attempts) (ask now call key question) :=
  .read fun _ _ counted => counted

variable [AttemptStore κ]

theorem level_counted : Keeps (Counted (κ := κ) (ν := ν) attempts) (level now key) := by
  refine .read fun challenges => ?_
  dsimp only
  split
  · exact .pure _
  · refine ask_counted.bind fun answer => ?_
    cases answer with
    | some attempts => exact .pure _
    | none => cases challenges.settings.onStoreError <;> exact .pure _

variable [CaptchaVerifier ν]

theorem verify_counted (token : CaptchaToken) :
    Keeps (Counted (κ := κ) (ν := ν) attempts) (verify now key token) := by
  have consulted : Keeps (Counted (κ := κ) (ν := ν) attempts) (consult now key token) := by
    intro challenges counted
    rw [run_consult]
    dsimp only
    split <;> exact counted
  refine consulted.bind fun passed => ?_
  split
  · refine Keeps.bind (.change fun _ counted => counted) fun _ => ?_
    exact ask_counted.bind fun _ => (Keeps.log _).bind fun _ => .pure _
  · exact Keeps.bind (.change fun _ counted => counted) fun _ => (Keeps.log _).bind fun _ => .pure _

theorem check_counted (token : Option CaptchaToken) :
    Keeps (Counted (κ := κ) (ν := ν) attempts) (check now key token) := by
  refine level_counted.bind fun level => ?_
  split
  · cases token with
    | none => exact Keeps.bind (.change fun _ counted => counted) fun _ => .pure _
    | some given =>
      refine (verify_counted given).bind fun verification => ?_
      cases verification <;> exact .pure _
  · exact .pure _

end Checks

end Challenges

/-! ### Requests -/

namespace Gate

variable {gate : Gate DuplicateRecords AttemptRecords ν}

/-- Giving a fingerprint back always comes to its end, and concerns the duplicates only. -/
theorem releaseAny_cases (gate : Gate DuplicateRecords AttemptRecords ν)
    (held : Option Fingerprint) :
    let released := (releaseAny held).run gate
    released.result = .ok () ∧ released.state.now = gate.now ∧
      released.state.challenges = gate.challenges ∧
      released.state.records =
        if gate.duplicates.guarded.breaker.Conducts gate.now then gate.records.freed held
        else gate.records := by
  cases held with
  | none => exact ⟨rfl, rfl, rfl, (ite_self _).symm⟩
  | some fingerprint =>
    obtain ⟨released, left⟩ := gate.duplicates.release_cases gate.now fingerprint
    exact ⟨released, rfl, rfl, left⟩

/-- An activity that a fault cuts short has the fingerprint given back on the way out. -/
theorem releasingOnFault_of_error {activity : Activity (Gate DuplicateRecords AttemptRecords ν) α}
    {fault : Fault} (cut : (activity.run gate).result = .error fault)
    (held : Option Fingerprint) :
    let outcome := (releasingOnFault held activity).run gate
    outcome.result = .error fault ∧
      outcome.state = ((releaseAny held).run (activity.run gate).state).state := by
  have attempted : (activity.attempt.run gate).result = .ok (.error fault) :=
    congrArg Except.ok cut
  have released := (releaseAny_cases (activity.run gate).state held).1
  unfold releasingOnFault
  rw [Activity.run_bind_of_ok attempted]
  dsimp only
  rw [Activity.run_attempt, Activity.run_bind_of_ok released]
  exact ⟨rfl, rfl⟩

/-- A request whose attempt cannot be counted is cut short there. -/
theorem settle_of_fault (pass : Pass) {fault : Fault}
    (faulted : ((recordAny pass.user pass.counted).run gate).result = .error fault)
    (result : Except ε α) :
    let recorded := (recordAny pass.user pass.counted).run gate
    let settled := (settle pass (.ok result)).run gate
    settled.result = .error fault ∧
      settled.state = ((releaseAny pass.held).run recorded.state).state := by
  have recording := Activity.run_bind_of_error faulted fun _ =>
    (pure result : Activity _ (Except ε α))
  obtain ⟨ended, left⟩ := releasingOnFault_of_error (congrArg Outcome.result recording) pass.held
  unfold settle
  dsimp only
  rw [Activity.run_bind_of_error ended]
  exact ⟨rfl, left.trans (by rw [recording])⟩

theorem recordAny_of_error {user : String} {kind : ActionKind} {fault : Fault}
    (faulted : ((Challenges.record gate.now ⟨user, kind⟩).run gate.challenges).result =
      .error fault) :
    let recorded := (recordAny user (some kind)).run gate
    recorded.result = .error fault ∧ recorded.state =
      { gate with challenges :=
        ((Challenges.record gate.now ⟨user, kind⟩).run gate.challenges).state } := by
  have recording : ((onChallenges fun now => Challenges.record now ⟨user, kind⟩).run gate).result =
      .error fault := faulted
  unfold recordAny
  rw [Activity.run_bind_of_error recording, run_onChallenges]
  exact ⟨rfl, rfl⟩

/-- What a run leaves whose action has come to its end and whose attempt could not be counted. -/
structure CutShort (gate screened acted left : Gate DuplicateRecords AttemptRecords ν)
    (pass : Pass) (kind : ActionKind) : Prop where
  windows : left.windows = acted.windows
  unseen : left.windows.live? ⟨pass.user, kind⟩ left.now = none
  tally : left.challenges.tally = acted.challenges.tally
  /-- Nothing has been counted before the action either. -/
  screened : screened.challenges.tally.attemptsRecorded = gate.challenges.tally.attemptsRecorded
  records : left.records =
    if acted.duplicates.guarded.breaker.Conducts acted.now then acted.records.freed pass.held
    else acted.records

theorem settle_cutShort {pass : Pass} {kind : ActionKind} (owed : pass.counted = some kind)
    {fault : Fault}
    (faulted : ((Challenges.record gate.now ⟨pass.user, kind⟩).run gate.challenges).result =
      .error fault)
    (result : Except ε α) {before screened : Gate DuplicateRecords AttemptRecords ν}
    (uncounted : screened.challenges.tally.attemptsRecorded =
      before.challenges.tally.attemptsRecorded) :
    let settled := (settle pass (.ok result)).run gate
    settled.result = .error .expiryOverflow ∧
      CutShort before screened gate settled.state pass kind := by
  obtain ⟨rfl, unopened, windows, tally⟩ := Challenges.record_error faulted
  obtain ⟨cut, recorded⟩ := recordAny_of_error faulted
  rw [← owed] at cut recorded
  obtain ⟨ended, left⟩ := settle_of_fault pass cut result
  rw [recorded] at left
  obtain ⟨_, now, challenges, records⟩ := releaseAny_cases
    { gate with challenges :=
      ((Challenges.record gate.now ⟨pass.user, kind⟩).run gate.challenges).state } pass.held
  rw [← left] at now challenges records
  have same : ((settle pass (.ok result)).run gate).state.windows = gate.windows :=
    (congrArg (·.guarded.store) challenges).trans windows
  refine ⟨ended, same, ?_, (congrArg (·.tally) challenges).trans tally, uncounted, records⟩
  rw [same, now]
  exact unopened

theorem screen_counted [CaptchaVerifier ν] (gate : Gate DuplicateRecords AttemptRecords ν)
    (request : Request) :
    ((screen request).run gate).state.challenges.tally.attemptsRecorded =
      gate.challenges.tally.attemptsRecorded := by
  have keeps : Keeps (fun later : Gate DuplicateRecords AttemptRecords ν =>
      later.challenges.Counted gate.challenges.tally.attemptsRecorded) (screen request) :=
    screen_keeps (fun _ _ _ counted => counted) (fun _ _ _ counted => counted)
      (fun _ counted => counted) fun kind gate counted =>
        Challenges.check_counted request.token counted
  exact keeps rfl

/-- An end that cannot be represented is never stored. Whatever is in the stores, entering a
fingerprint and counting an attempt fault exactly when there is no live entry and the end of a new
one would lie beyond the last instant there is; issuing a captcha faults exactly when the end of its
life would. What faults changes no entry, and while an entry is live the length of a new one does
not matter.

If counting the attempt of a request faults in this way once its action has come to its end, the
request ends with that fault, with no attempt in its counter and none added to the tally. Its
fingerprint is given back, unless the circuit of the duplicates does not let the call through; in
the states that a gate comes to it does, as long as nobody operates the breakers by hand. -/
theorem overflow_stores_nothing [CaptchaVerifier ν] (config : Config) (breaker : BreakerSettings)
    (sharesMetrics : Bool) (now : Instant) (records : DuplicateRecords) (windows : AttemptRecords)
    (verifier : ν) :
    (∀ (records : DuplicateRecords) (fingerprint : Fingerprint) (now : Instant),
        FaultsWhole records now
          (∃ expiresAt, records.get? fingerprint = some expiresAt ∧ now.nanos < expiresAt.nanos)
          (records.tryInsert fingerprint now)) ∧
      (∀ (windows : AttemptRecords) (key : ChallengeKey) (now : Instant),
        FaultsWhole windows now
          (∃ window, windows.get? key = some window ∧ now.nanos < window.expiresAt.nanos)
          (windows.increment key now)) ∧
      (∀ (desk : CaptchaDesk) (now : Instant) (user : String) (kind : ActionKind)
        (answer : String),
        let issue := desk.issue now user kind answer
        ((∃ fault, issue.1 = .error fault) ↔ Instant.horizon ≤ now.nanos + desk.life.nanos) ∧
          ((∃ fault, issue.1 = .error fault) → issue.2.issued = desk.issued)) ∧
      (∀ gate, Reached (assemble config breaker sharesMetrics now records windows verifier) gate →
        gate.Conducts) ∧
      ∀ (gate : Gate DuplicateRecords AttemptRecords ν) (request : Request)
        (action : Activity (Gate DuplicateRecords AttemptRecords ν) (Except ε α)) (pass : Pass)
        (kind : ActionKind) (result : Except ε α) (fault : Fault),
        let screened := (screen request).run gate
        let acted := action.run screened.state
        let outcome := (runRequest request action).run gate
        screened.result = .ok (.ok pass) → acted.result = .ok result → pass.counted = some kind →
        ((Challenges.record acted.state.now ⟨pass.user, kind⟩).run
          acted.state.challenges).result = .error fault →
        outcome.result = .error .expiryOverflow ∧
          CutShort gate screened.state acted.state outcome.state pass kind := by
  refine ⟨DuplicateRecords.tryInsert_faultsWhole, AttemptRecords.increment_faultsWhole,
    CaptchaDesk.issue_faults_iff, fun gate reached => (reached.calm ?_).conducts, ?_⟩
  · exact assemble_calm config breaker sharesMetrics now records windows verifier
  · intro gate request action pass kind result fault screened acted outcome passed returned owed
      faulted
    obtain ⟨other, passed', ended, left⟩ :=
      (runRequest_cases request action gate).resolve_right fun stopped => stopped.1 ⟨pass, passed⟩
    cases passed.symm.trans passed'
    rw [returned] at ended left
    have cut := settle_cutShort owed faulted result (screen_counted gate request)
    rw [ended, left]
    exact cut

/-- A question at a forum whose counting windows would end beyond the last instant there is. -/
theorem overflow_stores_nothing_of_question :
    let start := forum .standard 0xFFFFFFFFFFFFFFFF
    let outcome := (runRequest question (pure (.ok ()) : Activity _ (Except Unit Unit))).run start
    outcome.result = .error .expiryOverflow ∧
      outcome.state.records.get? ⟨List.replicate 32 0, rfl⟩ = none := by
  intro start outcome
  obtain ⟨_, _, _, _, runs⟩ := overflow_stores_nothing (ε := Unit) (α := Unit) .standard .standard
    true ⟨0⟩ .empty .empty (CaptchaDesk.ofLife ⟨1000⟩ id)
  have passed : ((screen question).run start).result = .ok (.ok (start.owes question)) := by
    refine (screen_result_eq_ok_iff question start _).mpr ⟨?_, ?_, rfl⟩
    all_goals decide +kernel
  obtain ⟨ended, cut⟩ := runs start question (pure (.ok ())) (start.owes question) .question
    (.ok ()) .expiryOverflow passed rfl (by decide +kernel) (by decide +kernel)
  refine ⟨ended, ?_⟩
  rw [cut.records, if_pos (by decide +kernel)]
  exact DuplicateRecords.get?_freed_self _ _

/-- While the circuit of the duplicates is open a request that is cut short keeps its record. -/
theorem overflow_keeps_record :
    let start := forum ⟨1, 60⟩ 0xFFFFFFFFFFFFFFFF
    let action : Activity (Gate DuplicateRecords AttemptRecords CaptchaDesk) (Except Unit Unit) :=
      do
        onBreaker .duplicates fun now => .change fun breaker => (breaker.fail now).2
        return .ok ()
    let acted := action.run ((screen question).run start).state
    let outcome := (runRequest question action).run start
    let fingerprint : Fingerprint := ⟨List.replicate 32 0, rfl⟩
    acted.result = .ok (.ok ()) ∧
      ((Challenges.record acted.state.now ⟨"ada", .question⟩).run
        acted.state.challenges).result = .error .expiryOverflow ∧
      outcome.result = .error .expiryOverflow ∧ start.Admits question fingerprint ∧
      outcome.state.records.get? fingerprint ≠ none := by
  intro start action acted outcome fingerprint
  refine ⟨?_, ?_, ?_, ⟨?_, ?_⟩, ?_⟩
  all_goals decide +kernel

end Gate

end Gatekeeper
