/-
This file is about sweeps of gates on stores in memory. A sweep drops exactly what has expired,
whatever the gate has been used for, and says by how much each store has shrunk. Nothing that still
counts is dropped: what is left of the records are the fingerprints that would be turned away, what
is left of the counters is what would be read off them, and with a captcha that is dropped nobody
would have passed.

Whether a fingerprint is turned away is up to its store only as long as the circuit of that store
lets calls through, as it does unless somebody operates the breaker by hand.
-/
import Gatekeeper.Gate.Sweep
import Gatekeeper.Proofs.Aftermath

namespace Gatekeeper

variable {κ ν : Type}

/-! ### Stores once the dead have been dropped -/

namespace KeyedStore

/-- What a purge has left a second one leaves as it is. -/
theorem purge_purge (store : KeyedStore κ ν) (dead : ν → Bool) :
    (store.purge dead).2.purge dead = (0, (store.purge dead).2) := by
  have same : (store.purge dead).2.filter (fun _ value => !dead value) = (store.purge dead).2 := by
    obtain ⟨entries, distinct⟩ := store
    simp [purge, filter]
  rw [purge, same, Nat.sub_self]

/-- The entries that have ended by now have been dropped from a store, so many of them, and no entry
has changed. -/
structure Dropped [DecidableEq κ] (ends : ν → Instant) (now : Instant)
    (before after : KeyedStore κ ν) (count : Nat) : Prop where
  left : ∀ key value, after.get? key = some value ↔
    before.get? key = some value ∧ now.nanos < (ends value).nanos
  count : count + after.size = before.size

theorem dropped_purge [DecidableEq κ] {ends : ν → Instant} {now : Instant} {dead : ν → Bool}
    (expired : ∀ value, dead value = decide (ends value ≤ now)) (store : KeyedStore κ ν) :
    Dropped ends now store (store.purge dead).2 (store.purge dead).1 := by
  refine ⟨fun key value => ?_, store.purge_count dead⟩
  rw [get?_purge, Option.filter_eq_some_iff, expired, Bool.not_eq_true', decide_eq_false_iff_not,
    Instant.le_iff, Int.not_le]

end KeyedStore

/-! ### What the operations go by -/

/-- A request is turned away exactly while its fingerprint is live. -/
theorem Duplicates.enter_rejects_iff {duplicates : Duplicates DuplicateRecords} {now : Instant}
    (conducts : duplicates.guarded.breaker.Conducts now) (fingerprint : Fingerprint) :
    ((enter now fingerprint).run duplicates).result = .ok .rejected ↔
      duplicates.guarded.store.isLive fingerprint now = true := by
  have asked := GuardedStore.ask_result now duplicates.settings.onStoreError .tryInsert
    (.fingerprint fingerprint) (entry now fingerprint duplicates) duplicates.guarded
  have passes : (duplicates.guarded.breaker.allow now).1 = true := conducts
  rw [passes] at asked
  rw [run_enter, run_ask]
  dsimp only
  rw [asked]
  have replied : (entry now fingerprint duplicates duplicates.guarded.store).1 =
      (duplicates.guarded.store.tryInsert fingerprint now duplicates.settings.window).1 := rfl
  rw [replied]
  unfold DuplicateRecords.tryInsert
  cases live : duplicates.guarded.store.isLive fingerprint now with
  | true => exact iff_of_true rfl rfl
  | false => cases now.after? duplicates.settings.window <;> exact iff_of_false nofun nofun

/-- The attempts that are read are those of the live window. -/
theorem Challenges.attempts_result {challenges : Challenges AttemptRecords ν} {now : Instant}
    (conducts : challenges.guarded.breaker.Conducts now) (key : ChallengeKey) :
    ((attempts now key).run challenges).result =
      .ok (some (challenges.guarded.store.countAt key now)) := by
  rw [attempts, run_ask, ← AttemptRecords.attempts_fst]
  exact (GuardedStore.ask_eq_some_iff _ _ _ _ _ _ _).mpr ⟨conducts, rfl⟩

/-- With a captcha that is dropped nobody would have passed. -/
theorem CaptchaDesk.verify_purge (desk : CaptchaDesk) (now : Instant) (user : String)
    (kind : ActionKind) (token : CaptchaToken) :
    ((desk.purge now).2.verify now user kind token).1 = (desk.verify now user kind token).1 := by
  have left : (desk.purge now).2.issued.get? token.id =
      (desk.issued.get? token.id).filter fun captcha => !captcha.isExpired now :=
    KeyedStore.get?_purge desk.issued _ token.id
  simp only [verify, KeyedStore.take, left]
  cases desk.issued.get? token.id with
  | none => rfl
  | some captcha =>
    cases expired : captcha.isExpired now with
    | true => simp [Option.filter, IssuedCaptcha.accepts, expired]
    | false => simp [Option.filter, expired]

namespace Gate

/-! ### Sweeps -/

variable (gate : Gate DuplicateRecords AttemptRecords CaptchaDesk)

/-- The gate once everything that has expired has been dropped from its stores. -/
def swept : Gate DuplicateRecords AttemptRecords CaptchaDesk :=
  ((gate.mapDuplicateStore fun records => (records.dropExpired gate.now).2).mapAttemptStore
    fun windows => (windows.dropExpired gate.now).2).mapVerifier fun desk => (desk.purge gate.now).2

/-- How much that is. -/
def expired : SweepReport where
  duplicates := (gate.records.dropExpired gate.now).1
  challenges := (gate.windows.dropExpired gate.now).1
  tokens := (gate.challenges.verifier.purge gate.now).1

theorem run_sweep :
    (sweep.run gate).result = .ok gate.expired ∧ (sweep.run gate).state = gate.swept := by
  unfold sweep
  rw [Activity.run_bind_of_ok (show _ = Except.ok gate.expired.duplicates from rfl),
    Activity.run_bind_of_ok (show _ = Except.ok gate.expired.challenges from rfl),
    Activity.run_bind_of_ok (show _ = Except.ok gate.expired.tokens from rfl)]
  dsimp only
  split
  · exact ⟨rfl, rfl⟩
  · exact ⟨rfl, rfl⟩

/-- Once it has been swept a gate has nothing more to be dropped. -/
theorem swept_swept : gate.swept.expired = ⟨0, 0, 0⟩ ∧ gate.swept.swept = gate.swept := by
  have records := gate.records.purge_purge (DuplicateRecords.isExpired gate.now)
  have windows := gate.windows.purge_purge fun window => window.isExpired gate.now
  have captchas := gate.challenges.verifier.issued.purge_purge fun captcha =>
    captcha.isExpired gate.now
  simp only [swept, expired, mapDuplicateStore, mapAttemptStore, mapVerifier, CaptchaDesk.purge,
    DuplicateRecords.dropExpired, AttemptRecords.dropExpired, Gate.records, Gate.windows] at *
  rw [records, windows, captchas]
  exact ⟨rfl, rfl⟩

/-- What a sweep leaves, and what it reports. -/
structure Swept (gate left : Gate DuplicateRecords AttemptRecords CaptchaDesk)
    (report : SweepReport) : Prop where
  records : KeyedStore.Dropped id gate.now gate.records left.records report.duplicates
  windows : KeyedStore.Dropped AttemptWindow.expiresAt gate.now gate.windows left.windows
    report.challenges
  captchas : KeyedStore.Dropped IssuedCaptcha.expiresAt gate.now gate.challenges.verifier.issued
    left.challenges.verifier.issued report.tokens
  /-- Nothing else has changed. -/
  rest : left = ((gate.mapDuplicateStore fun _ => left.records).mapAttemptStore
    fun _ => left.windows).mapVerifier
      fun desk => { desk with issued := left.challenges.verifier.issued }

theorem swept_of_sweep : Swept gate gate.swept gate.expired where
  records := KeyedStore.dropped_purge (fun _ => rfl) gate.records
  windows := KeyedStore.dropped_purge (fun _ => rfl) gate.windows
  captchas := KeyedStore.dropped_purge (fun _ => rfl) gate.challenges.verifier.issued
  rest := rfl

/-- A sweep drops exactly what has expired. At any gate on stores in memory, whatever is in them, it
drops each record, each counting window and each captcha that has ended by now; it changes nothing
else, reports by how much each store has shrunk, and leaves nothing for a second sweep to drop.

What it leaves is what still counts. Attempts are read off the windows that are left and no others,
and no answer to a captcha is judged otherwise afterwards. The records that are left are those of
the fingerprints that are turned away, if the circuits of the gate let calls through; they do in
each state that a gate comes to, as long as nobody operates its breakers by hand. -/
theorem sweep_drops_expired (config : Config) (breaker : BreakerSettings) (sharesMetrics : Bool)
    (now : Instant) (records : DuplicateRecords) (windows : AttemptRecords) (desk : CaptchaDesk) :
    (∀ gate, Reached (assemble config breaker sharesMetrics now records windows desk) gate →
        gate.Conducts) ∧
      ∀ gate : Gate DuplicateRecords AttemptRecords CaptchaDesk,
        let outcome := sweep.run gate
        let left := outcome.state
        (∃ report, outcome.result = .ok report ∧ Swept gate left report) ∧
          (sweep.run left).result = .ok ⟨0, 0, 0⟩ ∧ (sweep.run left).state = left ∧
          (∀ user kind token, (left.challenges.verifier.verify gate.now user kind token).1 =
            (gate.challenges.verifier.verify gate.now user kind token).1) ∧
          (gate.Conducts →
            (∀ fingerprint, (∃ expiresAt, left.records.get? fingerprint = some expiresAt) ↔
              ((Duplicates.enter gate.now fingerprint).run gate.duplicates).result =
                .ok .rejected) ∧
            ∀ key, ((Challenges.attempts gate.now key).run gate.challenges).result =
              .ok (some (((left.windows.get? key).map AttemptWindow.attempts).getD 0))) := by
  refine ⟨fun gate reached => (reached.calm ?_).conducts, fun gate => ?_⟩
  · exact assemble_calm config breaker sharesMetrics now records windows desk
  · obtain ⟨reported, left⟩ := run_sweep gate
    obtain ⟨nothing, same⟩ := swept_swept gate
    have swept := swept_of_sweep gate
    dsimp only
    rw [left, (run_sweep gate.swept).1, (run_sweep gate.swept).2, nothing, same]
    refine ⟨⟨gate.expired, reported, swept⟩, rfl, rfl, ?_, fun conducts => ⟨?_, ?_⟩⟩
    · exact gate.challenges.verifier.verify_purge gate.now
    · intro fingerprint
      rw [Duplicates.enter_rejects_iff conducts.duplicates, DuplicateRecords.isLive_eq_true_iff]
      exact exists_congr (swept.records.left fingerprint)
    · intro key
      have read : gate.swept.windows.get? key = gate.windows.live? key gate.now :=
        KeyedStore.get?_purge gate.windows (fun window => window.isExpired gate.now) key
      rw [Challenges.attempts_result conducts.challenges, read]
      rfl

/-- A nanosecond before its window elapses a record is not dropped, and the same request is still
turned away. -/
theorem sweep_drops_expired_in_time :
    let fingerprint : Fingerprint := ⟨List.replicate 32 0, rfl⟩
    let entered := ((onDuplicates fun now => Duplicates.enter now fingerprint).run
      (forum .standard 300)).state
    let gate := ((wait ⟨1999999999⟩).run entered).state
    ((Duplicates.enter gate.now fingerprint).run gate.duplicates).result = .ok .rejected ∧
      ((sweep.run gate).state.records.get? fingerprint) = some ⟨2000000000⟩ := by
  intro fingerprint entered gate
  have reached : Reached (forum .standard 300) gate :=
    (Reached.start.duplicates (.enter fingerprint)).waited _
  obtain ⟨conducts, sweeps⟩ := sweep_drops_expired _ _ _ _ _ _ _
  have conducting := conducts gate reached
  obtain ⟨⟨_, _, swept⟩, _, _, _, reads⟩ := sweeps gate
  have left := (swept.records.left fingerprint ⟨2000000000⟩).mpr (by decide +kernel)
  exact ⟨((reads conducting).1 fingerprint).mp ⟨_, left⟩, left⟩

/-- While the circuit of the duplicates is open a request is let in although its record is left. -/
theorem sweep_leaves_admitted :
    let fingerprint : Fingerprint := ⟨List.replicate 32 0, rfl⟩
    let entered := ((onDuplicates fun now => Duplicates.enter now fingerprint).run
      (forum ⟨1, 60⟩ 300)).state
    let failure := onBreaker .duplicates fun now => .change fun breaker => (breaker.fail now).2
    let shut := (failure.run entered).state
    ((sweep.run shut).state.records.get? fingerprint).isSome = true ∧
      ((Duplicates.enter shut.now fingerprint).run shut.duplicates).result = .ok .admitted := by
  intro fingerprint entered failure shut
  constructor
  all_goals decide +kernel

end Gate

end Gatekeeper
