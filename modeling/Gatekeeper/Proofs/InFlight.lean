/-
This file settles for how long an admitted request keeps its duplicates out. Its record stays until
the window elapses, whatever else is admitted, completed or purged, unless a request that holds the
same fingerprint is dropped: the record does not say whose it is, and a request that has outlived
its own window takes the record of a later one with it. So duplicates are kept out for the whole
window exactly when no held request is dropped in it.
-/
import Gatekeeper.Gate.Holding
import Gatekeeper.Proofs.Memory

namespace Gatekeeper

namespace Holding

variable {κ ν : Type}

/-! ### Schedules -/

/-- What may happen around one fingerprint. -/
inductive Step where
  /-- A request takes the fingerprint, if it is let in. -/
  | take (name : String)
  | complete (name : String)
  | drop (name : String)
  /-- Time passes; where it would pass the last instant there is, it does not. -/
  | advance (length : Duration)
  | purge

/-- A request takes the fingerprint. -/
def taking (fingerprint : Fingerprint) (name : String) (holding : Holding DuplicateRecords κ ν) :
    Outcome (Holding DuplicateRecords κ ν) (Except Rejection Fingerprint) :=
  (hold name fingerprint).run holding

/-- The state after a step. -/
def perform (fingerprint : Fingerprint) (holding : Holding DuplicateRecords κ ν) :
    Step → Holding DuplicateRecords κ ν
  | .take name => (holding.taking fingerprint name).state
  | .complete name => ((complete name).run holding).state
  | .drop name => ((drop name).run holding).state
  | .advance length => ((onGate (Gate.wait length)).run holding).state
  | .purge => ((onGate (Gate.onDuplicates Duplicates.purge)).run holding).state

/-- The state after some steps. -/
def reached (fingerprint : Fingerprint) (holding : Holding DuplicateRecords κ ν)
    (steps : List Step) : Holding DuplicateRecords κ ν :=
  steps.foldl (perform fingerprint) holding

theorem reached_append (fingerprint : Fingerprint) (holding : Holding DuplicateRecords κ ν)
    (first second : List Step) :
    reached fingerprint holding (first ++ second) =
      reached fingerprint (reached fingerprint holding first) second :=
  List.foldl_append

/-- A gate that has just been assembled, with nothing in flight. -/
def opened (config : Config) (breaker : BreakerSettings) (sharesMetrics : Bool) (now : Instant)
    (records : DuplicateRecords) (attempts : κ) (verifier : ν) : Holding DuplicateRecords κ ν :=
  ⟨.assemble config breaker sharesMetrics now records attempts verifier, .empty⟩

/-- The request is told that it is a duplicate. -/
def Rejects (fingerprint : Fingerprint) (holding : Holding DuplicateRecords κ ν) (name : String) :
    Prop :=
  (holding.taking fingerprint name).result = .ok (.error (.duplicateRejected fingerprint))

/-! ### What a step does -/

/-- Nothing has ever happened to the breaker, and whatever is held is the one fingerprint. -/
structure Sound (fingerprint : Fingerprint) (holding : Holding DuplicateRecords κ ν) : Prop where
  idle : holding.gate.duplicates.guarded.breaker.Idle
  held : ∀ name other, holding.held.get? name = some other → other = fingerprint

def records (holding : Holding DuplicateRecords κ ν) : DuplicateRecords :=
  holding.gate.duplicates.guarded.store

/-- For how long a fingerprint is kept. -/
def window (holding : Holding DuplicateRecords κ ν) : Duration :=
  holding.gate.duplicates.settings.window

/-- The state with other records, other counts and other requests in flight. -/
def changed (holding : Holding DuplicateRecords κ ν) (records : DuplicateRecords)
    (tally : DuplicateTally) (held : KeyedStore String Fingerprint) :
    Holding DuplicateRecords κ ν where
  gate := { holding.gate with
    duplicates := { holding.gate.duplicates with
      guarded := { holding.gate.duplicates.guarded with store := records }
      tally := tally } }
  held := held

section Steps

variable {fingerprint : Fingerprint} {holding : Holding DuplicateRecords κ ν}

theorem run_onGate_onDuplicates {α : Type}
    (activity : Instant → Activity (Duplicates DuplicateRecords) α)
    (holding : Holding DuplicateRecords κ ν) :
    (onGate (Gate.onDuplicates activity)).run holding =
      let outcome := (activity holding.gate.now).run holding.gate.duplicates
      ⟨outcome.result, { holding with gate := { holding.gate with duplicates := outcome.state } },
        outcome.events⟩ := rfl

/-- What has been held is released. -/
theorem run_releaseOld (idle : holding.gate.duplicates.guarded.breaker.Idle)
    (old : Option Fingerprint) :
    ∃ tally events, (releaseOld old).run holding =
      ⟨.ok (),
        holding.changed (old.elim holding.records fun other => holding.records.erase other) tally
          holding.held,
        events⟩ := by
  cases old with
  | none => exact ⟨_, _, rfl⟩
  | some other =>
    unfold releaseOld
    dsimp only
    rw [run_onGate_onDuplicates, Duplicates.run_release idle]
    exact ⟨_, _, rfl⟩

/-- While the fingerprint is live a request is rejected, and no record changes. -/
theorem taking_of_live (sound : Sound fingerprint holding)
    (live : holding.records.isLive fingerprint holding.gate.now = true) (name : String) :
    Rejects fingerprint holding name ∧ ∃ tally,
      (holding.taking fingerprint name).state =
        holding.changed holding.records tally holding.held := by
  unfold Rejects taking hold
  rw [Activity.run_bind, run_onGate_onDuplicates, Duplicates.run_hold_of_live sound.idle live]
  exact ⟨rfl, _, rfl⟩

/-- Otherwise the request is let in under a record of its own. If its name was still held, what was
held under it is released after that, and the new record goes with it. -/
theorem taking_of_new (sound : Sound fingerprint holding)
    (new : holding.records.isLive fingerprint holding.gate.now = false) {expiresAt : Instant}
    (within : holding.gate.now.after? holding.window = some expiresAt) (name : String) :
    (holding.taking fingerprint name).result = .ok (.ok fingerprint) ∧ ∃ tally,
      (holding.taking fingerprint name).state =
        holding.changed
          ((holding.held.get? name).elim (holding.records.insert fingerprint expiresAt) fun other =>
            (holding.records.insert fingerprint expiresAt).erase other)
          tally (holding.held.insert name fingerprint) := by
  let tally := holding.gate.duplicates.tally
  let entered := holding.changed (holding.records.insert fingerprint expiresAt)
    { tally with admitted := tally.admitted + 1 } (holding.held.insert name fingerprint)
  have idle : entered.gate.duplicates.guarded.breaker.Idle := sound.idle
  obtain ⟨_, _, released⟩ := run_releaseOld idle (holding.held.get? name)
  unfold taking hold
  rw [Activity.run_bind, run_onGate_onDuplicates,
    Duplicates.run_hold_of_new sound.idle new within]
  show ((releaseOld _ >>= fun _ => pure _).run entered).result = _ ∧ ∃ tally,
    ((releaseOld _ >>= fun _ => pure _).run entered).state = _
  rw [Activity.run_bind, released]
  exact ⟨rfl, _, rfl⟩

/-- Where the window would not end in time, taking the fingerprint faults and changes nothing. -/
theorem taking_of_overflow (sound : Sound fingerprint holding)
    (new : holding.records.isLive fingerprint holding.gate.now = false)
    (beyond : holding.gate.now.after? holding.window = none) (name : String) :
    holding.taking fingerprint name = ⟨.error .expiryOverflow, holding, []⟩ := by
  unfold taking hold
  rw [Activity.run_bind, run_onGate_onDuplicates,
    Duplicates.run_hold_of_overflow sound.idle new beyond]

/-- Dropping a request releases what it held. -/
theorem perform_drop (sound : Sound fingerprint holding) (name : String) :
    ∃ tally, holding.perform fingerprint (.drop name) =
      holding.changed
        ((holding.held.get? name).elim holding.records fun other => holding.records.erase other)
        tally (holding.held.erase name) := by
  let dropped := holding.changed holding.records holding.gate.duplicates.tally
    (holding.held.erase name)
  have idle : dropped.gate.duplicates.guarded.breaker.Idle := sound.idle
  obtain ⟨_, _, released⟩ := run_releaseOld idle (holding.held.get? name)
  show ∃ tally, ((releaseOld _ >>= fun _ => pure _).run dropped).state = _
  rw [Activity.run_bind, released]
  exact ⟨_, rfl⟩

theorem perform_advance (fingerprint : Fingerprint) (holding : Holding DuplicateRecords κ ν)
    (length : Duration) :
    ∃ now, holding.perform fingerprint (.advance length) =
        { holding with gate := { holding.gate with now := now } } ∧
      holding.gate.now.nanos ≤ now.nanos := by
  obtain ⟨now, moved, later⟩ := Gate.state_wait length holding.gate
  refine ⟨now, ?_, later⟩
  show ({ holding with gate := ((Gate.wait length).run holding.gate).state } : Holding _ κ ν) = _
  rw [moved]

theorem held_insert (sound : Sound fingerprint holding) (name : String) :
    ∀ caller other, (holding.held.insert name fingerprint).get? caller = some other →
      other = fingerprint := by
  intro caller other found
  rw [KeyedStore.get?_insert] at found
  split at found
  · exact (Option.some.inj found).symm
  · exact sound.held caller other found

theorem held_erase (sound : Sound fingerprint holding) (name : String) :
    ∀ caller other, (holding.held.erase name).get? caller = some other → other = fingerprint := by
  intro caller other found
  rw [KeyedStore.get?_erase] at found
  split at found
  · cases found
  · exact sound.held caller other found

/-- What holds of the state after a step, whatever the step is. -/
structure Follows (fingerprint : Fingerprint) (before after : Holding DuplicateRecords κ ν) :
    Prop where
  sound : Sound fingerprint after
  window : after.window = before.window
  later : before.gate.now.nanos ≤ after.gate.now.nanos

theorem follows_changed (sound : Sound fingerprint holding) {records : DuplicateRecords}
    {tally : DuplicateTally} {held : KeyedStore String Fingerprint}
    (same : ∀ name other, held.get? name = some other → other = fingerprint) :
    Follows fingerprint holding (holding.changed records tally held) :=
  ⟨⟨sound.idle, same⟩, rfl, Int.le_refl _⟩

theorem perform_follows (sound : Sound fingerprint holding) (step : Step) :
    Follows fingerprint holding (holding.perform fingerprint step) := by
  cases step with
  | take name =>
    show Follows fingerprint holding (holding.taking fingerprint name).state
    cases live : holding.records.isLive fingerprint holding.gate.now with
    | true =>
      obtain ⟨_, _, taken⟩ := taking_of_live sound live name
      rw [taken]
      exact follows_changed sound sound.held
    | false =>
      cases within : holding.gate.now.after? holding.window with
      | some expiresAt =>
        obtain ⟨_, _, taken⟩ := taking_of_new sound live within name
        rw [taken]
        exact follows_changed sound (held_insert sound name)
      | none =>
        rw [taking_of_overflow sound live within name]
        exact ⟨sound, rfl, Int.le_refl _⟩
  | complete name => exact follows_changed sound (held_erase sound name)
  | drop name =>
    obtain ⟨_, dropped⟩ := perform_drop sound name
    rw [dropped]
    exact follows_changed sound (held_erase sound name)
  | advance length =>
    obtain ⟨now, moved, later⟩ := perform_advance fingerprint holding length
    rw [moved]
    exact ⟨⟨sound.idle, sound.held⟩, rfl, later⟩
  | purge => exact follows_changed sound sound.held

/-- Before its time a record is removed by nothing but dropping a request that is held. -/
theorem record_perform (sound : Sound fingerprint holding) {deadline : Instant} {step : Step}
    (kept : holding.records.get? fingerprint = some deadline)
    (early : (holding.perform fingerprint step).gate.now.nanos < deadline.nanos)
    (spared : ∀ name, step = .drop name → holding.held.get? name = none) :
    (holding.perform fingerprint step).records.get? fingerprint = some deadline := by
  have before := Int.lt_of_le_of_lt (perform_follows sound step).later early
  cases step with
  | take name =>
    have live := DuplicateRecords.isLive_eq_true_iff.mpr ⟨deadline, kept, before⟩
    obtain ⟨_, _, taken⟩ := taking_of_live sound live name
    show (holding.taking fingerprint name).state.records.get? fingerprint = some deadline
    rw [taken]
    exact kept
  | complete name => exact kept
  | drop name =>
    obtain ⟨_, dropped⟩ := perform_drop sound name
    rw [dropped, spared name rfl]
    exact kept
  | advance length =>
    obtain ⟨_, moved, _⟩ := perform_advance fingerprint holding length
    rw [moved]
    exact kept
  | purge =>
    show (holding.records.purge (DuplicateRecords.isExpired holding.gate.now)).2.get? fingerprint =
      some deadline
    rw [KeyedStore.get?_purge, kept]
    simp only [Option.filter, DuplicateRecords.isExpired, Instant.le_iff, Int.not_le.mpr before,
      decide_false, Bool.not_false, if_true]

/-- Dropping a request that is held removes the record. -/
theorem record_drop (sound : Sound fingerprint holding) {name : String}
    (held : holding.held.get? name ≠ none) :
    (holding.perform fingerprint (.drop name)).records.get? fingerprint = none := by
  obtain ⟨_, dropped⟩ := perform_drop sound name
  rw [dropped]
  cases found : holding.held.get? name with
  | none => exact absurd found held
  | some other =>
    cases sound.held name other found
    show (holding.records.erase fingerprint).get? fingerprint = none
    rw [KeyedStore.get?_erase_self]

/-- Without a record no request is rejected. -/
theorem not_rejects (sound : Sound fingerprint holding)
    (absent : holding.records.get? fingerprint = none) (name : String) :
    ¬ Rejects fingerprint holding name := by
  have new : holding.records.isLive fingerprint holding.gate.now = false := by
    unfold DuplicateRecords.isLive
    rw [absent]
    rfl
  unfold Rejects
  cases within : holding.gate.now.after? holding.window with
  | some expiresAt =>
    rw [(taking_of_new sound new within name).1]
    simp
  | none =>
    rw [taking_of_overflow sound new within name]
    simp

/-- Only taking the fingerprint makes a record. -/
theorem absent_perform (sound : Sound fingerprint holding) {step : Step}
    (absent : holding.records.get? fingerprint = none) (idle : ∀ name, step ≠ .take name) :
    (holding.perform fingerprint step).records.get? fingerprint = none := by
  cases step with
  | take name => exact absurd rfl (idle name)
  | complete name => exact absent
  | drop name =>
    obtain ⟨_, dropped⟩ := perform_drop sound name
    rw [dropped]
    cases holding.held.get? name with
    | none => exact absent
    | some other =>
      show (holding.records.erase other).get? fingerprint = none
      rw [KeyedStore.get?_erase, absent, ite_self]
  | advance length =>
    obtain ⟨_, moved, _⟩ := perform_advance fingerprint holding length
    rw [moved]
    exact absent
  | purge =>
    show (holding.records.purge (DuplicateRecords.isExpired holding.gate.now)).2.get? fingerprint =
      none
    rw [KeyedStore.get?_purge, absent]
    rfl

end Steps

/-! ### Whole schedules -/

section Schedules

variable {fingerprint : Fingerprint} {holding : Holding DuplicateRecords κ ν}

theorem reached_follows (sound : Sound fingerprint holding) (steps : List Step) :
    Follows fingerprint holding (holding.reached fingerprint steps) := by
  induction steps generalizing holding with
  | nil => exact ⟨sound, rfl, Int.le_refl _⟩
  | cons step rest inductionHypothesis =>
    have first := perform_follows sound step
    have others := inductionHypothesis first.sound
    exact ⟨others.sound, others.window.trans first.window, Int.le_trans first.later others.later⟩

/-- Nothing that is held is dropped in these steps. -/
def Spared (fingerprint : Fingerprint) (holding : Holding DuplicateRecords κ ν)
    (steps : List Step) : Prop :=
  ∀ first name rest, steps = first ++ .drop name :: rest →
    (holding.reached fingerprint first).held.get? name = none

/-- The record stays until its time if nothing that is held is dropped. -/
theorem record_reached (sound : Sound fingerprint holding) {deadline : Instant} {steps : List Step}
    (kept : holding.records.get? fingerprint = some deadline)
    (early : (holding.reached fingerprint steps).gate.now.nanos < deadline.nanos)
    (spared : Spared fingerprint holding steps) :
    (holding.reached fingerprint steps).records.get? fingerprint = some deadline := by
  induction steps generalizing holding with
  | nil => exact kept
  | cons step rest inductionHypothesis =>
    have first := perform_follows sound step
    have others := reached_follows first.sound rest
    refine inductionHypothesis first.sound ?_ early fun before name after split =>
      spared (step :: before) name after (by rw [split]; rfl)
    refine record_perform sound kept (Int.lt_of_le_of_lt others.later early) fun name dropped => ?_
    exact spared [] name rest (by rw [dropped]; rfl)

/-- Once the record is gone, it stays away as long as every request is rejected; so the next one is
not. -/
theorem absent_reached (sound : Sound fingerprint holding) {steps : List Step}
    (absent : holding.records.get? fingerprint = none)
    (rejected : ∀ first name rest, steps = first ++ .take name :: rest →
      Rejects fingerprint (holding.reached fingerprint first) name) :
    (holding.reached fingerprint steps).records.get? fingerprint = none := by
  induction steps generalizing holding with
  | nil => exact absent
  | cons step rest inductionHypothesis =>
    have first := perform_follows sound step
    have idle : ∀ name, step ≠ .take name := fun name taken =>
      not_rejects sound absent name (rejected [] name rest (by rw [taken]; rfl))
    exact inductionHypothesis first.sound (absent_perform sound absent idle)
      fun before name after split => rejected (step :: before) name after (by rw [split]; rfl)

/-- An admitted request whose name was free has a record until its window elapses. -/
theorem record_of_admitted (sound : Sound fingerprint holding) {name : String}
    (free : holding.held.get? name = none)
    (admitted : (holding.taking fingerprint name).result = .ok (.ok fingerprint)) :
    ∃ deadline, (holding.perform fingerprint (.take name)).records.get? fingerprint =
        some deadline ∧
      deadline.nanos = holding.gate.now.nanos + holding.window.nanos := by
  show ∃ deadline, (holding.taking fingerprint name).state.records.get? fingerprint =
    some deadline ∧ _
  cases live : holding.records.isLive fingerprint holding.gate.now with
  | true =>
    have rejected := (taking_of_live sound live name).1
    unfold Rejects at rejected
    rw [rejected] at admitted
    cases admitted
  | false =>
    cases within : holding.gate.now.after? holding.window with
    | none =>
      rw [taking_of_overflow sound live within name] at admitted
      cases admitted
    | some deadline =>
      obtain ⟨_, _, taken⟩ := taking_of_new sound live within name
      refine ⟨deadline, ?_, ((Instant.after?_eq_some_iff _ _ _).mp within).1⟩
      rw [taken, free]
      show (holding.records.insert fingerprint deadline).get? fingerprint = some deadline
      rw [KeyedStore.get?_insert_self]

/-- A request of this name is sent in after some of the steps, before the time has come. -/
def SentBefore (fingerprint : Fingerprint) (holding : Holding DuplicateRecords κ ν)
    (deadline : Int) (steps earlier : List Step) (caller : String) : Prop :=
  (∃ later, steps = earlier ++ .take caller :: later) ∧
    (holding.reached fingerprint earlier).gate.now.nanos < deadline

/-- From a state in which the fingerprint has a record, all requests are rejected until its time
exactly when none of them comes after the drop of a request that was held. -/
theorem rejects_iff_spared (sound : Sound fingerprint holding) {deadline : Instant}
    (kept : holding.records.get? fingerprint = some deadline) (steps : List Step) :
    (∀ earlier caller, SentBefore fingerprint holding deadline.nanos steps earlier caller →
        Rejects fingerprint (holding.reached fingerprint earlier) caller) ↔
      ∀ earlier caller, SentBefore fingerprint holding deadline.nanos steps earlier caller →
        Spared fingerprint holding earlier := by
  constructor
  · rintro rejected earlier caller sent first name rest rfl
    obtain ⟨⟨later, split⟩, early⟩ := sent
    refine Classical.byContradiction fun held => ?_
    have before := (reached_follows sound first).sound
    have after := (perform_follows before (.drop name)).sound
    -- After that drop there is no record, so the next request would be let in.
    have absent : (((holding.reached fingerprint first).perform fingerprint (.drop name)).reached
        fingerprint rest).records.get? fingerprint = none :=
      absent_reached after (record_drop before held) fun middle other others inner => by
        have whole : first ++ .drop name :: rest =
            (first ++ .drop name :: middle) ++ .take other :: others := by
          rw [inner, List.append_assoc, List.cons_append]
        have sound' := (reached_follows sound (first ++ .drop name :: middle)).sound
        have sooner := (reached_follows sound' (.take other :: others)).later
        rw [← reached_append, ← whole] at sooner
        have told := rejected (first ++ .drop name :: middle) other
          ⟨⟨others ++ .take caller :: later, by rw [split, whole]; simp⟩,
            Int.lt_of_le_of_lt sooner early⟩
        rw [reached_append] at told
        exact told
    have told := rejected _ caller ⟨⟨later, split⟩, early⟩
    rw [reached_append] at told
    exact not_rejects (reached_follows after rest).sound absent caller told
  · intro spared earlier caller sent
    have live := record_reached sound kept sent.2 (spared earlier caller sent)
    exact (taking_of_live (reached_follows sound earlier).sound
      (DuplicateRecords.isLive_eq_true_iff.mpr ⟨deadline, live, sent.2⟩) caller).1

end Schedules

/-! ### Requests that outlive their windows -/

theorem sound_opened (fingerprint : Fingerprint) (config : Config) (breaker : BreakerSettings)
    (sharesMetrics : Bool) (now : Instant) (records : DuplicateRecords) (attempts : κ)
    (verifier : ν) :
    Sound fingerprint (opened config breaker sharesMetrics now records attempts verifier) where
  idle := Breaker.idle_ofSettings breaker now
  held _ _ found := by cases found

/-- Whatever has happened before, the duplicates of an admitted request are all rejected until its
window elapses exactly when none of them comes after the drop of a request that was held, be it the
admitted one or another. -/
theorem duplicates_rejected_iff (config : Config) (breaker : BreakerSettings)
    (sharesMetrics : Bool) (now : Instant) (records : DuplicateRecords) (attempts : κ)
    (verifier : ν) (fingerprint : Fingerprint) (before after : List Step) (name : String) :
    let start := opened config breaker sharesMetrics now records attempts verifier
    let found := start.reached fingerprint before
    let entered := found.perform fingerprint (.take name)
    let deadline := found.gate.now.nanos + found.window.nanos
    found.held.get? name = none →
      (found.taking fingerprint name).result = .ok (.ok fingerprint) →
      ((∀ earlier caller, SentBefore fingerprint entered deadline after earlier caller →
          Rejects fingerprint (entered.reached fingerprint earlier) caller) ↔
        ∀ earlier caller, SentBefore fingerprint entered deadline after earlier caller →
          Spared fingerprint entered earlier) := by
  intro start found entered deadline free admitted
  have fresh := sound_opened fingerprint config breaker sharesMetrics now records attempts verifier
  have sound := (reached_follows fresh before).sound
  obtain ⟨expiresAt, kept, ends⟩ := record_of_admitted sound free admitted
  rw [show deadline = expiresAt.nanos from ends.symm]
  exact rejects_iff_spared (perform_follows sound (.take name)).sound kept after

/-- A gate with standard settings and nothing in it. -/
def quiet : Holding DuplicateRecords AttemptRecords CaptchaDesk :=
  opened .standard .standard true ⟨0⟩ .empty .empty (.ofLife ⟨0⟩ id)

def someFingerprint : Fingerprint := ⟨List.replicate 32 7, rfl⟩

/-- The first request outlives its window, and the second one comes in behind it. -/
def overtaken : Holding DuplicateRecords AttemptRecords CaptchaDesk :=
  quiet.reached someFingerprint [.take "first", .advance (.ofMillis 2000)]

theorem third_rejected_after_completion :
    (overtaken.taking someFingerprint "second").result = .ok (.ok someFingerprint) ∧
      Rejects someFingerprint
        ((overtaken.perform someFingerprint (.take "second")).reached someFingerprint
          [.complete "second"]) "third" := by
  have settled := duplicates_rejected_iff .standard .standard true ⟨0⟩ .empty
    (.empty : AttemptRecords) (CaptchaDesk.ofLife ⟨0⟩ id) someFingerprint
    [.take "first", .advance (.ofMillis 2000)] [.complete "second", .take "third"] "second"
  refine ⟨rfl, (settled (by rfl) (by rfl)).mpr ?_ [.complete "second"] "third"
    ⟨⟨[], rfl⟩, by decide⟩⟩
  rintro earlier caller ⟨⟨later, whole⟩, _⟩ first name rest split
  have member : Step.drop name ∈ [Step.complete "second", .take "third"] := by
    rw [whole, split]
    simp
  simp at member

/-- The second request has completed and its window is open, but the first one has been dropped and
so a third is let in. -/
theorem third_admitted_after_drop :
    (overtaken.taking someFingerprint "second").result = .ok (.ok someFingerprint) ∧
      let entered := overtaken.perform someFingerprint (.take "second")
      let later := entered.reached someFingerprint [.complete "second", .drop "first"]
      later.gate.now.nanos < overtaken.gate.now.nanos + overtaken.window.nanos ∧
        (later.taking someFingerprint "third").result = .ok (.ok someFingerprint) := by
  exact ⟨rfl, by decide, rfl⟩

end Holding

end Gatekeeper
