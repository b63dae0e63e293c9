/-
This file proves that a gate leaves a failing store alone. The parts of a gate are used in any way,
one operation after the other, while time passes, and each store answers or refuses as it likes.
From the calls that have reached a store so far it follows whether the store is called next, and
from when on, whatever occurs at the gate meanwhile.

Neither part is told of any store but its own. What becomes of one of them is the same if the
operations on the other are left out, so the failures of one store never shut off the other.
-/
import Gatekeeper.Gate
import Gatekeeper.Proofs.PacedOperations
import Gatekeeper.Store.Memory

namespace Gatekeeper

open StoreVisit (Resting Paced)

variable {α δ κ ν : Type} {settings : BreakerSettings} {start : Instant}

namespace Gate

/-! ### What occurs at a gate -/

/-- What may occur at a gate. -/
inductive Occurrence where
  | duplicates (operation : Duplicates.Operation)
  | challenges (operation : Challenges.Operation)
  /-- Time passes. -/
  | wait (length : Duration)
  deriving DecidableEq

namespace Occurrence

/-- Time passes, or it is an operation on the duplicates. -/
def concernsDuplicates : Occurrence → Bool
  | duplicates _ | wait _ => true
  | challenges _ => false

/-- Time passes, or it is an operation on the challenges. -/
def concernsChallenges : Occurrence → Bool
  | challenges _ | wait _ => true
  | duplicates _ => false

end Occurrence

/-- The gate with new breakers, and with stores that are watched from now on. -/
def watch (gate : Gate δ κ ν) (duplicateBreaker attemptBreaker : BreakerSettings) :
    Gate (Watched δ) (Watched κ) ν where
  now := gate.now
  permissions := gate.permissions
  duplicates := ⟨gate.duplicates.settings,
    ⟨.ofStore gate.now gate.duplicates.guarded.store, .ofSettings duplicateBreaker gate.now,
      gate.duplicates.guarded.refusals⟩, gate.duplicates.tally⟩
  challenges := ⟨gate.challenges.settings,
    ⟨.ofStore gate.now gate.challenges.guarded.store, .ofSettings attemptBreaker gate.now,
      gate.challenges.guarded.refusals⟩, gate.challenges.verifier, gate.challenges.tally⟩
  sharesMetrics := gate.sharesMetrics

/-- Each breaker goes by the calls of its own store. -/
structure Minds (duplicateBreaker attemptBreaker : BreakerSettings) (start : Instant)
    (gate : Gate (Watched δ) (Watched κ) ν) : Prop where
  duplicates : gate.duplicates.guarded.Minds duplicateBreaker start gate.now
  challenges : gate.challenges.guarded.Minds attemptBreaker start gate.now

variable {duplicateBreaker attemptBreaker : BreakerSettings}

theorem watch_minds (start : Gate δ κ ν)
    (duplicatePositive : 0 < duplicateBreaker.failureThreshold.toNat)
    (attemptPositive : 0 < attemptBreaker.failureThreshold.toNat) :
    (start.watch duplicateBreaker attemptBreaker).Minds duplicateBreaker attemptBreaker
      start.now :=
  ⟨GuardedStore.minds_ofSettings duplicatePositive start.now _ _,
    GuardedStore.minds_ofSettings attemptPositive start.now _ _⟩

/-- Lets time pass, by the clocks of the stores too. -/
def tick (length : Duration) (gate : Gate (Watched δ) (Watched κ) ν) :
    Gate (Watched δ) (Watched κ) ν :=
  let later := ((wait length).run gate).state
  (later.mapDuplicateStore fun store => { store with now := later.now }).mapAttemptStore
    fun store => { store with now := later.now }

section Ticks

variable (length : Duration) (gate : Gate (Watched δ) (Watched κ) ν)

theorem tick_now : (gate.tick length).now = (gate.now.after? length).getD gate.now := by
  unfold tick
  rw [run_wait]
  cases gate.now.after? length <;> rfl

theorem now_le_tick : gate.now.nanos ≤ (gate.tick length).now.nanos := by
  obtain ⟨later, waited, passed⟩ := state_wait length gate
  unfold tick
  rw [waited]
  exact passed

theorem tick_duplicates :
    (gate.tick length).duplicates =
      { gate.duplicates with
        guarded := gate.duplicates.guarded.setClock (gate.tick length).now } := by
  unfold tick
  rw [run_wait]
  cases gate.now.after? length <;> rfl

theorem tick_challenges :
    (gate.tick length).challenges =
      { gate.challenges with
        guarded := gate.challenges.guarded.setClock (gate.tick length).now } := by
  unfold tick
  rw [run_wait]
  cases gate.now.after? length <;> rfl

end Ticks

variable [DuplicateStore δ] [AttemptStore κ] [CaptchaVerifier ν]

/-- The gate after something has occurred at it. -/
def next (gate : Gate (Watched δ) (Watched κ) ν) : Occurrence → Gate (Watched δ) (Watched κ) ν
  | .duplicates operation =>
    { gate with duplicates := operation.apply gate.now gate.duplicates }
  | .challenges operation =>
    { gate with challenges := operation.apply gate.now gate.challenges }
  | .wait length => gate.tick length

/-- The gate after one thing after the other has occurred at it. -/
def later (gate : Gate (Watched δ) (Watched κ) ν) (occurrences : List Occurrence) :
    Gate (Watched δ) (Watched κ) ν :=
  occurrences.foldl next gate

theorem now_le_next (gate : Gate (Watched δ) (Watched κ) ν) (occurrence : Occurrence) :
    gate.now.nanos ≤ (gate.next occurrence).now.nanos := by
  cases occurrence with
  | duplicates operation => exact Int.le_refl _
  | challenges operation => exact Int.le_refl _
  | wait length => exact gate.now_le_tick length

theorem now_le_later (gate : Gate (Watched δ) (Watched κ) ν) (occurrences : List Occurrence) :
    gate.now.nanos ≤ (gate.later occurrences).now.nanos := by
  induction occurrences generalizing gate with
  | nil => exact Int.le_refl _
  | cons occurrence rest inductionHypothesis =>
    exact Int.le_trans (gate.now_le_next occurrence) (inductionHypothesis (gate.next occurrence))

/-! ### One occurrence, and any number of them -/

variable {gate : Gate (Watched δ) (Watched κ) ν}

section Replies

variable (duplicateReplies : DuplicateStore.Replies δ)
  (attemptReplies : AttemptStore.AlwaysReplies κ)
include duplicateReplies attemptReplies

theorem Minds.next (minds : gate.Minds duplicateBreaker attemptBreaker start)
    {occurrence : Occurrence}
    (early : (gate.next occurrence).now.nanos < start.nanos + UInt64.size) :
    (gate.next occurrence).Minds duplicateBreaker attemptBreaker start := by
  cases occurrence with
  | duplicates operation =>
    exact ⟨(Duplicates.apply_follows minds.duplicates duplicateReplies operation).minds,
      minds.challenges⟩
  | challenges operation =>
    exact ⟨minds.duplicates,
      (Challenges.apply_follows minds.challenges attemptReplies operation).minds⟩
  | wait length =>
    have passed := gate.now_le_tick length
    constructor
    · show ((gate.tick length).duplicates.guarded).Minds _ _ _
      rw [tick_duplicates]
      exact minds.duplicates.tick passed early
    · show ((gate.tick length).challenges.guarded).Minds _ _ _
      rw [tick_challenges]
      exact minds.challenges.tick passed early

theorem Minds.later (minds : gate.Minds duplicateBreaker attemptBreaker start)
    {occurrences : List Occurrence}
    (early : (gate.later occurrences).now.nanos < start.nanos + UInt64.size) :
    (gate.later occurrences).Minds duplicateBreaker attemptBreaker start := by
  induction occurrences generalizing gate with
  | nil => exact minds
  | cons occurrence rest inductionHypothesis =>
    have sooner := Int.lt_of_le_of_lt ((gate.next occurrence).now_le_later rest) early
    exact inductionHypothesis (minds.next duplicateReplies attemptReplies sooner) early

/-- If one thing after the other leaves the calls of a resting store as they are, so do all of
them together. -/
theorem Minds.visits_later (visits : Gate (Watched δ) (Watched κ) ν → List StoreVisit)
    (once : ∀ gate, gate.Minds duplicateBreaker attemptBreaker start → ∀ occurrence,
      Resting settings (visits gate) gate.now → visits (gate.next occurrence) = visits gate)
    (minds : gate.Minds duplicateBreaker attemptBreaker start) {occurrences : List Occurrence}
    (early : (gate.later occurrences).now.nanos < start.nanos + UInt64.size)
    (resting : Resting settings (visits gate) (gate.later occurrences).now) :
    visits (gate.later occurrences) = visits gate := by
  induction occurrences generalizing gate with
  | nil => rfl
  | cons occurrence rest inductionHypothesis =>
    -- It rests at the end with the calls it has seen so far, so it has been resting all along.
    have kept := once gate minds occurrence
      (resting.sooner (gate.now_le_later (occurrence :: rest)))
    have sooner := Int.lt_of_le_of_lt ((gate.next occurrence).now_le_later rest) early
    exact (inductionHypothesis (minds.next duplicateReplies attemptReplies sooner) early
      (kept.symm ▸ resting)).trans kept

end Replies

theorem Minds.duplicates_rest (duplicateReplies : DuplicateStore.Replies δ)
    (minds : gate.Minds duplicateBreaker attemptBreaker start) (occurrence : Occurrence)
    (resting : Resting duplicateBreaker gate.duplicates.visits gate.now) :
    (gate.next occurrence).duplicates.visits = gate.duplicates.visits := by
  cases occurrence with
  | duplicates operation =>
    exact (Duplicates.apply_follows minds.duplicates duplicateReplies operation).paced.rests
      resting
  | challenges operation => rfl
  | wait length => exact (congrArg Duplicates.visits (gate.tick_duplicates length)).trans rfl

theorem Minds.challenges_rest (attemptReplies : AttemptStore.AlwaysReplies κ)
    (minds : gate.Minds duplicateBreaker attemptBreaker start) (occurrence : Occurrence)
    (resting : Resting attemptBreaker gate.challenges.visits gate.now) :
    (gate.next occurrence).challenges.visits = gate.challenges.visits := by
  cases occurrence with
  | duplicates operation => rfl
  | challenges operation =>
    exact (Challenges.apply_follows minds.challenges attemptReplies operation).paced.rests resting
  | wait length => exact (congrArg Challenges.visits (gate.tick_challenges length)).trans rfl

/-! ### Either part alone -/

/-- What depends on itself alone, and is changed by some occurrences only, is the same without the
others. -/
theorem later_filter {ρ : Type} (part : Gate (Watched δ) (Watched κ) ν → ρ)
    (concerns : Occurrence → Bool)
    (alike : ∀ first second occurrence, part first = part second →
      part (first.next occurrence) = part (second.next occurrence))
    (untouched : ∀ gate occurrence, concerns occurrence = false →
      part (gate.next occurrence) = part gate)
    (occurrences : List Occurrence) {first second : Gate (Watched δ) (Watched κ) ν}
    (same : part first = part second) :
    part (first.later occurrences) = part (second.later (occurrences.filter concerns)) := by
  induction occurrences generalizing first second with
  | nil => exact same
  | cons occurrence rest inductionHypothesis =>
    by_cases concerned : concerns occurrence = true
    · rw [List.filter_cons_of_pos concerned]
      exact inductionHypothesis (alike first second occurrence same)
    · rw [List.filter_cons_of_neg concerned]
      exact inductionHypothesis
        ((untouched first occurrence (Bool.not_eq_true _ ▸ concerned)).trans same)

/-- The duplicates are what they would be without the operations on the challenges. -/
theorem duplicates_later (gate : Gate (Watched δ) (Watched κ) ν) (occurrences : List Occurrence) :
    (gate.later occurrences).duplicates =
      (gate.later (occurrences.filter Occurrence.concernsDuplicates)).duplicates := by
  -- The duplicates go by the time too, so it is the two together that depend on themselves alone.
  refine congrArg Prod.snd (later_filter (fun gate => (gate.now, gate.duplicates))
    Occurrence.concernsDuplicates (fun first second occurrence same => ?_)
    (fun gate occurrence other => ?_) occurrences rfl)
  · obtain ⟨now, duplicates⟩ := Prod.mk.inj same
    cases occurrence with
    | duplicates operation => simp only [next, now, duplicates]
    | challenges operation => exact same
    | wait length => simp only [next, tick_now, tick_duplicates, now, duplicates]
  · cases occurrence with
    | challenges operation => rfl
    | duplicates operation => cases other
    | wait length => cases other

/-- The challenges are what they would be without the operations on the duplicates. -/
theorem challenges_later (gate : Gate (Watched δ) (Watched κ) ν) (occurrences : List Occurrence) :
    (gate.later occurrences).challenges =
      (gate.later (occurrences.filter Occurrence.concernsChallenges)).challenges := by
  refine congrArg Prod.snd (later_filter (fun gate => (gate.now, gate.challenges))
    Occurrence.concernsChallenges (fun first second occurrence same => ?_)
    (fun gate occurrence other => ?_) occurrences rfl)
  · obtain ⟨now, challenges⟩ := Prod.mk.inj same
    cases occurrence with
    | duplicates operation => exact same
    | challenges operation => simp only [next, now, challenges]
    | wait length => simp only [next, tick_now, tick_challenges, now, challenges]
  · cases occurrence with
    | duplicates operation => rfl
    | challenges operation => cases other
    | wait length => cases other

/-! ### The main result -/

/-- Whatever has occurred at a gate whose stores answer or refuse as they like, in less than the
time that its breakers can count: each store is left alone while it rests, by the next operation and
by all that occurs as long as it rests; an operation that needs a store which does not rest calls
it; an operation whose calls were not answered goes by the failure policy; and what becomes of
either part is the same without the operations on the other. -/
theorem failing_store_left_alone (duplicateReplies : DuplicateStore.Replies δ)
    (attemptReplies : AttemptStore.AlwaysReplies κ) (start : Gate δ κ ν)
    (duplicateBreaker attemptBreaker : BreakerSettings)
    (duplicatePositive : 0 < duplicateBreaker.failureThreshold.toNat)
    (attemptPositive : 0 < attemptBreaker.failureThreshold.toNat)
    (occurrences : List Occurrence)
    (early : ((start.watch duplicateBreaker attemptBreaker).later occurrences).now.nanos <
      start.now.nanos + UInt64.size) :
    let watched := start.watch duplicateBreaker attemptBreaker
    let gate := watched.later occurrences
    gate.duplicates.guarded.LeftAlone duplicateBreaker gate.now ∧
      gate.challenges.guarded.LeftAlone attemptBreaker gate.now ∧
      (∀ operation : Duplicates.Operation,
        Paced duplicateBreaker gate.now operation.NeedsStore gate.duplicates.visits
          (operation.apply gate.now gate.duplicates).visits) ∧
      (∀ operation : Challenges.Operation,
        Paced attemptBreaker gate.now (operation.NeedsStore gate.now gate.challenges)
          gate.challenges.visits (operation.apply gate.now gate.challenges).visits) ∧
      (∀ more, (gate.later more).now.nanos < start.now.nanos + UInt64.size →
        (Resting duplicateBreaker gate.duplicates.visits (gate.later more).now →
          (gate.later more).duplicates.visits = gate.duplicates.visits) ∧
        (Resting attemptBreaker gate.challenges.visits (gate.later more).now →
          (gate.later more).challenges.visits = gate.challenges.visits)) ∧
      gate.duplicates.ResolvesByPolicy gate.now ∧
      gate.challenges.ResolvesByPolicy gate.now ∧
      gate.duplicates =
        (watched.later (occurrences.filter Occurrence.concernsDuplicates)).duplicates ∧
      gate.challenges =
        (watched.later (occurrences.filter Occurrence.concernsChallenges)).challenges := by
  intro watched gate
  have minds : gate.Minds duplicateBreaker attemptBreaker start.now :=
    (watch_minds start duplicatePositive attemptPositive).later duplicateReplies attemptReplies
      early
  refine ⟨minds.duplicates.leftAlone, minds.challenges.leftAlone, fun operation => ?_,
    fun operation => ?_, fun more soon => ⟨fun resting => ?_, fun resting => ?_⟩, ?_, ?_,
    watched.duplicates_later occurrences, watched.challenges_later occurrences⟩
  · exact (Duplicates.apply_follows minds.duplicates duplicateReplies operation).paced
  · exact (Challenges.apply_follows minds.challenges attemptReplies operation).paced
  · exact minds.visits_later duplicateReplies attemptReplies (fun gate => gate.duplicates.visits)
      (fun gate minds => minds.duplicates_rest duplicateReplies) soon resting
  · exact minds.visits_later duplicateReplies attemptReplies (fun gate => gate.challenges.visits)
      (fun gate minds => minds.challenges_rest attemptReplies) soon resting
  · exact Duplicates.resolvesByPolicy minds.duplicates duplicateReplies
  · exact Challenges.resolvesByPolicy minds.challenges attemptReplies

end Gate

/-! ### A store with a script -/

/-- A store that answers or refuses its calls by a script, and refuses them once that has ended. -/
structure Scripted where
  script : List Bool

namespace Scripted

/-- What comes of the next call, which is answered with this value if the script says so. -/
def reply (value : α) : Scripted → Reply α × Scripted
  | ⟨true :: rest⟩ => (.answer value, ⟨rest⟩)
  | ⟨false :: rest⟩ => (.refused (.unavailable "connection refused"), ⟨rest⟩)
  | ⟨[]⟩ => (.refused (.unavailable "connection refused"), ⟨[]⟩)

theorem reply_ne_fault (value : α) (store : Scripted) (fault : Fault) :
    (reply value store).1 ≠ .fault fault := by
  obtain ⟨_ | ⟨_ | _, rest⟩⟩ := store <;> nofun

instance : DuplicateStore Scripted where
  tryInsert store _ _ _ := reply true store
  remove store _ := reply () store
  purge store _ := (.ok 0, store)

instance : AttemptStore Scripted where
  attempts store _ _ := reply 0 store
  increment store _ _ _ := reply 1 store
  clear store _ := reply () store
  purge store _ := (0, store)

theorem duplicateReplies : DuplicateStore.Replies Scripted :=
  ⟨fun store _ _ _ => reply_ne_fault true store, fun store _ => reply_ne_fault () store⟩

theorem attemptReplies : AttemptStore.AlwaysReplies Scripted :=
  ⟨⟨fun store _ _ => reply_ne_fault 0 store, fun store _ => reply_ne_fault () store⟩,
    fun store _ _ _ => reply_ne_fault 1 store⟩

end Scripted

namespace Gate

/-- A release is refused, which is enough to open the circuit, and the probe ten seconds later is
refused too. Five seconds after that a request is admitted by the policy, and the store has not been
called. -/
theorem failing_store_left_alone_refused :
    let start : Gate Scripted Scripted CaptchaDesk :=
      .assemble .standard .standard true ⟨0⟩ ⟨[false, false, true]⟩ ⟨[]⟩
        (.ofLife (.ofSeconds 300) CaptchaDesk.scramble)
    let fingerprint : Fingerprint := ⟨List.replicate 32 7, rfl⟩
    let occurrences : List Occurrence :=
      [.duplicates (.release fingerprint), .wait (.ofSeconds 10),
        .duplicates (.release fingerprint), .wait (.ofSeconds 5)]
    let gate := (start.watch ⟨1, 10⟩ ⟨1, 10⟩).later occurrences
    let entered := (Duplicates.enter gate.now fingerprint).run gate.duplicates
    (0 < (1 : UInt32).toNat ∧ gate.now.nanos < start.now.nanos + UInt64.size) ∧
      gate.duplicates.visits = [⟨⟨10000000000⟩, false⟩, ⟨⟨0⟩, false⟩] ∧
      gate.duplicates.guarded.breaker.state = .opened ∧
      entered.state.visits = gate.duplicates.visits ∧ entered.result = .ok .admitted := by
  intro start fingerprint occurrences gate entered
  have positive : 0 < (1 : UInt32).toNat := by decide
  have early : gate.now.nanos < start.now.nanos + UInt64.size := by decide
  have visits : gate.duplicates.visits = [⟨⟨10000000000⟩, false⟩, ⟨⟨0⟩, false⟩] := by
    decide +kernel
  obtain ⟨alone, _, paced, _, _, policy, _⟩ :=
    failing_store_left_alone Scripted.duplicateReplies Scripted.attemptReplies start ⟨1, 10⟩
      ⟨1, 10⟩ positive positive occurrences early
  have resting : Resting ⟨1, 10⟩ gate.duplicates.visits gate.now := by
    rw [visits]
    exact ⟨by decide, ⟨10000000000⟩, rfl, by decide +kernel⟩
  have rested : entered.state.visits = gate.duplicates.visits :=
    (paced (.enter fingerprint)).rests resting
  have openly : gate.duplicates.settings.onStoreError = .failOpen := by decide +kernel
  have resolved := policy.enter fingerprint ⟨[], rested.trans (List.nil_append _).symm, nofun⟩
  rw [if_pos openly] at resolved
  exact ⟨⟨positive, early⟩, visits, (alone.shuts _ _ visits (by decide)).1, rested, resolved⟩

end Gate

end Gatekeeper
