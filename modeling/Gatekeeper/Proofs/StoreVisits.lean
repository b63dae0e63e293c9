/-
This file watches a store behind its breaker. A watched store writes down each call that reaches it,
with the time and whether there was an answer, and is otherwise the store it was. The breaker needs
no more than that: how many calls in a row have been refused, and when the last of them was made.

A store rests when the calls in a row that it has refused have reached the threshold and the
recovery time has not passed since the last of them. While it rests nothing reaches it; once it is
up again whatever is asked of it reaches it at once. A call that is refused then is one more in a
row, so the store rests again, and one that is answered leaves none in a row.
-/
import Gatekeeper.Proofs.BreakerHistory
import Gatekeeper.Proofs.Parts

namespace Gatekeeper

variable {α δ κ σ : Type}

/-! ### Visits -/

/-- A call that has reached a store: when it was made, and whether there was an answer. -/
structure StoreVisit where
  now : Instant
  answered : Bool
  deriving DecidableEq

namespace StoreVisit

variable {settings : BreakerSettings} {now : Instant} {needed further : Prop}
  {before between after : List StoreVisit}

/-- How many calls in a row have been refused; of the calls the latest comes first. -/
def refusedInARow (visits : List StoreVisit) : Nat :=
  (visits.takeWhile fun visit => !visit.answered).length

/-- When the latest call was made. -/
def last? (visits : List StoreVisit) : Option Instant :=
  visits.head?.map StoreVisit.now

/-- The calls in a row that have been refused reach the threshold, and the recovery time has not
passed since the last of them. -/
def Resting (settings : BreakerSettings) (visits : List StoreVisit) (now : Instant) : Prop :=
  settings.failureThreshold.toNat ≤ refusedInARow visits ∧
    ∃ last, last? visits = some last ∧ now.nanos < last.nanos + settings.recovery.nanos

/-- No call was made while the store was resting. -/
def Spaced (settings : BreakerSettings) : List StoreVisit → Prop
  | [] => True
  | visit :: earlier => ¬ Resting settings earlier visit.now ∧ Spaced settings earlier

/-- Of refused calls in a row one is the latest. -/
theorem exists_last {visits : List StoreVisit} (refused : refusedInARow visits ≠ 0) :
    ∃ last, last? visits = some last := by
  cases visits with
  | nil => exact absurd rfl refused
  | cons visit earlier => exact ⟨visit.now, rfl⟩

/-- A store that rests has been resting since the last call. -/
theorem Resting.sooner {visits : List StoreVisit} (resting : Resting settings visits now)
    {sooner : Instant} (before : sooner.nanos ≤ now.nanos) : Resting settings visits sooner := by
  obtain ⟨full, last, latest, within⟩ := resting
  exact ⟨full, last, latest, Int.lt_of_le_of_lt before within⟩

/-! ### What is asked at one time -/

/-- One thing is asked of a store at this time. If the store rests there is no answer and nothing
reaches it; otherwise it is called. -/
inductive Asked (settings : BreakerSettings) (now : Instant) (before : List StoreVisit) :
    Bool → List StoreVisit → Prop where
  | skipped (resting : Resting settings before now) : Asked settings now before false before
  | called (awake : ¬ Resting settings before now) (answered : Bool) :
    Asked settings now before answered (⟨now, answered⟩ :: before)

/-- No call was answered. -/
def Unanswered (before after : List StoreVisit) : Prop :=
  ∃ refused, after = refused ++ before ∧ ∀ visit ∈ refused, visit.answered = false

/-- If no call was answered in a time, none was in its first part. -/
theorem Unanswered.sooner (unanswered : Unanswered before after)
    (first : ∃ earlier, between = earlier ++ before) (second : ∃ later, after = later ++ between) :
    Unanswered before between := by
  obtain ⟨earlier, rfl⟩ := first
  obtain ⟨later, rfl⟩ := second
  obtain ⟨refused, calls, all⟩ := unanswered
  rw [← List.append_assoc] at calls
  obtain rfl := List.append_cancel_right calls
  exact ⟨earlier, rfl, fun visit member => all visit (List.mem_append_right _ member)⟩

theorem Asked.not_answered {answered : Bool} (asked : Asked settings now before answered after)
    (unanswered : Unanswered before after) : answered = false := by
  cases asked with
  | skipped => rfl
  | called =>
    obtain ⟨refused, calls, all⟩ := unanswered
    have only : [⟨now, answered⟩] = refused := List.append_cancel_right calls
    exact all ⟨now, answered⟩ (only ▸ List.mem_singleton_self _)

/-- What is done at this time keeps to the rest of the store: nothing reaches it while it rests, nor
if it is not needed; and if it is needed and does not rest it is called. -/
structure Paced (settings : BreakerSettings) (now : Instant) (needed : Prop)
    (before after : List StoreVisit) : Prop where
  rests : Resting settings before now → after = before
  idles : ¬ needed → after = before
  calls : needed → ¬ Resting settings before now →
    ∃ later answered, after = later ++ ⟨now, answered⟩ :: before

theorem Paced.refl (settings : BreakerSettings) (now : Instant) (visits : List StoreVisit) :
    Paced settings now False visits visits :=
  ⟨fun _ => rfl, fun _ => rfl, False.elim⟩

theorem Asked.paced {answered : Bool} (asked : Asked settings now before answered after) :
    Paced settings now True before after := by
  cases asked with
  | skipped resting =>
    exact ⟨fun _ => rfl, fun unneeded => absurd trivial unneeded,
      fun _ awake => absurd resting awake⟩
  | called awake answered =>
    exact ⟨fun resting => absurd resting awake, fun unneeded => absurd trivial unneeded,
      fun _ _ => ⟨[], answered, rfl⟩⟩

/-- Calls are only ever added. -/
theorem Paced.extends (paced : Paced settings now needed before after) :
    ∃ later, after = later ++ before := by
  by_cases resting : Resting settings before now
  · exact ⟨[], paced.rests resting⟩
  · by_cases need : needed
    · obtain ⟨later, answered, calls⟩ := paced.calls need resting
      exact ⟨later ++ [⟨now, answered⟩], by rw [calls, List.append_assoc]; rfl⟩
    · exact ⟨[], paced.idles need⟩

theorem Paced.trans (first : Paced settings now needed before between)
    (second : Paced settings now further between after) :
    Paced settings now (needed ∨ further) before after where
  rests resting := by
    have kept := first.rests resting
    exact (second.rests (kept ▸ resting)).trans kept
  idles unneeded :=
    (second.idles fun need => unneeded (.inr need)).trans
      (first.idles fun need => unneeded (.inl need))
  calls need awake := by
    by_cases sooner : needed
    · obtain ⟨later, answered, calls⟩ := first.calls sooner awake
      obtain ⟨latest, added⟩ := second.extends
      exact ⟨latest ++ later, answered, by rw [added, calls, List.append_assoc]⟩
    · have kept := first.idles sooner
      obtain ⟨later, answered, calls⟩ :=
        second.calls (need.resolve_left sooner) (kept.symm ▸ awake)
      exact ⟨later, answered, by rw [calls, kept]⟩

end StoreVisit

/-! ### Watched stores -/

/-- Whether a store has answered. -/
def Reply.isAnswer : Reply α → Bool
  | .answer _ => true
  | .refused _ | .fault _ => false

/-- A store that writes down the calls that reach it, by a clock of its own. -/
structure Watched (σ : Type) where
  inner : σ
  now : Instant
  visits : List StoreVisit

namespace Watched

/-- A store that is watched from now on. -/
def ofStore (now : Instant) (inner : σ) : Watched σ := ⟨inner, now, []⟩

/-- Makes a call and writes it down. -/
def call (store : Watched σ) (ask : σ → Reply α × σ) : Reply α × Watched σ :=
  let (reply, inner) := ask store.inner
  (reply, { store with inner := inner, visits := ⟨store.now, reply.isAnswer⟩ :: store.visits })

/-- Dropping what has expired is not written down. -/
instance [DuplicateStore δ] : DuplicateStore (Watched δ) where
  tryInsert store fingerprint now window :=
    store.call fun inner => DuplicateStore.tryInsert inner fingerprint now window
  remove store fingerprint := store.call fun inner => DuplicateStore.remove inner fingerprint
  purge store now :=
    let (count, inner) := DuplicateStore.purge store.inner now
    (count, { store with inner := inner })

instance [AttemptStore κ] : AttemptStore (Watched κ) where
  attempts store key now := store.call fun inner => AttemptStore.attempts inner key now
  increment store key now length :=
    store.call fun inner => AttemptStore.increment inner key now length
  clear store key := store.call fun inner => AttemptStore.clear inner key
  purge store now :=
    let (count, inner) := AttemptStore.purge store.inner now
    (count, { store with inner := inner })

theorem replies [AttemptStore κ] (replies : AttemptStore.Replies κ) :
    AttemptStore.Replies (Watched κ) where
  attempts store key now := replies.attempts store.inner key now
  clear store key := replies.clear store.inner key

end Watched

/-! ### A watched store behind its breaker -/

namespace GuardedStore

open StoreVisit (refusedInARow last? Resting Spaced Asked Paced Unanswered)

/-- The breaker remembers the calls that have reached the store, and none of them was made while the
store was resting. The time is one that the breaker can still count. -/
structure Minds (settings : BreakerSettings) (start now : Instant)
    (guarded : GuardedStore (Watched σ)) : Prop where
  clock : guarded.store.now = now
  spaced : Spaced settings guarded.store.visits
  settings : guarded.breaker.settings = settings
  epoch : guarded.breaker.epoch = start
  remembers : guarded.breaker.Remembers (refusedInARow guarded.store.visits)
    ((last? guarded.store.visits).getD start)
  settled : guarded.breaker.state ≠ .halfOpen
  past : ∀ last, last? guarded.store.visits = some last → last.nanos ≤ now.nanos
  started : start.nanos ≤ now.nanos
  early : now.nanos < start.nanos + UInt64.size

variable {settings : BreakerSettings} {start now : Instant} {guarded : GuardedStore (Watched σ)}

/-- The store without what has been written down. -/
def unwatched (guarded : GuardedStore (Watched σ)) : GuardedStore σ :=
  ⟨guarded.store.inner, guarded.breaker, guarded.refusals⟩

/-- Watching changes nothing: asking a watched store is asking the store. -/
theorem ask_watched (now : Instant) (policy : FailurePolicy) (call : StoreCall)
    (subject : StoreSubject) (question : σ → Reply α × σ) (guarded : GuardedStore (Watched σ)) :
    let watched := (ask now policy call subject fun store : Watched σ =>
      store.call question).run guarded
    let plain := (ask now policy call subject question).run guarded.unwatched
    watched.result = plain.result ∧ watched.state.unwatched = plain.state ∧
      watched.events = plain.events := by
  by_cases allowed : (guarded.breaker.allow now).1 = true
  · simp only [Activity.run, ask, unwatched, Watched.call, allowed, if_true]
    cases (question guarded.store.inner).1 <;> exact ⟨rfl, rfl, rfl⟩
  · simp only [Activity.run, ask, unwatched, allowed]
    exact ⟨rfl, rfl, rfl⟩

theorem minds_ofSettings (positive : 0 < settings.failureThreshold.toNat) (start : Instant)
    (store : σ) (refusals : UInt64) :
    (⟨.ofStore start store, .ofSettings settings start, refusals⟩ :
      GuardedStore (Watched σ)).Minds settings start start where
  clock := rfl
  spaced := trivial
  settings := rfl
  epoch := rfl
  remembers := Breaker.remembers_ofSettings positive start start
  settled := nofun
  past _ none := by cases none
  started := Int.le_refl _
  early := Int.lt_add_of_pos_right _ (by decide)

/-- What is stored does not matter. -/
theorem Minds.setInner (minds : guarded.Minds settings start now) (inner : σ) :
    { guarded with store := { guarded.store with inner := inner } }.Minds settings start now :=
  ⟨minds.clock, minds.spaced, minds.settings, minds.epoch, minds.remembers, minds.settled,
    minds.past, minds.started, minds.early⟩

/-- The clock of the store shows another time. -/
def setClock (guarded : GuardedStore (Watched σ)) (later : Instant) : GuardedStore (Watched σ) :=
  { guarded with store := { guarded.store with now := later } }

/-- Time passes, by the clock of the store too. -/
theorem Minds.tick (minds : guarded.Minds settings start now) {later : Instant}
    (passed : now.nanos ≤ later.nanos) (early : later.nanos < start.nanos + UInt64.size) :
    (guarded.setClock later).Minds settings start later :=
  ⟨rfl, minds.spaced, minds.settings, minds.epoch, minds.remembers, minds.settled,
    fun last latest => Int.le_trans (minds.past last latest) passed,
    Int.le_trans minds.started passed, early⟩

/-- Where the calls in a row that have been refused reach the threshold the circuit is open, and it
lets a call through once the recovery time has passed since the last of them. -/
theorem Minds.shut (minds : guarded.Minds settings start now)
    (full : settings.failureThreshold.toNat ≤ refusedInARow guarded.store.visits) :
    ∃ last, last? guarded.store.visits = some last ∧ guarded.breaker.state = .opened ∧
      ∀ later, now.nanos ≤ later.nanos → ((guarded.breaker.allow later).1 = true ↔
        last.nanos + settings.recovery.nanos ≤ later.nanos) := by
  have shut : guarded.breaker.state ≠ .closed := fun closed =>
    absurd (minds.remembers.closed_iff.mp closed) (minds.settings ▸ Nat.not_lt.mpr full)
  have opened : guarded.breaker.state = .opened := by
    cases found : guarded.breaker.state with
    | opened => rfl
    | closed => exact absurd found shut
    | halfOpen => exact absurd found minds.settled
  obtain ⟨last, latest⟩ := StoreVisit.exists_last (minds.remembers.streak_ne_zero shut)
  have remembers := minds.remembers
  rw [latest, Option.getD_some] at remembers
  refine ⟨last, latest, opened, fun later passed => ?_⟩
  rw [remembers.allow_of_opened opened (Int.le_trans (minds.past last latest) passed),
    minds.settings]
  by_cases within : later.nanos < last.nanos + settings.recovery.nanos
  · rw [if_pos within]
    exact ⟨nofun, fun elapsed => absurd within (Int.not_lt.mpr elapsed)⟩
  · rw [if_neg within]
    exact iff_of_true rfl (Int.not_lt.mp within)

/-- The breaker lets a call through exactly when the store does not rest. -/
theorem Minds.allowed_iff (minds : guarded.Minds settings start now) :
    (guarded.breaker.allow now).1 = true ↔ ¬ Resting settings guarded.store.visits now := by
  by_cases full : settings.failureThreshold.toNat ≤ refusedInARow guarded.store.visits
  · obtain ⟨last, latest, _, allowed⟩ := minds.shut full
    rw [allowed now (Int.le_refl _), ← Int.not_lt]
    simp only [Resting, full, latest, true_and, Option.some.injEq, exists_eq_left']
  · have closed : guarded.breaker.state = .closed :=
      minds.remembers.closed_iff.mpr (minds.settings ▸ Nat.not_le.mp full)
    have allowed : (guarded.breaker.allow now).1 = true := by rw [Breaker.allow, closed]
    exact iff_of_true allowed fun resting => full resting.1

/-- A call that is let through is written down at this time, and the breaker has to remember it. -/
theorem Minds.called (minds : guarded.Minds settings start now)
    (allowed : (guarded.breaker.allow now).1 = true) (answered : Bool) {breaker : Breaker}
    (remembers : breaker.Remembers (refusedInARow (⟨now, answered⟩ :: guarded.store.visits)) now)
    (frame : breaker.settings = (guarded.breaker.allow now).2.settings ∧
      breaker.epoch = (guarded.breaker.allow now).2.epoch)
    (settled : breaker.state ≠ .halfOpen) (inner : σ) (refusals : UInt64) :
    (⟨⟨inner, now, ⟨now, answered⟩ :: guarded.store.visits⟩, breaker, refusals⟩ :
      GuardedStore (Watched σ)).Minds settings start now where
  clock := rfl
  spaced := ⟨minds.allowed_iff.mp allowed, minds.spaced⟩
  settings := frame.1.trans ((guarded.breaker.allow_frame now).1.trans minds.settings)
  epoch := frame.2.trans ((guarded.breaker.allow_frame now).2.trans minds.epoch)
  remembers := remembers
  settled := settled
  past _ latest := Int.le_of_eq (congrArg Instant.nanos (Option.some.inj latest).symm)
  started := minds.started
  early := minds.early

/-- A call that is let through and answered closes the circuit. -/
theorem Minds.answered (minds : guarded.Minds settings start now)
    (allowed : (guarded.breaker.allow now).1 = true) (inner : σ) (refusals : UInt64) :
    (⟨⟨inner, now, ⟨now, true⟩ :: guarded.store.visits⟩, (guarded.breaker.allow now).2.succeed,
      refusals⟩ : GuardedStore (Watched σ)).Minds settings start now := by
  -- What is noted while a circuit is open is lost, but it is not open once it lets a call through.
  rw [Breaker.succeed_of_not_opened (Breaker.not_opened_of_allowed allowed)]
  have remembers := (minds.remembers.allow now).reset.redated now
  exact minds.called allowed true remembers ⟨rfl, rfl⟩ nofun inner refusals

/-- A call that is let through and refused is one more in a row. -/
theorem Minds.refused (minds : guarded.Minds settings start now)
    (allowed : (guarded.breaker.allow now).1 = true) (inner : σ) (refusals : UInt64) :
    (⟨⟨inner, now, ⟨now, false⟩ :: guarded.store.visits⟩,
      ((guarded.breaker.allow now).2.fail now).2, refusals⟩ :
      GuardedStore (Watched σ)).Minds settings start now := by
  have epoch := (guarded.breaker.allow_frame now).2.trans minds.epoch
  have remembers := (minds.remembers.allow now).fail (epoch ▸ minds.started) (epoch ▸ minds.early)
  exact minds.called allowed false remembers (Breaker.fail_frame _ now)
    (Breaker.fail_ne_halfOpen _ now) inner refusals

/-- One thing is asked of a store that never faults. -/
theorem Minds.asked (minds : guarded.Minds settings start now) {question : σ → Reply α × σ}
    (replies : ∀ store fault, (question store).1 ≠ .fault fault) (policy : FailurePolicy)
    (call : StoreCall) (subject : StoreSubject) :
    let outcome := (GuardedStore.ask now policy call subject fun store : Watched σ =>
      store.call question).run guarded
    ∃ answer, outcome.result = .ok answer ∧ outcome.state.Minds settings start now ∧
      Asked settings now guarded.store.visits answer.isSome outcome.state.store.visits := by
  dsimp only
  by_cases allowed : (guarded.breaker.allow now).1 = true
  · have awake := minds.allowed_iff.mp allowed
    simp only [Activity.run, GuardedStore.ask, allowed, if_true, Watched.call]
    rw [minds.clock]
    cases reply : (question guarded.store.inner).1 with
    | answer value => exact ⟨some value, rfl, minds.answered allowed _ _, .called awake true⟩
    | refused error => exact ⟨none, rfl, minds.refused allowed _ _, .called awake false⟩
    | fault fault => exact absurd reply (replies _ fault)
  · have resting := Classical.not_not.mp fun awake => allowed (minds.allowed_iff.mpr awake)
    simp only [Activity.run, GuardedStore.ask, allowed]
    exact ⟨none, rfl, minds, .skipped resting⟩

/-- Something was done at this time, and the breaker still goes by the calls of the store. -/
structure Follows (settings : BreakerSettings) (start now : Instant) (needed : Prop)
    (before after : GuardedStore (Watched σ)) : Prop where
  minds : after.Minds settings start now
  paced : Paced settings now needed before.store.visits after.store.visits

theorem Minds.follows (minds : guarded.Minds settings start now) :
    guarded.Follows settings start now False guarded :=
  ⟨minds, .refl settings now guarded.store.visits⟩

theorem Follows.trans {between after : GuardedStore (Watched σ)} {needed further : Prop}
    (first : guarded.Follows settings start now needed between)
    (second : between.Follows settings start now further after) :
    guarded.Follows settings start now (needed ∨ further) after :=
  ⟨second.minds, first.paced.trans second.paced⟩

theorem Follows.of_iff {after : GuardedStore (Watched σ)} {needed other : Prop}
    (follows : guarded.Follows settings start now needed after) (same : needed ↔ other) :
    guarded.Follows settings start now other after :=
  propext same ▸ follows

/-- One thing that is asked needs the store, and nothing comes of it if no call was answered. -/
theorem Minds.ask (minds : guarded.Minds settings start now) {question : σ → Reply α × σ}
    (replies : ∀ store fault, (question store).1 ≠ .fault fault) (policy : FailurePolicy)
    (call : StoreCall) (subject : StoreSubject) :
    let outcome := (GuardedStore.ask now policy call subject fun store : Watched σ =>
      store.call question).run guarded
    guarded.Follows settings start now True outcome.state ∧
      ∃ answer, outcome.result = .ok answer ∧
        (Unanswered guarded.store.visits outcome.state.store.visits → answer = none) := by
  obtain ⟨answer, ended, kept, asked⟩ := minds.asked replies policy call subject
  refine ⟨⟨kept, asked.paced⟩, answer, ended, fun unanswered => ?_⟩
  have silent := asked.not_answered unanswered
  cases answer with
  | none => rfl
  | some value => cases silent

/-- The breaker leaves the store alone while it rests, and no longer. A failure that fills the
number of failures in a row, or adds to them when it is full, shuts the store off for the recovery
time from then on; an answer has the calls go on as usual, with no failures counted. -/
structure LeftAlone (settings : BreakerSettings) (now : Instant)
    (guarded : GuardedStore (Watched σ)) : Prop where
  spaced : Spaced settings guarded.store.visits
  failures : guarded.breaker.failures = UInt64.ofNat (refusedInARow guarded.store.visits)
  closed_iff : guarded.breaker.state = .closed ↔
    refusedInARow guarded.store.visits < settings.failureThreshold.toNat
  shuts : ∀ last earlier, guarded.store.visits = ⟨last, false⟩ :: earlier →
    settings.failureThreshold.toNat ≤ refusedInARow earlier + 1 →
    guarded.breaker.state = .opened ∧ ∀ later, now.nanos ≤ later.nanos →
      ((guarded.breaker.allow later).1 = true ↔
        last.nanos + settings.recovery.nanos ≤ later.nanos)
  resumes : ∀ last earlier, guarded.store.visits = ⟨last, true⟩ :: earlier →
    guarded.breaker.state = .closed ∧ guarded.breaker.failures = 0

theorem Minds.leftAlone (minds : guarded.Minds settings start now) :
    guarded.LeftAlone settings now where
  spaced := minds.spaced
  failures := minds.remembers.failures
  closed_iff := minds.settings ▸ minds.remembers.closed_iff
  shuts last earlier visits full := by
    obtain ⟨other, latest, opened, allowed⟩ := minds.shut (visits ▸ full)
    rw [visits] at latest
    cases latest
    exact ⟨opened, allowed⟩
  resumes last earlier visits := by
    have remembers := minds.remembers
    rw [visits] at remembers
    exact ⟨remembers.closed_iff.mpr remembers.positive, remembers.failures⟩

end GuardedStore

end Gatekeeper
