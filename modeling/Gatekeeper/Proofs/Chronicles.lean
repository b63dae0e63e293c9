/-
This file writes down what comes to the breaker of a store. The record is kept beside the store: a
call that reaches it has been asked for and let through, and the breaker is told of its outcome. A
call that is not let through leaves no mark on the breaker, and none on the record. So the record
goes through the same states as the breaker, and each time it moves into the open state a warning is
logged.

The record is not noticed by anyone. Asking a store beside which one is kept is asking the store.
-/
import Gatekeeper.Proofs.Books
import Gatekeeper.Proofs.BreakerHistory
import Gatekeeper.Proofs.Correspondence

namespace Gatekeeper

open Activity (Agrees)
open Books (Booked)
open Breaker (History Signal)

variable {α δ κ ν σ : Type} {settings : BreakerSettings} {start now : Instant}

/-! ### How often a circuit has opened -/

/-- How often the state has changed to open; of the states the latest comes first. -/
def CircuitState.openings : List CircuitState → Nat
  | later :: earlier :: rest =>
    openings (earlier :: rest) + if earlier ≠ .opened ∧ later = .opened then 1 else 0
  | _ => 0

namespace Breaker.History

/-- How often the circuit has opened. -/
def openings (history : History) : Nat :=
  CircuitState.openings (history.breaker.state :: history.entries.map Entry.found)

theorem openings_step (history : History) (signal : Signal) :
    (history.step signal).openings =
      history.openings +
        if history.breaker.state ≠ .opened ∧ (history.step signal).breaker.state = .opened then 1
        else 0 := rfl

theorem openings_step_of_not_opened {history : History} {signal : Signal}
    (shut : (history.step signal).breaker.state ≠ .opened) :
    (history.step signal).openings = history.openings := by
  rw [openings_step, if_neg fun moved => shut moved.2]
  rfl

theorem openings_step_wait (history : History) (length : Duration) :
    (history.step (.wait length)).openings = history.openings := by
  rw [openings_step, if_neg fun moved => moved.1 moved.2]
  rfl

/-- A call that is let through does not find the circuit open. -/
theorem openings_step_ask {history : History}
    (allowed : (history.breaker.allow history.now).1 = true) :
    (history.step .ask).openings = history.openings :=
  openings_step_of_not_opened (not_opened_of_allowed allowed)

theorem openings_step_succeed (history : History) :
    (history.step .succeed).openings = history.openings := by
  by_cases opened : history.breaker.state = .opened
  · rw [openings_step, if_neg fun moved => moved.1 opened]
    rfl
  · refine openings_step_of_not_opened ?_
    show history.breaker.succeed.state ≠ .opened
    rw [succeed_of_not_opened opened]
    nofun

/-- A failure is one more opening exactly when it is said to open the circuit. -/
theorem openings_step_fail (history : History) :
    (history.step .fail).openings =
      history.openings + if (history.breaker.fail history.now).1 then 1 else 0 := by
  have opens : (history.breaker.fail history.now).1 = true ↔
      history.breaker.state ≠ .opened ∧ (history.step .fail).breaker.state = .opened :=
    history.breaker.fail_fst_iff history.now
  rw [openings_step]
  by_cases said : (history.breaker.fail history.now).1 = true
  · rw [if_pos said, if_pos (opens.mp said)]
  · rw [if_neg said, if_neg fun moved => said (opens.mpr moved)]

end Breaker.History

/-! ### Records beside a store -/

/-- What a call that gets through comes to for the breaker. -/
def Reply.signals : Reply α → List Signal
  | answer _ => [.ask, .succeed]
  | refused _ => [.ask, .fail]
  | fault _ => [.ask]

/-- A store, and the history of its breaker. -/
structure Chronicled (σ : Type) where
  inner : σ
  history : History

namespace Chronicled

/-- A call is made of the store, and written down. -/
def call (store : Chronicled σ) (question : σ → Reply α × σ) : Reply α × Chronicled σ :=
  let (reply, inner) := question store.inner
  (reply, ⟨inner, store.history.after reply.signals⟩)

/-- Time passes. -/
def wait (length : Duration) (store : Chronicled σ) : Chronicled σ :=
  { store with history := store.history.step (.wait length) }

instance [DuplicateStore σ] : DuplicateStore (Chronicled σ) where
  tryInsert store fingerprint now window :=
    store.call fun inner => DuplicateStore.tryInsert inner fingerprint now window
  remove store fingerprint := store.call fun inner => DuplicateStore.remove inner fingerprint
  purge store now :=
    let (count, inner) := DuplicateStore.purge store.inner now
    (count, { store with inner := inner })

instance [AttemptStore σ] : AttemptStore (Chronicled σ) where
  attempts store key now := store.call fun inner => AttemptStore.attempts inner key now
  increment store key now length :=
    store.call fun inner => AttemptStore.increment inner key now length
  clear store key := store.call fun inner => AttemptStore.clear inner key
  purge store now :=
    let (count, inner) := AttemptStore.purge store.inner now
    (count, { store with inner := inner })

theorem replies [AttemptStore σ] (replies : AttemptStore.Replies σ) :
    AttemptStore.Replies (Chronicled σ) where
  attempts store key now := replies.attempts store.inner key now
  clear store key := replies.clear store.inner key

end Chronicled

/-! ### What asking comes to -/

namespace GuardedStore

section Asking

variable {question : σ → Reply α × σ} {store : σ} (guarded : GuardedStore σ)
  (policy : FailurePolicy) (call : StoreCall) (subject : StoreSubject)

theorem run_ask_of_shut (shut : (guarded.breaker.allow now).1 = false) :
    (ask now policy call subject question).run guarded =
      ⟨.ok none, guarded, [.storeSkipped call subject]⟩ := by
  simp [Activity.run, ask, shut]

theorem run_ask_of_answered (allowed : (guarded.breaker.allow now).1 = true) {value : α}
    (answered : question guarded.store = (.answer value, store)) :
    (ask now policy call subject question).run guarded =
      ⟨.ok (some value),
        { guarded with store := store, breaker := (guarded.breaker.allow now).2.succeed }, []⟩ := by
  simp [Activity.run, ask, allowed, answered]

theorem run_ask_of_refused (allowed : (guarded.breaker.allow now).1 = true) {error : StoreError}
    (refused : question guarded.store = (.refused error, store)) :
    (ask now policy call subject question).run guarded =
      let failed := (guarded.breaker.allow now).2.fail now
      ⟨.ok none, ⟨store, failed.2, guarded.refusals + 1⟩,
        .storeFailed call subject error policy ::
          if failed.1 then [.circuitOpened subject.role] else []⟩ := by
  simp [Activity.run, ask, allowed, refused]

theorem run_ask_of_faulted (allowed : (guarded.breaker.allow now).1 = true) {fault : Fault}
    (faulted : question guarded.store = (.fault fault, store)) :
    (ask now policy call subject question).run guarded =
      ⟨.error fault, { guarded with store := store, breaker := (guarded.breaker.allow now).2 },
        []⟩ := by
  simp [Activity.run, ask, allowed, faulted]

end Asking

/-! ### Asking with a record -/

/-- The store without the record. -/
def plain (guarded : GuardedStore (Chronicled σ)) : GuardedStore σ :=
  ⟨guarded.store.inner, guarded.breaker, guarded.refusals⟩

/-- The record is that of a new breaker to which some signals have come, and it has brought that
breaker to the state of this one. -/
structure Chronicles (settings : BreakerSettings) (start now : Instant)
    (guarded : GuardedStore (Chronicled σ)) (plain : GuardedStore σ) : Prop where
  plain : guarded.plain = plain
  breaker : guarded.store.history.breaker = guarded.breaker
  now : guarded.store.history.now = now
  begun : ∃ signals, guarded.store.history = (History.begin settings start).after signals

/-- The calls that the store has refused, and how often its circuit has opened. -/
def books (role : StoreRole) (guarded : GuardedStore (Chronicled σ)) : Books where
  counters counter := if counter = .storeFailures then guarded.refusals else 0
  openings other := if other = role then guarded.store.history.openings else 0

variable {guarded : GuardedStore (Chronicled σ)} {plain : GuardedStore σ}

theorem Chronicles.begun_after (chronicles : guarded.Chronicles settings start now plain)
    (more : List Signal) :
    ∃ signals, guarded.store.history.after more = (History.begin settings start).after signals := by
  obtain ⟨signals, same⟩ := chronicles.begun
  exact ⟨signals ++ more, by
    rw [same, History.after, History.after, History.after, List.foldl_append]⟩

/-- The books do not change as long as nothing is refused and the circuit does not open. -/
theorem booked_nothing {role : StoreRole} {after : GuardedStore (Chronicled σ)}
    (refusals : after.refusals = guarded.refusals)
    (openings : after.store.history.openings = guarded.store.history.openings) :
    Booked (books role guarded) (books role after) [] where
  counters counter := by
    unfold books
    rw [refusals]
    exact (UInt64.add_zero _).symm
  openings other := by
    unfold books
    rw [openings]
    rfl

/-- Time passes for the record as it does for the gate. -/
theorem Chronicles.wait (chronicles : guarded.Chronicles settings start now plain)
    {length : Duration} {later : Instant} (passed : now.after? length = some later) :
    let waited := { guarded with store := guarded.store.wait length }
    waited.Chronicles settings start later plain ∧
      ∀ role, Booked (books role guarded) (books role waited) [] := by
  refine ⟨⟨chronicles.plain, chronicles.breaker, ?_, chronicles.begun_after [.wait length]⟩,
    fun role => booked_nothing rfl (History.openings_step_wait _ length)⟩
  obtain ⟨moved, -⟩ := (Instant.after?_eq_some_iff _ _ _).mp passed
  show (⟨guarded.store.history.now.nanos + length.nanos⟩ : Instant) = later
  rw [chronicles.now, ← moved]

/-- A refusal is one more failure of the store, and one more opening of its circuit if it opens. -/
theorem booked_refusal {after : GuardedStore (Chronicled σ)} {opens : Bool} (call : StoreCall)
    (subject : StoreSubject) (error : StoreError) (policy : FailurePolicy)
    (refusals : after.refusals = guarded.refusals + 1)
    (openings : after.store.history.openings =
      guarded.store.history.openings + if opens then 1 else 0) :
    Booked (books subject.role guarded) (books subject.role after)
      (.storeFailed call subject error policy ::
        if opens then [.circuitOpened subject.role] else []) where
  counters counter := by
    unfold books
    dsimp only
    rw [refusals, Books.entries]
    cases opens <;> cases counter <;> rfl
  openings other := by
    unfold books
    dsimp only
    rw [openings, Books.openingsIn]
    cases opens <;> cases other <;> cases subject.role <;> rfl

/-- Asking a store beside which a record is kept is asking the store, and what is logged is what the
record and the count of refusals say. -/
theorem ask_agrees (policy : FailurePolicy) (call : StoreCall) (subject : StoreSubject)
    (question : σ → Reply α × σ) :
    Agrees (Chronicles settings start now) (books subject.role)
      (ask now policy call subject fun store : Chronicled σ => store.call question)
      (ask now policy call subject question) := by
  intro guarded _ chronicles
  have begun := chronicles.begun_after
  obtain ⟨rfl, breaker, rfl, unused⟩ := chronicles
  cases allowed : (guarded.breaker.allow guarded.store.history.now).1 with
  | false =>
    rw [run_ask_of_shut guarded policy call subject allowed,
      run_ask_of_shut guarded.plain policy call subject allowed]
    refine ⟨rfl, rfl, ⟨rfl, breaker, rfl, unused⟩, ?_⟩
    exact Books.booked_of_unbooked ⟨rfl, rfl⟩ _
  | true =>
    have asked : (guarded.store.history.step .ask).openings = guarded.store.history.openings :=
      History.openings_step_ask (by rw [breaker]; exact allowed)
    have breakerAsked : (guarded.store.history.step .ask).breaker =
        (guarded.breaker.allow guarded.store.history.now).2 := by rw [← breaker]; rfl
    cases called : question guarded.store.inner with
    | mk reply inner =>
      have written : guarded.store.call question =
          (reply, ⟨inner, guarded.store.history.after reply.signals⟩) := by
        rw [Chronicled.call, called]
      cases reply with
      | answer value =>
        rw [run_ask_of_answered guarded policy call subject allowed written,
          run_ask_of_answered guarded.plain policy call subject allowed called]
        refine ⟨rfl, rfl, ⟨rfl, ?_, rfl, begun _⟩, booked_nothing rfl ?_⟩
        · exact congrArg Breaker.succeed breakerAsked
        · exact (History.openings_step_succeed _).trans asked
      | refused error =>
        rw [run_ask_of_refused guarded policy call subject allowed written,
          run_ask_of_refused guarded.plain policy call subject allowed called]
        refine ⟨rfl, rfl, ⟨rfl, ?_, rfl, begun _⟩, booked_refusal call subject error policy rfl ?_⟩
        · exact congrArg (fun asked => (asked.fail guarded.store.history.now).2) breakerAsked
        · have failed := History.openings_step_fail (guarded.store.history.step .ask)
          rw [asked, breakerAsked] at failed
          exact failed
      | fault fault =>
        rw [run_ask_of_faulted guarded policy call subject allowed written,
          run_ask_of_faulted guarded.plain policy call subject allowed called]
        exact ⟨rfl, rfl, ⟨rfl, breakerAsked, rfl, begun _⟩, booked_nothing rfl asked⟩

end GuardedStore

end Gatekeeper
