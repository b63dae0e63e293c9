/-
This file keeps books on an activity. Some of the events that are logged stand for an entry: one
more in a counter, or a circuit that has opened. An activity agrees with its log if its books have
changed by the entries of what it has logged, and by nothing else.

The books may need more than is stored, such as how often a breaker has opened. So the activity is
compared with another one, on states that keep no such record. The record must not be noticed: both
have the same result, log the same, and leave corresponding states. Unlike in other comparisons
nothing may be logged on one side only.

Counting and logging are two steps, and between them the books are ahead of the log. So they are
taken together here, with what is done between them if that cannot be cut short.
-/
import Gatekeeper.Activity
import Gatekeeper.Event

namespace Gatekeeper

/-! ### Entries -/

/-- The counters that the log accounts for. -/
inductive Counter where
  | storeFailures
  | configurationMissing
  | attemptsRecorded
  | released
  | challengesFailed
  | challengesPassed
  deriving DecidableEq

namespace Event

/-- The counter in which an event is one more. -/
def counter? : Event → Option Counter
  | storeFailed .. | verifierFailed .. => some .storeFailures
  | ruleMissing .. => some .configurationMissing
  | attemptRecorded .. => some .attemptsRecorded
  | fingerprintReleased .. => some .released
  | verificationFailed .. => some .challengesFailed
  | verificationPassed .. => some .challengesPassed
  | _ => none

/-- The store whose circuit an event reports to have opened. -/
def opening? : Event → Option StoreRole
  | circuitOpened role => some role
  | _ => none

/-- Nothing is entered for the event. -/
def Unbooked (event : Event) : Prop :=
  event.counter? = none ∧ event.opening? = none

end Event

/-- The counters, and how often each circuit has opened. -/
@[ext]
structure Books where
  counters : Counter → UInt64
  openings : StoreRole → Nat

namespace Books

instance : Add Books :=
  ⟨fun first second => ⟨fun counter => first.counters counter + second.counters counter,
    fun role => first.openings role + second.openings role⟩⟩

theorem counters_add (first second : Books) (counter : Counter) :
    (first + second).counters counter = first.counters counter + second.counters counter := rfl

theorem openings_add (first second : Books) (role : StoreRole) :
    (first + second).openings role = first.openings role + second.openings role := rfl

theorem add_comm (first second : Books) : first + second = second + first :=
  Books.ext (funext fun _ => UInt64.add_comm _ _) (funext fun _ => Nat.add_comm _ _)

/-- How often a counter is entered in a log. -/
def entries (events : List Event) (counter : Counter) : Nat :=
  events.countP fun event => event.counter? = some counter

/-- How often a circuit opens in a log. -/
def openingsIn (events : List Event) (role : StoreRole) : Nat :=
  events.countP fun event => event.opening? = some role

/-- The books have changed by the entries of the log. -/
structure Booked (before after : Books) (events : List Event) : Prop where
  counters : ∀ counter,
    after.counters counter = before.counters counter + UInt64.ofNat (entries events counter)
  openings : ∀ role, after.openings role = before.openings role + openingsIn events role

variable {before between after : Books}

theorem Booked.refl (books : Books) : Booked books books [] where
  counters _ := (UInt64.add_zero _).symm
  openings _ := rfl

theorem Booked.trans {first second : List Event} (start : Booked before between first)
    (next : Booked between after second) : Booked before after (first ++ second) where
  counters counter := by
    rw [next.counters, start.counters, entries, entries, entries, List.countP_append,
      UInt64.ofNat_add, UInt64.add_assoc]
  openings role := by
    rw [next.openings, start.openings, openingsIn, openingsIn, openingsIn, List.countP_append,
      Nat.add_assoc]

/-- The order of the entries does not matter. -/
theorem Booked.perm {first second : List Event} (booked : Booked before after first)
    (same : first.Perm second) : Booked before after second where
  counters counter := by
    rw [booked.counters, entries, entries, same.countP_eq]
  openings role := by
    rw [booked.openings, openingsIn, openingsIn, same.countP_eq]

theorem booked_of_unbooked {event : Event} (unbooked : event.Unbooked) (books : Books) :
    Booked books books [event] where
  counters counter := by
    rw [entries, List.countP_singleton, unbooked.1]
    exact (UInt64.add_zero _).symm
  openings role := by
    rw [openingsIn, List.countP_singleton, unbooked.2]
    rfl

/-- A single entry. -/
theorem booked_of_counter {event : Event} {counter : Counter}
    (counted : event.counter? = some counter) (opens : event.opening? = none)
    (counters : ∀ other, after.counters other =
      if other = counter then before.counters other + 1 else before.counters other)
    (openings : ∀ role, after.openings role = before.openings role) :
    Booked before after [event] where
  counters other := by
    rw [counters, entries, List.countP_singleton, counted]
    by_cases same : other = counter
    · rw [if_pos same, if_pos (by simp [same])]
      rfl
    · rw [if_neg same, if_neg (by simp [Ne.symm same])]
      exact (UInt64.add_zero _).symm
  openings role := by
    rw [openings, openingsIn, List.countP_singleton, opens]
    rfl

/-- What is kept beside the books that change stays as it is. -/
theorem Booked.beside {events : List Event} (booked : Booked before after events) (rest : Books) :
    Booked (before + rest) (after + rest) events where
  counters counter := by
    rw [counters_add, counters_add, booked.counters, UInt64.add_assoc, UInt64.add_assoc,
      UInt64.add_comm (UInt64.ofNat _)]
  openings role := by
    rw [openings_add, openings_add, booked.openings]
    omega

theorem Booked.behind {events : List Event} (booked : Booked before after events) (rest : Books) :
    Booked (rest + before) (rest + after) events := by
  rw [add_comm rest, add_comm rest]
  exact booked.beside rest

end Books

/-! ### Activities that agree with their log -/

namespace Activity

open Books (Booked)

variable {σ τ σ' τ' α β : Type} {related : σ → τ → Prop} {books : σ → Books}

/-- Started in related states, the activities have the same result, log the same and leave related
states, and the books of the first have changed by what is logged. -/
def Agrees (related : σ → τ → Prop) (books : σ → Books) (first : Activity σ α)
    (second : Activity τ α) : Prop :=
  ∀ ⦃state : σ⦄ ⦃other : τ⦄, related state other →
    (first.run state).result = (second.run other).result ∧
      (first.run state).events = (second.run other).events ∧
      related (first.run state).state (second.run other).state ∧
      Booked (books state) (books (first.run state).state) (first.run state).events

/-- What is logged last is logged behind what is done in between. -/
theorem run_change_around {update : σ → σ} {activity : Activity σ α} {state : σ} {value : α}
    (ended : (activity.run (update state)).result = .ok value) (event : Event)
    (next : Activity σ β) :
    (change update >>= fun _ => activity >>= fun _ => log event >>= fun _ => next).run state =
      let between := activity.run (update state)
      let last := next.run between.state
      ⟨last.result, last.state, between.events ++ event :: last.events⟩ := by
  show (activity >>= fun _ => log event >>= fun _ => next).run (update state) = _
  rw [run_bind_of_ok ended]
  rfl

namespace Agrees

theorem pure (value : α) : Agrees related books (pure value) (pure value) :=
  fun _ _ start => ⟨rfl, rfl, start, .refl _⟩

theorem fault (fault : Fault) :
    Agrees related books (Activity.fault fault : Activity σ α) (Activity.fault fault) :=
  fun _ _ start => ⟨rfl, rfl, start, .refl _⟩

theorem log {event : Event} (unbooked : event.Unbooked) :
    Agrees related books (log event) (log event) :=
  fun _ _ start => ⟨rfl, rfl, start, Books.booked_of_unbooked unbooked _⟩

/-- A change that is not in the books. -/
theorem change {update : σ → σ} {update' : τ → τ}
    (keeps : ∀ ⦃state other⦄, related state other →
      related (update state) (update' other) ∧ books (update state) = books state) :
    Agrees related books (change update) (change update') := by
  intro state other start
  obtain ⟨after, same⟩ := keeps start
  refine ⟨rfl, rfl, after, ?_⟩
  show Booked (books state) (books (update state)) []
  rw [same]
  exact .refl _

/-- What follows has to agree for the results that the first activity can have. -/
theorem bind_result {first : Activity σ α} {second : Activity τ α} {next : α → Activity σ β}
    {next' : α → Activity τ β} (agrees : Agrees related books first second)
    (afterwards : ∀ ⦃state value⦄, (first.run state).result = .ok value →
      Agrees related books (next value) (next' value)) :
    Agrees related books (first >>= next) (second >>= next') := by
  intro state other start
  obtain ⟨sameResult, sameEvents, sameState, booked⟩ := agrees start
  rw [run_bind, run_bind, ← sameResult, ← sameEvents]
  cases ended : (first.run state).result with
  | error fault => exact ⟨rfl, rfl, sameState, booked⟩
  | ok value =>
    obtain ⟨sameResult', sameEvents', sameState', booked'⟩ := afterwards ended sameState
    exact ⟨sameResult', congrArg (_ ++ ·) sameEvents', sameState', booked.trans booked'⟩

theorem bind {first : Activity σ α} {second : Activity τ α} {next : α → Activity σ β}
    {next' : α → Activity τ β} (agrees : Agrees related books first second)
    (afterwards : ∀ value, Agrees related books (next value) (next' value)) :
    Agrees related books (first >>= next) (second >>= next') :=
  agrees.bind_result fun _ value _ => afterwards value

theorem mapM {γ : Type} {each : γ → Activity σ α} {each' : γ → Activity τ α}
    (agrees : ∀ item, Agrees related books (each item) (each' item)) (items : List γ) :
    Agrees related books (items.mapM each) (items.mapM each') := by
  suffices loop : ∀ done, Agrees related books (List.mapM.loop each items done)
      (List.mapM.loop each' items done) from loop []
  induction items with
  | nil => exact fun done => .pure _
  | cons item rest inductionHypothesis =>
    exact fun done => (agrees item).bind fun value => inductionHypothesis (value :: done)

theorem read {next : σ → Activity σ β} {next' : τ → Activity τ β}
    (afterwards : ∀ ⦃state other⦄, related state other →
      Agrees related books (next state) (next' other)) :
    Agrees related books (state >>= next) (Activity.state >>= next') :=
  fun _ _ start => afterwards start start

theorem attempt {first : Activity σ α} {second : Activity τ α}
    (agrees : Agrees related books first second) :
    Agrees related books first.attempt second.attempt := by
  intro state other start
  obtain ⟨sameResult, rest⟩ := agrees start
  exact ⟨congrArg Except.ok sameResult, rest⟩

/-- The books of a part are some of the books of the whole. -/
theorem on {inner : σ' → τ' → Prop} {innerBooks : σ' → Books} {part : σ → σ'}
    {replace : σ' → σ → σ} {part' : τ → τ'} {replace' : τ' → τ → τ} {first : Activity σ' α}
    {second : Activity τ' α}
    (toPart : ∀ ⦃state other⦄, related state other → inner (part state) (part' other))
    (ofPart : ∀ ⦃state other value value'⦄, related state other → inner value value' →
      related (replace value state) (replace' value' other))
    (rest : ∀ state, ∃ rest, books state = innerBooks (part state) + rest ∧
      ∀ value, books (replace value state) = innerBooks value + rest)
    (agrees : Agrees inner innerBooks first second) :
    Agrees related books (first.on part replace) (second.on part' replace') := by
  intro state other start
  obtain ⟨sameResult, sameEvents, sameState, booked⟩ := agrees (toPart start)
  refine ⟨sameResult, sameEvents, ofPart start sameState, ?_⟩
  obtain ⟨rest, before, after⟩ := rest state
  rw [run_on, before, after]
  exact booked.beside rest

/-- Something is counted, and logged once something else has been done that is never cut short. -/
theorem counted_around {update : σ → σ} {update' : τ → τ} {event : Event} {first : Activity σ α}
    {second : Activity τ α} {next : Activity σ β} {next' : Activity τ β}
    (counts : ∀ ⦃state other⦄, related state other →
      related (update state) (update' other) ∧
        Booked (books state) (books (update state)) [event])
    (agrees : Agrees related books first second)
    (never : ∀ state fault, (first.run state).result ≠ .error fault)
    (afterwards : Agrees related books next next') :
    Agrees related books
      (Activity.change update >>= fun _ => first >>= fun _ => Activity.log event >>= fun _ => next)
      (Activity.change update' >>= fun _ =>
        second >>= fun _ => Activity.log event >>= fun _ => next') := by
  intro state other start
  obtain ⟨counted, entered⟩ := counts start
  obtain ⟨sameResult, sameEvents, sameState, booked⟩ := agrees counted
  obtain ⟨sameResult', sameEvents', sameState', booked'⟩ := afterwards sameState
  obtain ⟨value, ended⟩ : ∃ value, (first.run (update state)).result = .ok value := by
    cases ended : (first.run (update state)).result with
    | ok value => exact ⟨value, rfl⟩
    | error fault => exact absurd ended (never _ fault)
  rw [run_change_around ended, run_change_around (sameResult ▸ ended)]
  refine ⟨sameResult', ?_, sameState', ?_⟩
  · dsimp only
    rw [sameEvents, sameEvents']
  · exact ((entered.trans booked).trans booked').perm
      (List.append_assoc _ _ _ ▸ List.perm_append_comm_assoc [event] _ _)

/-- Something is counted and logged. -/
theorem counted {update : σ → σ} {update' : τ → τ} {event : Event} {next : Activity σ β}
    {next' : Activity τ β}
    (counts : ∀ ⦃state other⦄, related state other →
      related (update state) (update' other) ∧
        Booked (books state) (books (update state)) [event])
    (afterwards : Agrees related books next next') :
    Agrees related books
      (Activity.change update >>= fun _ => Activity.log event >>= fun _ => next)
      (Activity.change update' >>= fun _ => Activity.log event >>= fun _ => next') :=
  counted_around counts (.pure ()) (fun _ _ => nofun) afterwards

/-- Something is counted and logged, and that is all. -/
theorem counted_last {update : σ → σ} {update' : τ → τ} {event : Event}
    (counts : ∀ ⦃state other⦄, related state other →
      related (update state) (update' other) ∧
        Booked (books state) (books (update state)) [event]) :
    Agrees related books
      (Activity.change update >>= fun _ => Activity.log event)
      (Activity.change update' >>= fun _ => Activity.log event) :=
  fun _ _ start => ⟨rfl, rfl, counts start⟩

end Agrees

end Activity

end Gatekeeper
