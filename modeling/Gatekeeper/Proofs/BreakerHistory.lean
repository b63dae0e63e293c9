/-
This file reads the state of a circuit breaker off its history. A breaker is told of outcomes and
asked for permission, by any callers and in any order, and all it remembers is a state, a count and
a time. They follow from two facts about the past: how many failures there have been in a row,
and when the last failure was. The circuit is closed exactly as long as the failures in a row are
fewer than the threshold, an open circuit lets nothing through before the recovery time has passed
since the last failure, and nothing but letting a call through after that makes it half open.

What is not remembered is who has been let through. A circuit that has turned half open lets
everyone through until an outcome is noted, so there is a single probe only where nobody else asks
before.
-/
import Gatekeeper.Breaker

namespace Gatekeeper

namespace Breaker

variable {breaker : Breaker} {streak : Nat} {last now : Instant}

/-! ### What a breaker remembers -/

/-- The breaker has been told of so many failures in a row, the last of them at this time. The count
has sixty-four bits and may have come round, but only after the circuit has opened, and then it is
not looked at. -/
structure Remembers (breaker : Breaker) (streak : Nat) (last : Instant) : Prop where
  positive : 0 < breaker.settings.failureThreshold.toNat
  failures : breaker.failures = UInt64.ofNat streak
  closed_iff : breaker.state = .closed ↔ streak < breaker.settings.failureThreshold.toNat
  dated : streak ≠ 0 → breaker.epoch.nanos + breaker.lastFailure.nanos = last.nanos

theorem remembers_ofSettings {settings : BreakerSettings}
    (positive : 0 < settings.failureThreshold.toNat) (now last : Instant) :
    (ofSettings settings now).Remembers 0 last :=
  ⟨positive, rfl, iff_of_true rfl positive, fun none => absurd rfl none⟩

/-- A circuit that is not closed has seen a failure. -/
theorem Remembers.streak_ne_zero (remembers : breaker.Remembers streak last)
    (shut : breaker.state ≠ .closed) : streak ≠ 0 := by
  rintro rfl
  exact shut (remembers.closed_iff.mpr remembers.positive)

theorem Remembers.reset (remembers : breaker.Remembers streak last) :
    breaker.reset.Remembers 0 last :=
  ⟨remembers.positive, rfl, iff_of_true rfl remembers.positive, fun none => absurd rfl none⟩

/-- Where there are no failures in a row it does not matter when the last one was. -/
theorem Remembers.redated (remembers : breaker.Remembers 0 last) (now : Instant) :
    breaker.Remembers 0 now :=
  { remembers with dated := fun none => absurd rfl none }

theorem succeed_of_opened (opened : breaker.state = .opened) : breaker.succeed = breaker :=
  if_pos opened

theorem succeed_of_not_opened (shut : breaker.state ≠ .opened) :
    breaker.succeed = breaker.reset :=
  if_neg shut

/-- The threshold has thirty-two bits, so the count reaches it before it can come round. -/
theorem opensAt_closed (closed : breaker.state = .closed)
    (below : streak < breaker.settings.failureThreshold.toNat) :
    breaker.opensAt (UInt64.ofNat streak + 1) = true ↔
      breaker.settings.failureThreshold.toNat ≤ streak + 1 := by
  have fits : streak + 1 < UInt64.size :=
    Nat.lt_trans (Nat.lt_of_le_of_lt below breaker.settings.failureThreshold.toNat_lt) (by decide)
  have next : (UInt64.ofNat streak + 1).toNat = streak + 1 := by
    rw [UInt64.toNat_add, UInt64.toNat_ofNat_of_lt' (Nat.lt_of_succ_lt fits)]
    exact Nat.mod_eq_of_lt fits
  unfold opensAt
  rw [closed]
  simp only [decide_eq_true_eq, UInt64.le_iff_toNat_le, UInt32.toNat_toUInt64, next]

/-- A failure is one more in a row, and the last one from now on. -/
theorem Remembers.fail (remembers : breaker.Remembers streak last)
    (later : breaker.epoch.nanos ≤ now.nanos)
    (early : now.nanos < breaker.epoch.nanos + UInt64.size) :
    (breaker.fail now).2.Remembers (streak + 1) now where
  positive := remembers.positive
  failures := by
    show breaker.failures + 1 = UInt64.ofNat (streak + 1)
    rw [remembers.failures, UInt64.ofNat_add]
    rfl
  closed_iff := by
    show (if breaker.opensAt (breaker.failures + 1) then CircuitState.opened else breaker.state) =
      .closed ↔ streak + 1 < breaker.settings.failureThreshold.toNat
    have before := remembers.closed_iff
    rw [remembers.failures]
    cases found : breaker.state with
    | closed =>
      have reached := opensAt_closed found (before.mp found)
      by_cases opens : breaker.opensAt (UInt64.ofNat streak + 1) = true
      · rw [if_pos opens]
        exact ⟨nofun, fun below => absurd (reached.mp opens) (Nat.not_le.mpr below)⟩
      · rw [if_neg opens]
        exact iff_of_true rfl (Nat.not_le.mp fun full => opens (reached.mpr full))
    | opened | halfOpen =>
      -- The failures have reached the threshold, and one more does not take them below it.
      rw [found] at before
      have beyond : ¬ streak < breaker.settings.failureThreshold.toNat := fun below =>
        CircuitState.noConfusion (before.mpr below)
      refine iff_of_false (fun closed => ?_) (by omega)
      split at closed <;> cases closed
  dated _ := by
    show breaker.epoch.nanos + ((min (now.since breaker.epoch).nanos 0xFFFFFFFFFFFFFFFF : Nat) :
      Int) = now.nanos
    show breaker.epoch.nanos +
      ((min (now.nanos - breaker.epoch.nanos).toNat 0xFFFFFFFFFFFFFFFF : Nat) : Int) = now.nanos
    have size : (UInt64.size : Int) = 0xFFFFFFFFFFFFFFFF + 1 := rfl
    omega

theorem Remembers.allow (remembers : breaker.Remembers streak last) (now : Instant) :
    (breaker.allow now).2.Remembers streak last := by
  unfold Breaker.allow
  cases found : breaker.state with
  | closed | halfOpen => exact remembers
  | opened =>
    dsimp only
    split
    · exact remembers
    · refine ⟨remembers.positive, remembers.failures, ⟨nofun, fun below => ?_⟩, remembers.dated⟩
      rw [remembers.closed_iff.mpr below] at found
      cases found

/-- An open circuit lets nothing through before the recovery time has passed since the last failure,
and turns half open when it lets a call through after that. -/
theorem Remembers.allow_of_opened (remembers : breaker.Remembers streak last)
    (opened : breaker.state = .opened) (later : last.nanos ≤ now.nanos) :
    breaker.allow now =
      if now.nanos < last.nanos + breaker.settings.recovery.nanos then (false, breaker)
      else (true, { breaker with state := .halfOpen }) := by
  have shut : breaker.state ≠ .closed := fun closed => by rw [opened] at closed; cases closed
  have passed : (breaker.sinceFailure now).nanos < breaker.settings.recovery.nanos ↔
      now.nanos < last.nanos + breaker.settings.recovery.nanos := by
    unfold sinceFailure
    rw [remembers.dated (remembers.streak_ne_zero shut)]
    show (now.nanos - last.nanos).toNat < _ ↔ _
    omega
  unfold Breaker.allow
  rw [opened]
  simp only [passed]

theorem allow_frame (breaker : Breaker) (now : Instant) :
    (breaker.allow now).2.settings = breaker.settings ∧
      (breaker.allow now).2.epoch = breaker.epoch := by
  unfold allow
  cases breaker.state with
  | closed | halfOpen => exact ⟨rfl, rfl⟩
  | opened =>
    dsimp only
    split <;> exact ⟨rfl, rfl⟩

theorem succeed_frame (breaker : Breaker) :
    breaker.succeed.settings = breaker.settings ∧ breaker.succeed.epoch = breaker.epoch := by
  unfold succeed
  split <;> exact ⟨rfl, rfl⟩

theorem fail_frame (breaker : Breaker) (now : Instant) :
    (breaker.fail now).2.settings = breaker.settings ∧
      (breaker.fail now).2.epoch = breaker.epoch :=
  ⟨rfl, rfl⟩

/-- A failure is said to open the circuit exactly when it does. -/
theorem fail_fst_iff (breaker : Breaker) (now : Instant) :
    (breaker.fail now).1 = true ↔
      breaker.state ≠ .opened ∧ (breaker.fail now).2.state = .opened := by
  show breaker.opensAt (breaker.failures + 1) = true ↔ breaker.state ≠ .opened ∧
    (if breaker.opensAt (breaker.failures + 1) then CircuitState.opened else breaker.state) =
      .opened
  by_cases opens : breaker.opensAt (breaker.failures + 1) = true
  · rw [if_pos opens]
    refine iff_of_true opens ⟨fun opened => ?_, rfl⟩
    rw [opensAt, opened] at opens
    cases opens
  · rw [if_neg opens]
    exact iff_of_false opens fun moved => moved.1 moved.2

/-- A circuit that lets a call through is not open any more. -/
theorem not_opened_of_allowed (allowed : (breaker.allow now).1 = true) :
    (breaker.allow now).2.state ≠ .opened := by
  unfold Breaker.allow at allowed ⊢
  cases found : breaker.state with
  | closed | halfOpen =>
    dsimp only
    rw [found]
    nofun
  | opened =>
    rw [found] at allowed
    dsimp only at allowed ⊢
    split at allowed
    · cases allowed
    · rw [if_neg ‹_›]
      nofun

/-- A failure never leaves the circuit half open. -/
theorem fail_ne_halfOpen (breaker : Breaker) (now : Instant) :
    (breaker.fail now).2.state ≠ .halfOpen := by
  show (if breaker.opensAt (breaker.failures + 1) then CircuitState.opened else breaker.state) ≠
    .halfOpen
  split
  · nofun
  · intro probing
    have opens : breaker.opensAt (breaker.failures + 1) = true := by rw [opensAt, probing]
    contradiction

/-! ### Histories -/

/-- What may come to a breaker. -/
inductive Signal where
  /-- Somebody asks whether a call may go through. -/
  | ask
  | succeed
  | fail
  | reset
  /-- Time passes. -/
  | wait (length : Duration)
  deriving DecidableEq

namespace Signal

/-- The breaker after a signal. -/
def apply (breaker : Breaker) (now : Instant) : Signal → Breaker
  | ask => (breaker.allow now).2
  | succeed => breaker.succeed
  | fail => (breaker.fail now).2
  | reset => breaker.reset
  | wait _ => breaker

/-- An outcome is noted, or the breaker is reset. -/
def settles : Signal → Bool
  | succeed | fail | reset => true
  | ask | wait _ => false

/-- The time after a signal. -/
def next (now : Instant) : Signal → Instant
  | wait length => ⟨now.nanos + length.nanos⟩
  | _ => now

end Signal

/-- A signal that has come: when it came, and in which state it found the circuit. -/
structure Entry where
  signal : Signal
  now : Instant
  found : CircuitState

namespace Entry

def isFailure (entry : Entry) : Bool :=
  entry.signal = .fail

/-- A reset, or a success that did not find the circuit open. -/
def clears (entry : Entry) : Bool :=
  entry.signal = .reset || (entry.signal = .succeed && entry.found ≠ .opened)

/-- How many failures there have been since the last reset or success that counts; of the entries
the latest comes first. -/
def failuresInARow (entries : List Entry) : Nat :=
  (entries.takeWhile fun entry => !entry.clears).countP isFailure

/-- When the latest failure was. -/
def lastFailure? (entries : List Entry) : Option Instant :=
  (entries.find? isFailure).map Entry.now

end Entry

/-- A breaker, the time, and what has come to it so far, the latest first. -/
structure History where
  breaker : Breaker
  now : Instant
  entries : List Entry

namespace History

open Entry (failuresInARow lastFailure?)

/-- Nothing has come to a new breaker. -/
def begin (settings : BreakerSettings) (start : Instant) : History :=
  ⟨.ofSettings settings start, start, []⟩

def step (history : History) (signal : Signal) : History where
  breaker := signal.apply history.breaker history.now
  now := signal.next history.now
  entries := ⟨signal, history.now, history.breaker.state⟩ :: history.entries

def after (history : History) (signals : List Signal) : History :=
  signals.foldl step history

theorem now_le_step (history : History) (signal : Signal) :
    history.now.nanos ≤ (history.step signal).now.nanos := by
  cases signal with
  | wait length => exact Int.le_add_of_nonneg_right (Int.natCast_nonneg _)
  | ask | succeed | fail | reset => exact Int.le_refl _

theorem now_le_after (history : History) (signals : List Signal) :
    history.now.nanos ≤ (history.after signals).now.nanos := by
  induction signals generalizing history with
  | nil => exact Int.le_refl _
  | cons signal rest inductionHypothesis =>
    exact Int.le_trans (history.now_le_step signal) (inductionHypothesis (history.step signal))

/-! ### What the failures come to -/

theorem failuresInARow_cons_of_clears {entry : Entry} (clears : entry.clears = true)
    (entries : List Entry) : failuresInARow (entry :: entries) = 0 := by
  simp [failuresInARow, clears]

theorem failuresInARow_cons_of_failure {entry : Entry} (failure : entry.signal = .fail)
    (entries : List Entry) : failuresInARow (entry :: entries) = failuresInARow entries + 1 := by
  simp [failuresInARow, Entry.clears, Entry.isFailure, failure]

theorem failuresInARow_cons_of_other {entry : Entry} (kept : entry.clears = false)
    (other : entry.signal ≠ .fail) (entries : List Entry) :
    failuresInARow (entry :: entries) = failuresInARow entries := by
  simp [failuresInARow, kept, Entry.isFailure, other]

theorem lastFailure?_cons_of_failure {entry : Entry} (failure : entry.signal = .fail)
    (entries : List Entry) : lastFailure? (entry :: entries) = some entry.now := by
  simp [lastFailure?, Entry.isFailure, failure]

theorem lastFailure?_cons_of_other {entry : Entry} (other : entry.signal ≠ .fail)
    (entries : List Entry) : lastFailure? (entry :: entries) = lastFailure? entries := by
  simp [lastFailure?, Entry.isFailure, other]

/-- Failures in a row are failures. -/
theorem failuresInARow_le (entries : List Entry) :
    failuresInARow entries ≤ entries.countP Entry.isFailure :=
  (List.takeWhile_sublist _).countP_le

/-- Of failures in a row one is the latest. -/
theorem exists_lastFailure {entries : List Entry} (failed : failuresInARow entries ≠ 0) :
    ∃ last, lastFailure? entries = some last := by
  obtain ⟨entry, member, failure⟩ :=
    List.countP_pos_iff.mp (Nat.pos_of_ne_zero failed)
  have found : (entries.find? Entry.isFailure).isSome = true :=
    List.find?_isSome.mpr ⟨entry, (List.takeWhile_sublist _).subset member, failure⟩
  obtain ⟨latest, found⟩ := Option.isSome_iff_exists.mp found
  exact ⟨latest.now, by rw [lastFailure?, found]; rfl⟩

/-! ### One signal, and any number of them -/

/-- The breaker remembers what its history says. -/
structure Sound (settings : BreakerSettings) (start : Instant) (history : History) : Prop where
  settings : history.breaker.settings = settings
  epoch : history.breaker.epoch = start
  remembers : history.breaker.Remembers (failuresInARow history.entries)
    ((lastFailure? history.entries).getD start)
  past : ∀ entry ∈ history.entries, entry.now.nanos ≤ history.now.nanos
  started : start.nanos ≤ history.now.nanos

variable {settings : BreakerSettings} {start : Instant} {history : History}

theorem begin_sound (positive : 0 < settings.failureThreshold.toNat) (start : Instant) :
    Sound settings start (begin settings start) where
  settings := rfl
  epoch := rfl
  remembers := remembers_ofSettings positive start start
  past _ member := absurd member List.not_mem_nil
  started := Int.le_refl _

theorem apply_frame (breaker : Breaker) (now : Instant) (signal : Signal) :
    (signal.apply breaker now).settings = breaker.settings ∧
      (signal.apply breaker now).epoch = breaker.epoch := by
  cases signal with
  | ask => exact breaker.allow_frame now
  | succeed => exact breaker.succeed_frame
  | fail => exact breaker.fail_frame now
  | reset => exact ⟨rfl, rfl⟩
  | wait length => exact ⟨rfl, rfl⟩

theorem Sound.step_remembers (sound : Sound settings start history)
    (early : history.now.nanos < start.nanos + UInt64.size) (signal : Signal) :
    (history.step signal).breaker.Remembers (failuresInARow (history.step signal).entries)
      ((lastFailure? (history.step signal).entries).getD start) := by
  unfold step
  dsimp only
  cases signal with
  | ask =>
    rw [failuresInARow_cons_of_other rfl (by nofun), lastFailure?_cons_of_other (by nofun)]
    exact sound.remembers.allow history.now
  | succeed =>
    rw [lastFailure?_cons_of_other (by nofun)]
    by_cases opened : history.breaker.state = .opened
    · rw [failuresInARow_cons_of_other (by simp [Entry.clears, opened]) (by nofun)]
      show history.breaker.succeed.Remembers _ _
      rw [succeed_of_opened opened]
      exact sound.remembers
    · rw [failuresInARow_cons_of_clears (by simp [Entry.clears, opened])]
      show history.breaker.succeed.Remembers _ _
      rw [succeed_of_not_opened opened]
      exact sound.remembers.reset
  | fail =>
    rw [failuresInARow_cons_of_failure rfl, lastFailure?_cons_of_failure rfl]
    exact sound.remembers.fail (sound.epoch ▸ sound.started) (sound.epoch ▸ early)
  | reset =>
    rw [failuresInARow_cons_of_clears rfl, lastFailure?_cons_of_other (by nofun)]
    exact sound.remembers.reset
  | wait length =>
    rw [failuresInARow_cons_of_other rfl (by nofun), lastFailure?_cons_of_other (by nofun)]
    exact sound.remembers

theorem Sound.step (sound : Sound settings start history)
    (early : history.now.nanos < start.nanos + UInt64.size) (signal : Signal) :
    Sound settings start (history.step signal) where
  settings := (apply_frame history.breaker history.now signal).1.trans sound.settings
  epoch := (apply_frame history.breaker history.now signal).2.trans sound.epoch
  remembers := sound.step_remembers early signal
  past entry member := by
    have later := history.now_le_step signal
    rcases List.mem_cons.mp member with rfl | member
    · exact later
    · exact Int.le_trans (sound.past entry member) later
  started := Int.le_trans sound.started (history.now_le_step signal)

theorem Sound.after (sound : Sound settings start history) {signals : List Signal}
    (early : (history.after signals).now.nanos < start.nanos + UInt64.size) :
    Sound settings start (history.after signals) := by
  induction signals generalizing history with
  | nil => exact sound
  | cons signal rest inductionHypothesis =>
    have sooner := Int.lt_of_le_of_lt (history.now_le_after (signal :: rest)) early
    exact inductionHypothesis (sound.step sooner signal) early

/-- Every failure that has come is in the history. -/
theorem countP_after (history : History) (signals : List Signal) :
    (history.after signals).entries.countP Entry.isFailure =
      history.entries.countP Entry.isFailure + signals.count .fail := by
  induction signals generalizing history with
  | nil => rfl
  | cons signal rest inductionHypothesis =>
    rw [show history.after (signal :: rest) = (history.step signal).after rest from rfl,
      inductionHypothesis, List.count_cons]
    show List.countP Entry.isFailure (_ :: history.entries) + _ = _
    rw [List.countP_cons]
    simp only [Entry.isFailure, decide_eq_true_eq, beq_iff_eq]
    omega

/-- The time of the latest failure has come. -/
theorem Sound.last_le_now (sound : Sound settings start history) {last : Instant}
    (found : lastFailure? history.entries = some last) : last.nanos ≤ history.now.nanos := by
  obtain ⟨entry, latest, rfl⟩ := Option.map_eq_some_iff.mp found
  exact sound.past entry (List.mem_of_find?_eq_some latest)

/-- Only letting a call through makes a circuit half open, and it is an open one that it does this
to. -/
theorem step_halfOpen (history : History) {signal : Signal}
    (before : history.breaker.state ≠ .halfOpen)
    (turned : (history.step signal).breaker.state = .halfOpen) :
    signal = .ask ∧ history.breaker.state = .opened := by
  replace turned : (signal.apply history.breaker history.now).state = .halfOpen := turned
  cases signal with
  | ask =>
    refine ⟨rfl, ?_⟩
    unfold Signal.apply allow at turned
    cases found : history.breaker.state with
    | opened => rfl
    | halfOpen => exact absurd found before
    | closed =>
      simp only [found] at turned
      cases turned
  | succeed =>
    unfold Signal.apply succeed at turned
    dsimp only at turned
    split at turned
    · exact absurd turned before
    · cases turned
  | fail =>
    replace turned : (if history.breaker.opensAt (history.breaker.failures + 1) then
      CircuitState.opened else history.breaker.state) = .halfOpen := turned
    split at turned
    · cases turned
    · exact absurd turned before
  | reset => cases turned
  | wait length => exact absurd turned before

/-- Whatever has come to a breaker, in less than the time that its clock can count and with fewer
failures than it can count: it counts the failures in a row; the circuit is closed exactly when they
are fewer than the threshold; a failure is said to open the circuit exactly when it does; an open
circuit takes no notice of a success, and lets a call through, turning half open, exactly when the
recovery time has passed since the latest failure; and nothing else makes it half open. -/
theorem circuit_follows_history (settings : BreakerSettings) (start : Instant)
    (signals : List Signal) (positive : 0 < settings.failureThreshold.toNat)
    (early : ((begin settings start).after signals).now.nanos < start.nanos + UInt64.size)
    (few : signals.count .fail < UInt64.size) :
    let history := (begin settings start).after signals
    let breaker := history.breaker
    breaker.failures.toNat = failuresInARow history.entries ∧
      (breaker.state = .closed ↔
        breaker.failures.toNat < settings.failureThreshold.toNat) ∧
      ((breaker.fail history.now).1 = true ↔
        breaker.state ≠ .opened ∧ (breaker.fail history.now).2.state = .opened) ∧
      (breaker.state = .opened → breaker.succeed = breaker ∧
        ∃ last, lastFailure? history.entries = some last ∧ last.nanos ≤ history.now.nanos ∧
          breaker.allow history.now =
            if history.now.nanos < last.nanos + settings.recovery.nanos then (false, breaker)
            else (true, { breaker with state := .halfOpen })) ∧
      ∀ signal, breaker.state ≠ .halfOpen → (history.step signal).breaker.state = .halfOpen →
        signal = .ask ∧ breaker.state = .opened := by
  intro history breaker
  have sound : Sound settings start history := (begin_sound positive start).after early
  have counted : failuresInARow history.entries < UInt64.size :=
    calc failuresInARow history.entries
      _ ≤ history.entries.countP Entry.isFailure := failuresInARow_le history.entries
      _ = signals.count .fail := (countP_after _ signals).trans (Nat.zero_add _)
      _ < UInt64.size := few
  have failures : breaker.failures.toNat = failuresInARow history.entries := by
    rw [sound.remembers.failures]
    exact UInt64.toNat_ofNat_of_lt counted
  refine ⟨failures, ?_, breaker.fail_fst_iff history.now, fun opened => ?_,
    fun signal before turned => history.step_halfOpen before turned⟩
  · rw [failures, ← sound.settings]
    exact sound.remembers.closed_iff
  · have shut : breaker.state ≠ .closed := by
      rw [opened]
      nofun
    obtain ⟨last, found⟩ := exists_lastFailure (sound.remembers.streak_ne_zero shut)
    have later := sound.last_le_now found
    have remembers := sound.remembers
    rw [found, Option.getD_some] at remembers
    refine ⟨succeed_of_opened opened, last, found, later, ?_⟩
    rw [← sound.settings]
    exact remembers.allow_of_opened opened later

/-- Two failures open the circuit of a breaker with a threshold of two. Five seconds later it still
lets nothing through. -/
theorem circuit_follows_two_failures :
    let signals : List Signal := [.fail, .fail, .wait (.ofSeconds 5)]
    let history := (begin ⟨2, 10⟩ ⟨0⟩).after signals
    (0 < (2 : UInt32).toNat ∧ history.now.nanos < 0 + UInt64.size ∧
        signals.count .fail < UInt64.size) ∧
      history.breaker.failures.toNat = 2 ∧ history.breaker.state = .opened ∧
      history.breaker.allow history.now = (false, history.breaker) := by
  intro signals history
  have given : 0 < (2 : UInt32).toNat ∧ history.now.nanos < 0 + UInt64.size ∧
      signals.count .fail < UInt64.size := by decide
  obtain ⟨counted, _, _, shut, _⟩ :=
    circuit_follows_history ⟨2, 10⟩ ⟨0⟩ signals given.1 given.2.1 given.2.2
  obtain ⟨_, last, latest, _, allowed⟩ := shut rfl
  have opened : last = ⟨0⟩ := (Option.some.inj latest).symm
  subst opened
  exact ⟨given, counted, rfl, allowed⟩

/-! ### Probes -/

/-- Somebody who asks now is let through. -/
def letsThrough (history : History) : Bool :=
  (history.breaker.allow history.now).1

/-- Until an outcome is noted a half open circuit stays as it is. -/
theorem step_of_halfOpen (probing : history.breaker.state = .halfOpen) {signal : Signal}
    (unsettled : signal.settles = false) : (history.step signal).breaker = history.breaker := by
  cases signal with
  | ask =>
    show (history.breaker.allow history.now).2 = history.breaker
    unfold allow
    rw [probing]
  | wait length => rfl
  | succeed | fail | reset => cases unsettled

theorem after_of_halfOpen (probing : history.breaker.state = .halfOpen) {signals : List Signal}
    (unsettled : ∀ signal ∈ signals, signal.settles = false) :
    (history.after signals).breaker = history.breaker := by
  induction signals generalizing history with
  | nil => rfl
  | cons signal rest inductionHypothesis =>
    have kept := step_of_halfOpen probing (unsettled signal List.mem_cons_self)
    refine (inductionHypothesis (kept.symm ▸ probing) fun other member => ?_).trans kept
    exact unsettled other (List.mem_cons_of_mem _ member)

/-- Everybody who asks before an outcome is noted is let through. -/
theorem letsThrough_of_halfOpen (probing : history.breaker.state = .halfOpen)
    {signals : List Signal} (unsettled : ∀ signal ∈ signals, signal.settles = false) :
    (history.after signals).letsThrough = true := by
  unfold letsThrough allow
  rw [after_of_halfOpen probing unsettled, probing]

/-- Once a call has turned an open circuit half open, whatever has come to the breaker before, no
other call is let through until an outcome is noted exactly when nobody asks for one until then. -/
theorem single_probe_iff (settings : BreakerSettings) (start : Instant)
    (signals later : List Signal) :
    let found := (begin settings start).after signals
    let probing := found.step .ask
    found.breaker.state = .opened → probing.breaker.state = .halfOpen →
      ((∀ waiting rest, later = waiting ++ .ask :: rest →
          (∀ signal ∈ waiting, signal.settles = false) →
          (probing.after waiting).letsThrough = false) ↔
        .ask ∉ later.takeWhile fun signal => !signal.settles) := by
  intro found probing _ turned
  constructor
  · intro alone asked
    obtain ⟨waiting, others, split⟩ := List.append_of_mem asked
    have unsettled : ∀ signal ∈ waiting, signal.settles = false := by
      intro signal member
      have taken : signal ∈ later.takeWhile fun signal => !signal.settles :=
        split ▸ List.mem_append_left _ member
      simpa using List.all_eq_true.mp List.all_takeWhile signal taken
    have whole : later = waiting ++ .ask :: (others ++
        later.dropWhile fun signal => !signal.settles) := by
      rw [← List.cons_append, ← List.append_assoc, ← split, List.takeWhile_append_dropWhile]
    have refused := alone waiting _ whole unsettled
    rw [letsThrough_of_halfOpen turned unsettled] at refused
    cases refused
  · rintro unasked waiting rest rfl unsettled
    refine absurd ?_ unasked
    rw [List.takeWhile_append_of_pos fun signal member => by simp [unsettled signal member]]
    exact List.mem_append_right _ List.mem_cons_self

/-- The outcome of the probe is noted before anybody else asks, and it was a failure. -/
theorem single_probe_of_failure :
    let found := (begin ⟨1, 10⟩ ⟨0⟩).after [.fail, .wait (.ofSeconds 10)]
    let probing := found.step .ask
    found.breaker.state = .opened ∧ found.letsThrough = true ∧
      probing.breaker.state = .halfOpen ∧
      ∀ waiting rest, [.fail, .ask] = waiting ++ .ask :: rest →
        (∀ signal ∈ waiting, signal.settles = false) →
        (probing.after waiting).letsThrough = false :=
  ⟨rfl, rfl, rfl, (single_probe_iff ⟨1, 10⟩ ⟨0⟩ [.fail, .wait (.ofSeconds 10)] [.fail, .ask]
    rfl rfl).mpr (by decide)⟩

/-- Two calls are let through, one behind the other, while the outcome of the first is unknown. -/
theorem second_caller_let_through :
    let found := (begin ⟨1, 10⟩ ⟨0⟩).after [.fail, .wait (.ofSeconds 10)]
    let probing := found.step .ask
    found.breaker.state = .opened ∧ found.letsThrough = true ∧
      probing.breaker.state = .halfOpen ∧ probing.letsThrough = true :=
  ⟨rfl, rfl, rfl, rfl⟩

end History

end Breaker

end Gatekeeper
