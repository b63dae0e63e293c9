/-
This file proves that a threshold limits what can be done without a captcha. Requests visit a gate
one after the other, time passes before and during each, and what an observer of one counter writes
down is which of them were carried out, which had a captcha passed, and in which counting window
their attempts fell. In no window are there more actions without a passed captcha than the
threshold, and the store never counts beyond it either.

The argument is a chain: a request that goes on without a captcha has found fewer attempts than the
threshold, its own attempt is counted behind all of them, and whatever it finds is either still the
same window when it is counted or gone for good.
-/
import Gatekeeper.Proofs.Footprint
import Gatekeeper.Proofs.Mediation

namespace Gatekeeper

variable {δ ν α ε : Type}

/-! ### Visits -/

/-- A request that comes after a pause, and an action that takes some time. -/
structure Visit (ε α : Type) where
  pause : Duration
  request : Request
  delay : Duration
  ending : Except ε α

namespace Visit

variable (visit : Visit ε α)

/-- The gate when the request comes. -/
def arrive (gate : Gate δ AttemptRecords ν) : Gate δ AttemptRecords ν :=
  ((Gate.wait visit.pause).run gate).state

def action : Activity (Gate δ AttemptRecords ν) (Except ε α) := do
  Gate.wait visit.delay
  return visit.ending

theorem action_unmarked : (visit.action : Activity (Gate δ AttemptRecords ν) _).Unmarked := by
  intro gate
  unfold action
  rw [Activity.run_bind, Gate.run_wait]
  cases gate.now.after? visit.delay <;> exact fun _ => ⟨rfl, rfl⟩

/-- The action changes the time only. -/
theorem state_action (gate : Gate δ AttemptRecords ν) :
    ∃ now, (visit.action.run gate).state = { gate with now := now } ∧
      gate.now.nanos ≤ now.nanos := by
  obtain ⟨now, waited, later⟩ := Gate.state_wait visit.delay gate
  refine ⟨now, ?_, later⟩
  rw [← waited]
  unfold action
  rw [Activity.run_bind]
  split <;> rfl

end Visit

/-! ### What an observer writes down -/

/-- The counting windows of one counter, as they can be told from outside: how many have been
opened, and when the last one closes if it has not been cleared. -/
structure Watch where
  opened : Nat
  closes : Option Instant

namespace Watch

/-- A passed captcha clears the window. -/
def cleared (watch : Watch) : Watch :=
  { watch with closes := none }

/-- An attempt falls into the open window, or opens the next one. -/
def recorded (watch : Watch) (now : Instant) (length : Duration) : Watch :=
  if watch.closes.any fun closes => now.nanos < closes.nanos then watch
  else ⟨watch.opened + 1, now.after? length⟩

theorem recorded_of_open {watch : Watch} {now closes : Instant} (length : Duration)
    (closing : watch.closes = some closes) (within : now.nanos < closes.nanos) :
    watch.recorded now length = watch := by
  rw [recorded, closing, if_pos (by simpa using within)]

theorem recorded_of_closed {watch : Watch} {now : Instant} (length : Duration)
    (closed : ∀ closes, watch.closes = some closes → closes.nanos ≤ now.nanos) :
    watch.recorded now length = ⟨watch.opened + 1, now.after? length⟩ := by
  rw [recorded, if_neg]
  intro within
  cases closing : watch.closes with
  | none =>
    rw [closing] at within
    cases within
  | some closes =>
    rw [closing] at within
    have before := of_decide_eq_true within
    have after := closed closes closing
    omega

/-- What is seen of a visit that ends now. -/
def see (watch : Watch) (passed recorded : Bool) (now : Instant) (length : Duration) : Watch :=
  let watch := if passed then watch.cleared else watch
  if recorded then watch.recorded now length else watch

end Watch

/-- What is written down about a visit. -/
structure Entry where
  /-- The request is challenged for the counter that is observed. -/
  concerned : Bool
  executed : Bool
  passed : Bool
  /-- The number of the window that its attempt has been counted in. -/
  window : Option Nat

namespace Entry

/-- An action that was carried out without a passed captcha, and counted in this window. -/
def isFreeIn (number : Nat) (entry : Entry) : Bool :=
  entry.executed && !entry.passed && entry.window == some number

end Entry

/-- A gate, and what has been observed of one counter. -/
structure Diary (δ ν : Type) where
  gate : Gate δ AttemptRecords ν
  watch : Watch
  entries : List Entry

namespace Gate

/-- The request is challenged for this key. -/
def concerns (gate : Gate δ AttemptRecords ν) (request : Request) (key : ChallengeKey) : Bool :=
  gate.challengedKind request = some key.kind && request.actor.id = key.user

end Gate

namespace Diary

variable [DuplicateStore δ] [CaptchaVerifier ν]

/-- A diary that is begun at a gate. -/
def begin (gate : Gate δ AttemptRecords ν) : Diary δ ν :=
  ⟨gate, ⟨0, none⟩, []⟩

/-- A visit, and what is written down about it. -/
def note (key : ChallengeKey) (diary : Diary δ ν) (visit : Visit ε α) : Diary δ ν :=
  let gate := visit.arrive diary.gate
  let outcome := (Gate.runRequest visit.request visit.action).run gate
  let counted := (Gate.runRequest visit.request (Gate.counting visit.action)).run (gate.counted 0)
  let passed := Event.hasPass key outcome.events
  let recorded := Event.hasRecord key outcome.events
  let watch := diary.watch.see passed recorded outcome.state.now
    (gate.challenges.limit key.kind).window
  { gate := outcome.state
    watch := watch
    entries :=
      { concerned := gate.concerns visit.request key
        executed := counted.state.executions = 1
        passed := passed
        window := if recorded then some watch.opened else none } :: diary.entries }

/-- Visits one after the other. -/
def after (key : ChallengeKey) (diary : Diary δ ν) (visits : List (Visit ε α)) : Diary δ ν :=
  visits.foldl (note key) diary

end Diary

/-! ### One counter -/

/-- What a visit may do to a counter: nothing but drop its elapsed window; or clear it by a passed
captcha; or count an attempt. Whoever goes on without a captcha has found fewer attempts than the
threshold. -/
inductive Effect (threshold : UInt32) (length : Duration) (arrived left : Instant)
    (before : Option AttemptWindow) : Entry → Option AttemptWindow → Prop where
  | spared {concerned executed : Bool} {after : Option AttemptWindow}
      (kept : after = before ∨ after = AttemptWindow.live? before arrived)
      (free : concerned = true → executed = true → threshold ≠ 0) :
      Effect threshold length arrived left before ⟨concerned, executed, false, none⟩ after
  | cleared {concerned executed : Bool} :
      Effect threshold length arrived left before ⟨concerned, executed, true, none⟩ none
  | counted {concerned passed : Bool} {number : Nat} {window : AttemptWindow}
      (free : passed = false → threshold ≠ 0 ∧
        ∀ found, AttemptWindow.live? before arrived = some found → found.attempts < threshold)
      (next : AttemptWindow.next? (if passed then none else AttemptWindow.live? before left) left
        length = some window) :
      Effect threshold length arrived left before ⟨concerned, true, passed, some number⟩
        (some window)

/-- What screening a request may do to a counter: clear it by a passed captcha, or nothing but drop
its elapsed window. If a request that is challenged for the counter is let through without a
captcha, fewer attempts than the threshold have been found. -/
inductive Checked (threshold : UInt32) (arrived : Instant) (before : Option AttemptWindow)
    (through : Prop) : Bool → Option AttemptWindow → Prop where
  | cleared : Checked threshold arrived before through true none
  | kept {after : Option AttemptWindow}
      (kept : after = before ∨ after = AttemptWindow.live? before arrived)
      (free : through → threshold ≠ 0 ∧
        ∀ found, AttemptWindow.live? before arrived = some found → found.attempts < threshold) :
      Checked threshold arrived before through false after

namespace Checked

variable {threshold : UInt32} {length : Duration} {arrived left : Instant}
  {before after : Option AttemptWindow} {through : Prop} {concerned executed passed : Bool}

/-- Screening does not count, so a window that is there afterwards was there before. -/
theorem found {window : AttemptWindow}
    (checked : Checked threshold arrived before through passed (some window)) :
    before = some window := by
  cases checked with
  | kept kept _ =>
    rcases kept with same | pruned
    · exact same.symm
    · exact (AttemptWindow.live?_eq_some_iff.mp pruned.symm).1

/-- A visit whose attempt is not counted does to the counter what screening it has done. -/
theorem uncounted (checked : Checked threshold arrived before through passed after)
    (lets : concerned = true → executed = true → through) :
    Effect threshold length arrived left before ⟨concerned, executed, passed, none⟩ after := by
  cases checked with
  | cleared => exact .cleared
  | kept kept free => exact .spared kept fun asked ran => (free (lets asked ran)).1

/-- What has elapsed by the time of the check is gone when the attempt is counted. -/
theorem live?_of_kept (leaves : arrived.nanos ≤ left.nanos)
    (kept : after = before ∨ after = AttemptWindow.live? before arrived) :
    AttemptWindow.live? after left = AttemptWindow.live? before left := by
  rcases kept with same | pruned
  · rw [same]
  · rw [pruned, AttemptWindow.live?_live? before leaves]

theorem counted (checked : Checked threshold arrived before through passed after)
    (leaves : arrived.nanos ≤ left.nanos) (lets : through) {number : Nat} {window : AttemptWindow}
    (next : AttemptWindow.next? (AttemptWindow.live? after left) left length = some window) :
    Effect threshold length arrived left before ⟨concerned, true, passed, some number⟩
      (some window) := by
  cases checked with
  | cleared => exact .counted nofun next
  | kept kept free =>
    rw [live?_of_kept leaves kept] at next
    exact .counted (fun _ => free lets) next

end Checked

/-- What holds of a counter and of what has been written down about it. -/
structure Tracks (threshold : UInt32) (now : Instant) (stored : Option AttemptWindow)
    (watch : Watch) (entries : List Entry) : Prop where
  absent : stored = none → ∀ closes, watch.closes = some closes → closes.nanos ≤ now.nanos
  closes : ∀ window, stored = some window → watch.closes = some window.expiresAt
  limited : ∀ window, stored = some window → window.attempts.toNat ≤ max threshold.toNat 1
  counted : ∀ window, stored = some window →
    entries.countP (Entry.isFreeIn watch.opened) ≤ window.attempts.toNat
  numbered : ∀ entry ∈ entries, ∀ number, entry.window = some number → number ≤ watch.opened
  bounded : ∀ number, entries.countP (Entry.isFreeIn number) ≤ threshold.toNat
  passed : threshold = 0 → ∀ entry ∈ entries, entry.concerned = true → entry.executed = true →
    entry.passed = true

namespace Tracks

variable {threshold : UInt32} {length : Duration} {now arrived left : Instant}
  {stored after : Option AttemptWindow} {watch : Watch} {entries : List Entry} {entry : Entry}

/-- No attempt has fallen into a window that has not been opened yet. -/
theorem countP_next (tracks : Tracks threshold now stored watch entries) :
    entries.countP (Entry.isFreeIn (watch.opened + 1)) = 0 := by
  refine List.countP_eq_zero.mpr fun entry member free => ?_
  simp only [Entry.isFreeIn, Bool.and_eq_true, beq_iff_eq] at free
  have bound := tracks.numbered entry member _ free.2
  omega

/-- Nothing more counts as free, whatever else is written down. -/
theorem countP_cons_of_not_free (number : Nat) (blocked : entry.isFreeIn number = false) :
    (entry :: entries).countP (Entry.isFreeIn number) =
      entries.countP (Entry.isFreeIn number) :=
  List.countP_cons_of_neg (by simp [blocked])

theorem spared (tracks : Tracks threshold now stored watch entries)
    (arrives : now.nanos ≤ arrived.nanos) (leaves : arrived.nanos ≤ left.nanos)
    {concerned executed : Bool}
    (kept : after = stored ∨ after = AttemptWindow.live? stored arrived)
    (free : concerned = true → executed = true → threshold ≠ 0) :
    Tracks threshold left after watch (⟨concerned, executed, false, none⟩ :: entries) := by
  have still : ∀ window, after = some window → stored = some window := by
    intro window found
    rcases kept with same | pruned
    · exact same.symm.trans found
    · exact (AttemptWindow.live?_eq_some_iff.mp (pruned.symm.trans found)).1
  have unfree : ∀ number, Entry.isFreeIn number ⟨concerned, executed, false, none⟩ = false := by
    intro number
    simp [Entry.isFreeIn]
  refine ⟨fun none closes closing => ?_, fun window found => tracks.closes window (still _ found),
    fun window found => tracks.limited window (still _ found), fun window found => ?_,
    List.forall_mem_cons.mpr ⟨fun _ => nofun, tracks.numbered⟩, fun number => ?_,
    fun zero => List.forall_mem_cons.mpr
      ⟨fun asked ran => absurd zero (free asked ran), tracks.passed zero⟩⟩
  · cases before : stored with
    | none =>
      have closed := tracks.absent before closes closing
      omega
    | some window =>
      rcases kept with same | pruned
      · rw [same, before] at none
        cases none
      · have elapsed := AttemptWindow.live?_eq_none_iff.mp (pruned.symm.trans none) window before
        rw [tracks.closes window before] at closing
        cases closing
        omega
  · rw [countP_cons_of_not_free _ (unfree _)]
    exact tracks.counted window (still _ found)
  · rw [countP_cons_of_not_free _ (unfree _)]
    exact tracks.bounded number

theorem cleared (tracks : Tracks threshold now stored watch entries) (left : Instant)
    (concerned executed : Bool) :
    Tracks threshold left none watch.cleared (⟨concerned, executed, true, none⟩ :: entries) := by
  have unfree : ∀ number, Entry.isFreeIn number ⟨concerned, executed, true, none⟩ = false := by
    intro number
    simp [Entry.isFreeIn]
  refine ⟨fun _ _ => nofun, nofun, nofun, nofun,
    List.forall_mem_cons.mpr ⟨fun _ => nofun, tracks.numbered⟩, fun number => ?_,
    fun zero => List.forall_mem_cons.mpr ⟨fun _ _ => rfl, tracks.passed zero⟩⟩
  rw [countP_cons_of_not_free _ (unfree _)]
  exact tracks.bounded number

/-- A free attempt that falls into the open window is counted behind fewer than the threshold. -/
theorem counted_again (tracks : Tracks threshold now stored watch entries) (left : Instant)
    {concerned : Bool} {window : AttemptWindow} (found : stored = some window)
    (below : window.attempts < threshold) :
    Tracks threshold left (some window.count) watch
      (⟨concerned, true, false, some watch.opened⟩ :: entries) := by
  have more : window.count.attempts.toNat = window.attempts.toNat + 1 :=
    toNat_saturatingSucc_of_lt below
  have less := UInt32.lt_iff_toNat_lt.mp below
  have before := tracks.counted window found
  have here : ∀ number,
      (⟨concerned, true, false, some watch.opened⟩ :: entries).countP (Entry.isFreeIn number) =
        entries.countP (Entry.isFreeIn number) + if watch.opened = number then 1 else 0 := by
    intro number
    rw [List.countP_cons]
    simp [Entry.isFreeIn]
  have last : ∀ number, some watch.opened = some number → number ≤ watch.opened :=
    fun _ same => Nat.le_of_eq (Option.some.inj same).symm
  refine ⟨nofun, fun other same => ?_, fun other same => ?_, fun other same => ?_,
    List.forall_mem_cons.mpr ⟨last, tracks.numbered⟩, fun number => ?_, fun zero => ?_⟩
  · cases same
    exact tracks.closes window found
  · cases same
    omega
  · cases same
    rw [here, if_pos rfl]
    omega
  · rw [here]
    by_cases same : watch.opened = number
    · rw [if_pos same, ← same]
      omega
    · rw [if_neg same]
      exact tracks.bounded number
  · rw [zero] at less
    exact absurd less (Nat.not_lt_zero _)

/-- An attempt that opens a window is the first in it. -/
theorem counted_anew (tracks : Tracks threshold now stored watch entries) (left : Instant)
    {concerned passed : Bool} {expiresAt : Instant}
    (free : passed = false → threshold ≠ 0) :
    Tracks threshold left (some ⟨1, expiresAt⟩) ⟨watch.opened + 1, some expiresAt⟩
      (⟨concerned, true, passed, some (watch.opened + 1)⟩ :: entries) := by
  have none := tracks.countP_next
  have here : ∀ number,
      (⟨concerned, true, passed, some (watch.opened + 1)⟩ :: entries).countP
          (Entry.isFreeIn number) =
        entries.countP (Entry.isFreeIn number) +
          if passed = false ∧ watch.opened + 1 = number then 1 else 0 := by
    intro number
    rw [List.countP_cons]
    cases passed <;> simp [Entry.isFreeIn]
  have last : ∀ number, some (watch.opened + 1) = some number → number ≤ watch.opened + 1 :=
    fun _ same => Nat.le_of_eq (Option.some.inj same).symm
  refine ⟨nofun, fun other same => ?_, fun other same => ?_, fun other same => ?_,
    List.forall_mem_cons.mpr ⟨last, fun entry earlier number same =>
      Nat.le_succ_of_le (tracks.numbered entry earlier number same)⟩,
    fun number => ?_, fun zero => List.forall_mem_cons.mpr ⟨fun _ _ => ?_, tracks.passed zero⟩⟩
  · cases same
    rfl
  · cases same
    exact Nat.le_max_right _ _
  · cases same
    rw [here, none]
    split <;> exact Nat.le_of_ble_eq_true rfl
  · rw [here]
    split
    · next fresh =>
      have some := free fresh.1
      have positive : threshold.toNat ≠ 0 := fun zero => some (UInt32.toNat_inj.mp zero)
      rw [← fresh.2, none]
      omega
    · exact tracks.bounded number
  · cases passed with
    | true => rfl
    | false => exact absurd zero (free rfl)

/-- Whatever a visit does to the counter, what has been written down about it keeps track. -/
theorem step (tracks : Tracks threshold now stored watch entries)
    (arrives : now.nanos ≤ arrived.nanos) (leaves : arrived.nanos ≤ left.nanos)
    (effect : Effect threshold length arrived left stored entry after)
    (numbered : ∀ number, entry.window = some number →
      number = (watch.see entry.passed true left length).opened) :
    Tracks threshold left after (watch.see entry.passed entry.window.isSome left length)
      (entry :: entries) := by
  cases effect with
  | spared kept free => exact tracks.spared arrives leaves kept free
  | cleared => exact tracks.cleared left _ _
  | @counted concerned passed number window free next =>
    rw [numbered number rfl]
    cases passed with
    | true =>
      obtain ⟨expiresAt, within, rfl⟩ := AttemptWindow.next?_none_eq_some_iff.mp next
      have opens : watch.cleared.recorded left length = ⟨watch.opened + 1, some expiresAt⟩ := by
        rw [Watch.recorded_of_closed length (fun _ closing => by cases closing), within]
        rfl
      show Tracks threshold left _ (watch.cleared.recorded left length)
        (⟨concerned, true, true, some (watch.cleared.recorded left length).opened⟩ :: entries)
      rw [opens]
      exact tracks.counted_anew left nofun
    | false =>
      show Tracks threshold left _ (watch.recorded left length)
        (⟨concerned, true, false, some (watch.recorded left length).opened⟩ :: entries)
      cases live : AttemptWindow.live? stored left with
      | some found =>
        obtain ⟨before, within⟩ := AttemptWindow.live?_eq_some_iff.mp live
        have earlier := AttemptWindow.live?_eq_some_iff.mpr
          ⟨before, Int.lt_of_le_of_lt leaves within⟩
        rw [if_neg nofun, live] at next
        cases next
        rw [Watch.recorded_of_open length (tracks.closes found before) within]
        exact tracks.counted_again left before ((free rfl).2 found earlier)
      | none =>
        rw [if_neg nofun, live] at next
        obtain ⟨expiresAt, within, rfl⟩ := AttemptWindow.next?_none_eq_some_iff.mp next
        have opens : watch.recorded left length = ⟨watch.opened + 1, some expiresAt⟩ := by
          rw [Watch.recorded_of_closed length, within]
          intro closes closing
          cases before : stored with
          | none =>
            have closed := tracks.absent before closes closing
            omega
          | some window =>
            rw [tracks.closes window before] at closing
            cases closing
            exact AttemptWindow.live?_eq_none_iff.mp live window before
        rw [opens]
        exact tracks.counted_anew left fun _ => (free rfl).1

end Tracks

/-! ### A visit, as the counter sees it -/

namespace Gate

variable [DuplicateStore δ] [CaptchaVerifier ν]

omit [DuplicateStore δ] [CaptchaVerifier ν] in
theorem concerns_of_key {gate : Gate δ AttemptRecords ν} {request : Request} {kind : ActionKind}
    (challenged : gate.challengedKind request = some kind) (key : ChallengeKey) :
    gate.concerns request key = true ↔ (⟨request.actor.id, kind⟩ : ChallengeKey) = key := by
  obtain ⟨user, other⟩ := key
  unfold concerns
  rw [challenged]
  simp only [Bool.and_eq_true, decide_eq_true_eq, Option.some.injEq, ChallengeKey.mk.injEq]
  exact and_comm

omit [DuplicateStore δ] [CaptchaVerifier ν] in
/-- The check of a challenge concerns one counter, and leaves the others as they are. -/
theorem checked_of_challenged {gate : Gate δ AttemptRecords ν} {request : Request}
    {kind : ActionKind} (challenged : gate.challengedKind request = some kind) (key : ChallengeKey)
    {events : List Event} {records : AttemptRecords} {granted : Prop}
    (checked :
      let own : ChallengeKey := ⟨request.actor.id, kind⟩
      let threshold := (gate.challenges.limit kind).threshold
      let before := gate.challenges.guarded.store
      Challenges.Passed own before events records ∨
        Challenges.Unpassed gate.now own before events records ∧
          (granted → threshold ≠ 0 ∧ before.countAt own gate.now < threshold)) :
    Checked (gate.challenges.limit key.kind).threshold gate.now
      (gate.challenges.guarded.store.get? key) (gate.concerns request key = true ∧ granted)
      (Event.hasPass key events) (records.get? key) := by
  by_cases own : (⟨request.actor.id, kind⟩ : ChallengeKey) = key
  · subst own
    rcases checked with passed | ⟨unpassed, free⟩
    · rw [passed.passes, decide_eq_true rfl, passed.own]
      exact .cleared
    · rw [(unpassed.unmarked _).1]
      refine .kept unpassed.own fun ⟨_, through⟩ => ?_
      obtain ⟨some, below⟩ := free through
      refine ⟨some, fun found live => ?_⟩
      unfold AttemptRecords.countAt AttemptRecords.live? at below
      rw [live] at below
      exact below
  · have spared : Event.hasPass key events = false ∧
        records.get? key = gate.challenges.guarded.store.get? key := by
      rcases checked with passed | ⟨unpassed, _⟩
      · exact ⟨by rw [passed.passes, decide_eq_false (Ne.symm own)],
          passed.others key (Ne.symm own)⟩
      · exact ⟨(unpassed.unmarked key).1, unpassed.others key (Ne.symm own)⟩
    rw [spared.1]
    refine .kept (.inl spared.2) fun ⟨asked, _⟩ => ?_
    exact absurd ((concerns_of_key challenged key).mp asked) own

/-- What screening a request does to one counter. -/
theorem screen_counter (request : Request) (key : ChallengeKey) {gate : Gate δ AttemptRecords ν}
    (idle : gate.challenges.guarded.breaker.Idle) :
    let outcome := (screen request).run gate
    outcome.state.now = gate.now ∧ ∃ records verifier tally,
      outcome.state.challenges = gate.challenges.changed records verifier tally ∧
      Event.hasRecord key outcome.events = false ∧
      Checked (gate.challenges.limit key.kind).threshold gate.now
        (gate.challenges.guarded.store.get? key)
        (gate.concerns request key = true ∧ ∃ pass, outcome.result = .ok (.ok pass))
        (Event.hasPass key outcome.events) (records.get? key) ∧
      ∀ pass kind, outcome.result = .ok (.ok pass) → pass.counted = some kind →
        (⟨pass.user, kind⟩ : ChallengeKey) = key → gate.concerns request key = true := by
  dsimp only
  obtain ⟨now, records, verifier, tally, screened, checked⟩ := screen_cases idle request
  refine ⟨now, records, verifier, tally, screened, ?_⟩
  rcases checked with ⟨same, unmarked, unchallenged⟩ | ⟨kind, challenged, owed, checked⟩
  · rw [(unmarked key).1, (unmarked key).2, same]
    refine ⟨rfl, .kept (.inl rfl) fun ⟨asked, pass, granted⟩ => ?_, ?_⟩
    · unfold concerns at asked
      rw [(unchallenged pass granted).1] at asked
      cases asked
    · intro pass kind granted counted
      rw [(unchallenged pass granted).2] at counted
      cases counted
  · refine ⟨?_, checked_of_challenged challenged key ?_, ?_⟩
    · rcases checked with passed | ⟨unpassed, _⟩
      · exact passed.records key
      · exact (unpassed.unmarked key).2
    · exact checked.imp id fun ⟨unpassed, free⟩ => ⟨unpassed, fun ⟨pass, granted⟩ =>
        free pass granted⟩
    · intro pass other granted counted named
      obtain ⟨user, kinds⟩ := owed pass granted
      rw [counted] at kinds
      cases kinds
      rw [user] at named
      exact (concerns_of_key challenged key).mpr named

omit [CaptchaVerifier ν] in
/-- What settling a request does to one counter: it counts its attempt, or leaves the counter. -/
theorem settle_counter (pass : Pass) (ended : Except Fault (Except ε α)) (key : ChallengeKey)
    {gate : Gate δ AttemptRecords ν} (idle : gate.challenges.guarded.breaker.Idle) :
    let before := gate.challenges.guarded.store.get? key
    let outcome := (settle pass ended).run gate
    outcome.state.now = gate.now ∧ Event.hasPass key outcome.events = false ∧
      ∃ records verifier tally,
      outcome.state.challenges = gate.challenges.changed records verifier tally ∧
      (Event.hasRecord key outcome.events = false ∧ records.get? key = before ∨
        Event.hasRecord key outcome.events = true ∧ ∃ kind window,
          pass.counted = some kind ∧ (⟨pass.user, kind⟩ : ChallengeKey) = key ∧
          records.get? key = some window ∧
          AttemptWindow.next? (AttemptWindow.live? before gate.now) gate.now
            (gate.challenges.limit key.kind).window = some window) := by
  dsimp only
  obtain ⟨now, ⟨same, unmarked⟩ | ⟨kind, window, tally, counted, recorded, written, marked⟩⟩ :=
    settle_cases idle pass ended
  · exact ⟨now, (unmarked key).1, _, _, _, same, .inl ⟨(unmarked key).2, rfl⟩⟩
  · refine ⟨now, (marked key).1, _, _, _, written, ?_⟩
    rw [AttemptRecords.recorded?_eq] at recorded
    by_cases own : (⟨pass.user, kind⟩ : ChallengeKey) = key
    · subst own
      refine .inr ⟨?_, kind, window, counted, rfl, ?_, recorded⟩
      · rw [(marked _).2, decide_eq_true rfl]
      · rw [KeyedStore.get?_insert_self]
    · refine .inl ⟨?_, ?_⟩
      · rw [(marked _).2, decide_eq_false own]
      · rw [KeyedStore.get?_insert_of_ne _ _ (Ne.symm own)]

/-- A visit keeps the breaker and the settings, and does to each counter what a visit may do. -/
theorem visit_effect (visit : Visit ε α) (key : ChallengeKey) (number : Nat)
    {gate : Gate δ AttemptRecords ν} (idle : gate.challenges.guarded.breaker.Idle) :
    let outcome := (runRequest visit.request visit.action).run gate
    let counted := (runRequest visit.request (counting visit.action)).run (gate.counted 0)
    let limit := gate.challenges.limit key.kind
    gate.now.nanos ≤ outcome.state.now.nanos ∧ ∃ records verifier tally,
      outcome.state.challenges = gate.challenges.changed records verifier tally ∧
        Effect limit.threshold limit.window gate.now outcome.state.now
          (gate.challenges.guarded.store.get? key)
          { concerned := gate.concerns visit.request key
            executed := counted.state.executions = 1
            passed := Event.hasPass key outcome.events
            window := if Event.hasRecord key outcome.events then some number else none }
          (records.get? key) := by
  dsimp only
  have executed := executions_eq_one_iff visit.request visit.action gate
  obtain ⟨now, records, verifier, tally, screened, unrecorded, checked, owed⟩ :=
    screen_counter visit.request key idle
  rcases runRequest_shows visit.request visit.action_unmarked gate with
    ⟨fails, state, events⟩ | ⟨pass, granted, state, marks⟩
  · rw [state, events, now, unrecorded]
    refine ⟨Int.le_refl _, records, verifier, tally, screened, ?_⟩
    have stopped : ¬ ∃ pass, ((screen visit.request).run gate).result = .ok (.ok pass) :=
      fun ⟨pass, granted⟩ => fails pass granted
    rw [decide_eq_false (mt executed.mp stopped)]
    exact checked.uncounted fun _ => nofun
  · obtain ⟨later, acted, leaves⟩ := visit.state_action ((screen visit.request).run gate).state
    rw [now] at leaves
    have moved : (visit.action.run ((screen visit.request).run gate).state).state.now = later := by
      rw [acted]
    have untouched : (visit.action.run ((screen visit.request).run gate).state).state.challenges =
        gate.challenges.changed records verifier tally := by
      rw [acted]
      exact screened
    generalize (visit.action.run ((screen visit.request).run gate).state).state = ended at *
    have stillIdle : ended.challenges.guarded.breaker.Idle := by
      rw [untouched]
      exact idle
    obtain ⟨same, unpassed, settled, verifier', tally', written, counted⟩ := settle_counter pass
      (visit.action.run ((screen visit.request).run gate).state).result key stillIdle
    rw [untouched] at written counted
    rw [moved] at same counted
    rw [(marks key).1, (marks key).2, unpassed, unrecorded, Bool.or_false, Bool.false_or, state,
      same, decide_eq_true (executed.mpr ⟨pass, granted⟩)]
    refine ⟨leaves, settled, verifier', tally', written, ?_⟩
    rcases counted with ⟨uncounted, kept⟩ | ⟨recorded, kind, window, owes, named, found, next⟩
    · rw [uncounted, kept]
      exact checked.uncounted fun asked _ => ⟨asked, pass, granted⟩
    · rw [recorded, found]
      exact checked.counted leaves ⟨owed pass kind granted owes named, pass, granted⟩ next

end Gate

/-! ### All visits -/

namespace Diary

variable [DuplicateStore δ] [CaptchaVerifier ν]

/-- The breaker and the limit are as they were, and the counter is kept track of. -/
structure Sound (key : ChallengeKey) (limit : ChallengeLimit) (diary : Diary δ ν) : Prop where
  idle : diary.gate.challenges.guarded.breaker.Idle
  fixed : diary.gate.challenges.limit key.kind = limit
  tracks : Tracks limit.threshold diary.gate.now (diary.gate.challenges.guarded.store.get? key)
    diary.watch diary.entries

theorem note_sound {key : ChallengeKey} {limit : ChallengeLimit} {diary : Diary δ ν}
    (sound : Sound key limit diary) (visit : Visit ε α) :
    Sound key limit (diary.note key visit) := by
  obtain ⟨now, waited, arrives⟩ := Gate.state_wait visit.pause diary.gate
  have arrived : visit.arrive diary.gate = { diary.gate with now := now } := waited
  have idle : (visit.arrive diary.gate).challenges.guarded.breaker.Idle := by
    rw [arrived]
    exact sound.idle
  have unchanged : (visit.arrive diary.gate).challenges.limit key.kind = limit := by
    rw [arrived]
    exact sound.fixed
  have tracks : Tracks limit.threshold diary.gate.now
      ((visit.arrive diary.gate).challenges.guarded.store.get? key) diary.watch diary.entries := by
    rw [arrived]
    exact sound.tracks
  have later : diary.gate.now.nanos ≤ (visit.arrive diary.gate).now.nanos := by
    rw [arrived]
    exact arrives
  unfold note
  generalize visit.arrive diary.gate = gate at idle unchanged tracks later
  dsimp only
  obtain ⟨leaves, records, verifier, tally, written, effect⟩ := Gate.visit_effect visit key
    (diary.watch.see (Event.hasPass key ((Gate.runRequest visit.request visit.action).run
      gate).events) true ((Gate.runRequest visit.request visit.action).run gate).state.now
        limit.window).opened idle
  generalize (Gate.runRequest visit.request visit.action).run gate = outcome at *
  rw [unchanged] at effect ⊢
  refine ⟨by rw [written]; exact idle, by rw [written]; exact unchanged, ?_⟩
  have followed := tracks.step later leaves effect
  rw [written]
  cases recorded : Event.hasRecord key outcome.events with
  | false =>
    rw [recorded] at followed
    exact followed nofun
  | true =>
    rw [recorded] at followed
    exact followed fun number same => (Option.some.inj same).symm

theorem after_sound {key : ChallengeKey} {limit : ChallengeLimit} {diary : Diary δ ν}
    (sound : Sound key limit diary) (visits : List (Visit ε α)) :
    Sound key limit (diary.after key visits) := by
  induction visits generalizing diary with
  | nil => exact sound
  | cons visit rest inductionHypothesis => exact inductionHypothesis (note_sound sound visit)

omit [DuplicateStore δ] [CaptchaVerifier ν] in
theorem begin_sound (config : Config) (breaker : BreakerSettings) (sharesMetrics : Bool)
    (now : Instant) (duplicates : δ) (verifier : ν) (key : ChallengeKey) :
    Sound key (config.challenge.limit key.kind)
      (begin (.assemble config breaker sharesMetrics now duplicates .empty verifier)) where
  idle := Breaker.idle_ofSettings breaker now
  fixed := rfl
  tracks := ⟨fun _ _ => nofun, nofun, nofun, nofun, nofun, fun _ => Nat.zero_le _, nofun⟩

/-- Whatever visits a gate whose counters start out empty, and whatever the other stores say: no
window of a counter ever holds more attempts than the threshold, or one if that is zero, neither
between two visits nor while the action of a further one is being carried out; and in no window are
there more actions without a passed captcha than the threshold. With a threshold of zero every
action has had its captcha passed. -/
theorem attempts_limited (config : Config) (breaker : BreakerSettings) (sharesMetrics : Bool)
    (now : Instant) (duplicates : δ) (verifier : ν) (key : ChallengeKey)
    (visits : List (Visit ε α)) :
    let threshold := (config.challenge.limit key.kind).threshold
    let start := Gate.assemble config breaker sharesMetrics now duplicates .empty verifier
    let diary := (begin start).after key visits
    (∀ window, diary.gate.challenges.guarded.store.get? key = some window →
        window.attempts.toNat ≤ max threshold.toNat 1) ∧
      (∀ (further : Visit ε α) window,
        ((Gate.screen further.request).run
          (further.arrive diary.gate)).state.challenges.guarded.store.get? key = some window →
        window.attempts.toNat ≤ max threshold.toNat 1) ∧
      (∀ number, diary.entries.countP (Entry.isFreeIn number) ≤ threshold.toNat) ∧
      (threshold = 0 → ∀ entry ∈ diary.entries, entry.concerned = true → entry.executed = true →
        entry.passed = true) := by
  intro threshold start diary
  have sound : Sound key (config.challenge.limit key.kind) diary := after_sound
    (begin_sound config breaker sharesMetrics now duplicates verifier key) visits
  refine ⟨sound.tracks.limited, fun further window found => ?_, sound.tracks.bounded,
    sound.tracks.passed⟩
  obtain ⟨now, waited, arrives⟩ := Gate.state_wait further.pause diary.gate
  have arrived : further.arrive diary.gate = { diary.gate with now := now } := waited
  rw [arrived] at found
  have idle : ({ diary.gate with now := now } : Gate δ _ ν).challenges.guarded.breaker.Idle :=
    sound.idle
  obtain ⟨_, records, verifier, tally, screened, _, checked, _⟩ := Gate.screen_counter
    further.request key idle
  rw [screened] at found
  replace found : records.get? key = some window := found
  rw [found] at checked
  exact sound.tracks.limited window checked.found

end Diary

end Gatekeeper
