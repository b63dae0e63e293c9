/-
This file proves that the log of a gate and its counters say the same. The gate is used in any way,
over any stores and any verifier. Each counter that has events of its own has gone up by the number
of these events, and each circuit has been reported to open as often as it has opened.

How often a circuit has opened is not stored anywhere. It is read off the record of its breaker, on
a gate that is used in the same way, does the same, and logs the same.
-/
import Gatekeeper.Proofs.GateBooks
import Gatekeeper.Proofs.LeftAlone
import Gatekeeper.Proofs.Usage

namespace Gatekeeper

open Activity (Agrees)

variable {α ε δ κ ν : Type} {breaker : BreakerSettings} {start : Instant}

/-! ### Gates at which fingerprints are held -/

theorem Activity.Agrees.ignored {σ τ : Type} {related : σ → τ → Prop} {books : σ → Books}
    {first : Activity σ α} {second : Activity τ α} (agrees : Agrees related books first second) :
    Agrees related books first.ignored second.ignored :=
  agrees.attempt.bind fun _ => .pure _

namespace Holding

def books (holding : Holding (Chronicled δ) (Chronicled κ) ν) : Books :=
  holding.gate.books

variable (δ κ ν) in
/-- The gates differ as gates may, and the same is held at them. -/
structure Chronicles (breaker : BreakerSettings) (start : Instant)
    (first : Holding (Chronicled δ) (Chronicled κ) ν) (second : Holding δ κ ν) : Prop where
  gate : Gate.Chronicles δ κ ν breaker start first.gate second.gate
  held : first.held = second.held

theorem onGate_agrees {activity : Activity (Gate (Chronicled δ) (Chronicled κ) ν) α}
    {activity' : Activity (Gate δ κ ν) α}
    (agrees : Agrees (Gate.Chronicles δ κ ν breaker start) Gate.books activity activity') :
    Agrees (Chronicles δ κ ν breaker start) books (onGate activity) (onGate activity') := by
  intro first second given
  obtain ⟨sameResult, sameEvents, gate, booked⟩ := agrees given.gate
  exact ⟨sameResult, sameEvents, ⟨gate, given.held⟩, booked⟩

theorem onGate_ignored_agrees {activity : Activity (Gate (Chronicled δ) (Chronicled κ) ν) α}
    {activity' : Activity (Gate δ κ ν) α}
    (agrees : Agrees (Gate.Chronicles δ κ ν breaker start) Gate.books activity activity') :
    Agrees (Chronicles δ κ ν breaker start) books (onGate activity).ignored
      (onGate activity').ignored :=
  (onGate_agrees agrees).ignored

theorem change_held_agrees
    (update : KeyedStore String Fingerprint → KeyedStore String Fingerprint) :
    Agrees (Chronicles δ κ ν breaker start) books
      (.change fun holding => { holding with held := update holding.held })
      (.change fun holding => { holding with held := update holding.held }) :=
  Agrees.change fun _ _ given => ⟨⟨given.gate, congrArg update given.held⟩, rfl⟩

variable [DuplicateStore δ]

theorem releaseOld_agrees (old : Option Fingerprint) :
    Agrees (Chronicles δ κ ν breaker start) books (releaseOld old)
      (releaseOld old) := by
  cases old with
  | none => exact .pure _
  | some fingerprint =>
    exact onGate_agrees (Gate.onDuplicates_agrees fun now => Duplicates.release_agrees fingerprint)

theorem hold_agrees (name : String) (fingerprint : Fingerprint) :
    Agrees (Chronicles δ κ ν breaker start) books (hold name fingerprint)
      (hold name fingerprint) := by
  refine Agrees.bind (onGate_agrees (Gate.onDuplicates_agrees fun now =>
    Duplicates.hold_agrees fingerprint)) fun entered => ?_
  cases entered with
  | error rejection => exact .pure _
  | ok fingerprint =>
    refine Agrees.read fun first second given => ?_
    rw [given.held]
    exact (change_held_agrees fun held => held.insert name fingerprint).bind fun _ =>
      (releaseOld_agrees _).bind fun _ => .pure _

omit [DuplicateStore δ] in
theorem complete_agrees (name : String) :
    Agrees (Chronicles δ κ ν breaker start) books (complete name)
      (complete name) := by
  refine Agrees.read fun first second given => ?_
  rw [given.held]
  exact (change_held_agrees fun held => held.erase name).bind fun _ => .pure _

theorem drop_agrees (name : String) :
    Agrees (Chronicles δ κ ν breaker start) books (drop name) (drop name) := by
  refine Agrees.read fun first second given => ?_
  rw [given.held]
  exact (change_held_agrees fun held => held.erase name).bind fun _ =>
    (releaseOld_agrees _).bind fun _ => .pure _

variable [AttemptStore κ] [CaptchaVerifier ν] (replies : AttemptStore.Replies κ)
include replies

theorem runRequest_agrees (request : Request)
    {action : Activity (Holding (Chronicled δ) (Chronicled κ) ν) (Except ε α)}
    {action' : Activity (Holding δ κ ν) (Except ε α)}
    (agrees : Agrees (Chronicles δ κ ν breaker start) books action action') :
    Agrees (Chronicles δ κ ν breaker start) books (runRequest request action)
      (runRequest request action') := by
  refine (onGate_agrees (Gate.screen_agrees replies request)).bind fun screened => ?_
  cases screened with
  | ok pass =>
    exact agrees.attempt.bind fun ended => onGate_agrees (Gate.settle_agrees pass ended)
  | error rejection => exact .pure _

end Holding

/-! ### Any use of a gate -/

section Usage

variable [DuplicateStore δ] [AttemptStore κ] [CaptchaVerifier ν]
  (replies : AttemptStore.Replies κ)
include replies

open Holding (onGate_agrees onGate_ignored_agrees)
open Gate (onPermissions_agrees onDuplicates_agrees onChallenges_agrees)

theorem Use.perform_agrees (next : Use ν) :
    Agrees (Holding.Chronicles δ κ ν breaker start) Holding.books
      (next.perform Gate.waitChronicled) (next.perform Gate.wait) := by
  cases next with
  | evaluate query =>
    exact onGate_ignored_agrees (onPermissions_agrees (Permissions.evaluate_agrees query))
  | permits query =>
    exact onGate_ignored_agrees (onPermissions_agrees (Permissions.permits_agrees query))
  | permitsAll queries =>
    exact onGate_ignored_agrees (onPermissions_agrees (Permissions.permitsAll_agrees queries))
  | authorize query =>
    exact onGate_ignored_agrees (onPermissions_agrees (Permissions.authorize_agrees query))
  | enter fingerprint =>
    exact onGate_ignored_agrees (onDuplicates_agrees fun now => Duplicates.enter_agrees fingerprint)
  | hold name fingerprint => exact (Holding.hold_agrees name fingerprint).ignored
  | complete name => exact (Holding.complete_agrees name).ignored
  | drop name => exact (Holding.drop_agrees name).ignored
  | release fingerprint =>
    exact onGate_ignored_agrees (onDuplicates_agrees fun now =>
      Duplicates.release_agrees fingerprint)
  | purgeDuplicates =>
    exact onGate_ignored_agrees (onDuplicates_agrees fun now => Duplicates.purge_agrees)
  | attempts key =>
    exact onGate_ignored_agrees (onChallenges_agrees fun now => Challenges.attempts_agrees key)
  | level key =>
    exact onGate_ignored_agrees (onChallenges_agrees fun now => Challenges.level_agrees key)
  | record key =>
    exact onGate_ignored_agrees (onChallenges_agrees fun now => Challenges.record_agrees key)
  | verify key token =>
    exact onGate_ignored_agrees (onChallenges_agrees fun now =>
      Challenges.verify_agrees replies key token)
  | check key token =>
    exact onGate_ignored_agrees (onChallenges_agrees fun now =>
      Challenges.check_agrees replies key token)
  | purgeAttempts =>
    exact onGate_ignored_agrees (onChallenges_agrees fun now => Challenges.purge_agrees)
  | purgeTokens =>
    exact onGate_ignored_agrees (onChallenges_agrees fun now => Challenges.purgeTokens_agrees)
  | sweep =>
    exact onGate_ignored_agrees Gate.sweep_agrees
  | passTask task length =>
    exact onGate_ignored_agrees (Gate.passTask_agrees task length)
  | shutDownTask task =>
    exact onGate_ignored_agrees (Gate.shutDownTask_agrees task)
  | issue user kind change =>
    exact onGate_agrees ((Gate.mapVerifier_agrees change).bind fun _ => .log ⟨rfl, rfl⟩)
  | alterVerifier change => exact onGate_agrees (Gate.mapVerifier_agrees change)
  | wait length =>
    exact onGate_ignored_agrees (Gate.waitChronicled_agrees length)

/-- However a gate is used, it agrees with its log. The induction is on the usage; the action of a
request is a usage of its own. -/
theorem Usage.perform_agrees (usage : Usage ν ε α) :
    Agrees (Holding.Chronicles δ κ ν breaker start) Holding.books
      (usage.perform Gate.waitChronicled) (usage.perform Gate.wait) := by
  induction usage with
  | done ending =>
    cases ending with
    | ok value => exact .pure _
    | error fault => exact .fault _
  | use next rest restAgrees => exact (next.perform_agrees replies).bind fun _ => restAgrees
  | run request action rest actionAgrees restAgrees =>
    exact (Holding.runRequest_agrees replies request actionAgrees).ignored.bind fun _ => restAgrees

end Usage

/-! ### What the log says -/

/-- How many events of a log have this level and one of these messages. -/
def logged (level : LogLevel) (messages : List String) (events : List Event) : Nat :=
  events.countP fun event => event.level = level ∧ event.message ∈ messages

namespace Counter

/-- Where the metrics keep a counter. -/
def value (metrics : Metrics) : Counter → UInt64
  | storeFailures => metrics.storeFailures
  | configurationMissing => metrics.configurationMissing
  | attemptsRecorded => metrics.attemptsRecorded
  | released => metrics.released
  | challengesFailed => metrics.challengesFailed
  | challengesPassed => metrics.challengesPassed

/-- The level of the events that stand for one more in a counter. -/
def level : Counter → LogLevel
  | storeFailures | configurationMissing => .warn
  | attemptsRecorded | released | challengesFailed | challengesPassed => .debug

/-- The messages of these events. -/
def messages : Counter → List String
  | storeFailures => ["duplicate store failed", "challenge store failed",
      "captcha verifier failed, treating as not passed"]
  | configurationMissing => ["no permission rule configured, denying"]
  | attemptsRecorded => ["challenge attempt recorded"]
  | released => ["fingerprint released"]
  | challengesFailed => ["captcha verification failed"]
  | challengesPassed => ["captcha verification passed, counter reset"]

theorem value_add (first second : Metrics) (counter : Counter) :
    counter.value (first + second) = counter.value first + counter.value second := by
  cases counter <;> rfl

theorem value_ofPermissions (tally : PermissionTally) (counter : Counter) :
    counter.value (.ofPermissions tally) = tally.books.counters counter := by
  cases counter <;> rfl

theorem value_ofDuplicates (tally : DuplicateTally) (refusals : UInt64) (counter : Counter) :
    counter.value (.ofDuplicates tally refusals) =
      (if counter = storeFailures then refusals else 0) + tally.books.counters counter := by
  cases counter <;> simp [value, Metrics.ofDuplicates, Metrics.zero, DuplicateTally.books]

theorem value_ofChallenges (tally : ChallengeTally) (refusals : UInt64) (counter : Counter) :
    counter.value (.ofChallenges tally refusals) =
      (if counter = storeFailures then refusals else 0) + tally.books.counters counter := by
  cases counter <;> simp [value, Metrics.ofChallenges, Metrics.zero, ChallengeTally.books]

end Counter

/-- The message of an opening. -/
def StoreRole.openingMessage : StoreRole → String
  | duplicates => "duplicate store circuit opened"
  | challenges => "challenge store circuit opened"

namespace Event

theorem counter?_eq_some_iff (event : Event) (counter : Counter) :
    event.counter? = some counter ↔
      event.level = counter.level ∧ event.message ∈ counter.messages := by
  cases event with
  | storeSkipped call subject | storeFailed call subject error policy =>
    cases subject <;> cases counter <;>
      simp [counter?, level, message, StoreSubject.role, StoreRole.label, toString, Counter.level,
        Counter.messages]
  | circuitOpened role =>
    cases role <;> cases counter <;>
      simp [counter?, level, message, StoreRole.label, toString, Counter.level, Counter.messages]
  | _ => cases counter <;> simp [counter?, level, message, Counter.level, Counter.messages]

theorem opening?_eq_some_iff (event : Event) (role : StoreRole) :
    event.opening? = some role ↔ event.level = .warn ∧ event.message ∈ [role.openingMessage] := by
  cases event with
  | storeSkipped call subject | storeFailed call subject error policy =>
    cases subject <;> cases role <;>
      simp [opening?, level, message, StoreSubject.role, StoreRole.label, toString,
        StoreRole.openingMessage]
  | circuitOpened opened =>
    cases opened <;> cases role <;>
      simp [opening?, level, message, StoreRole.label, toString, StoreRole.openingMessage]
  | _ => cases role <;> simp [opening?, level, message, StoreRole.openingMessage]

end Event

theorem entries_eq_logged (events : List Event) (counter : Counter) :
    Books.entries events counter = logged counter.level counter.messages events :=
  List.countP_congr fun event _ => by
    simpa only [decide_eq_true_eq] using event.counter?_eq_some_iff counter

theorem openingsIn_eq_logged (events : List Event) (role : StoreRole) :
    Books.openingsIn events role = logged .warn [role.openingMessage] events :=
  List.countP_congr fun event _ => by
    simpa only [decide_eq_true_eq] using event.opening?_eq_some_iff role

namespace Gate

/-- What is logged while a gate is built is in no books. -/
theorem build_unbooked {config : Config} {settings : Option BreakerSettings} {now : Instant}
    {duplicateStore : δ} {attemptStore : κ} {verifier : ν} {gate : Gate δ κ ν}
    {building : List Event}
    (built : build config settings now duplicateStore attemptStore verifier =
      (.ok gate, building)) :
    gate = assemble config (settings.getD config.breaker) true now duplicateStore attemptStore
        verifier ∧
      ∀ event ∈ building, event.Unbooked := by
  unfold build Config.validate at built
  dsimp only at built
  generalize Config.missingRules _ = missing at built
  split at built
  · cases built
  · next events checked =>
    cases built
    refine ⟨rfl, fun event logged => ?_⟩
    split at checked
    · cases checked
    · obtain rfl := (Prod.mk.inj checked).2
      rcases List.mem_append.mp logged with warned | announced
      · split at warned
        · cases warned
        · obtain rfl := List.mem_singleton.mp warned
          exact ⟨rfl, rfl⟩
      · obtain rfl := List.mem_singleton.mp announced
        exact ⟨rfl, rfl⟩

/-! ### The log and the metrics -/

/-- The gate with a new record beside each store. -/
def chronicled (gate : Gate δ κ ν) : Gate (Chronicled δ) (Chronicled κ) ν where
  now := gate.now
  permissions := gate.permissions
  duplicates := ⟨gate.duplicates.settings,
    ⟨⟨gate.duplicates.guarded.store, .begin gate.duplicates.guarded.breaker.settings gate.now⟩,
      gate.duplicates.guarded.breaker, gate.duplicates.guarded.refusals⟩, gate.duplicates.tally⟩
  challenges := ⟨gate.challenges.settings,
    ⟨⟨gate.challenges.guarded.store, .begin gate.challenges.guarded.breaker.settings gate.now⟩,
      gate.challenges.guarded.breaker, gate.challenges.guarded.refusals⟩,
    gate.challenges.verifier, gate.challenges.tally⟩
  sharesMetrics := gate.sharesMetrics

/-- The record of one of the two breakers. -/
def history (gate : Gate (Chronicled δ) (Chronicled κ) ν) : StoreRole → Breaker.History
  | .duplicates => gate.duplicates.guarded.store.history
  | .challenges => gate.challenges.guarded.store.history

theorem openings_books (gate : Gate (Chronicled δ) (Chronicled κ) ν) (role : StoreRole) :
    gate.books.openings role = (gate.history role).openings := by
  cases role with
  | duplicates => exact Nat.zero_add gate.duplicates.guarded.store.history.openings
  | challenges =>
    show 0 + (0 + gate.challenges.guarded.store.history.openings) = _
    rw [Nat.zero_add, Nat.zero_add]
    rfl

/-- The metrics are what is in the books. -/
theorem Chronicles.value_metrics {first : Gate (Chronicled δ) (Chronicled κ) ν}
    {second : Gate δ κ ν} (given : Chronicles δ κ ν breaker start first second)
    (counter : Counter) : counter.value second.metrics = first.books.counters counter := by
  have duplicateRefusals : first.duplicates.guarded.refusals = second.duplicates.guarded.refusals :=
    congrArg GuardedStore.refusals given.duplicates.guarded.plain
  have attemptRefusals : first.challenges.guarded.refusals = second.challenges.guarded.refusals :=
    congrArg GuardedStore.refusals given.challenges.guarded.plain
  have booked : first.books.counters counter =
      counter.value (.ofPermissions second.permissions.tally) +
        (counter.value second.duplicates.metrics + counter.value second.challenges.metrics) := by
    rw [Duplicates.metrics, Challenges.metrics, Counter.value_ofPermissions,
      Counter.value_ofDuplicates, Counter.value_ofChallenges, ← duplicateRefusals,
      ← attemptRefusals, ← given.permissions.tally trivial, ← given.duplicates.tally trivial,
      ← given.challenges.tally trivial]
    rfl
  rw [booked, metrics, ← given.sharesMetrics, given.shares, if_pos rfl, Counter.value_add,
    Counter.value_add, UInt64.add_assoc, UInt64.add_comm (counter.value second.challenges.metrics)]

/-- A new gate has nothing in its books. -/
theorem chronicles_assemble (config : Config) (settings : BreakerSettings) (now : Instant)
    (duplicateStore : δ) (attemptStore : κ) (verifier : ν) :
    let gate := assemble config settings true now duplicateStore attemptStore verifier
    Chronicles δ κ ν settings now gate.chronicled gate ∧
      (∀ counter, gate.chronicled.books.counters counter = 0) ∧
      ∀ role, gate.chronicled.books.openings role = 0 := by
  refine ⟨⟨⟨rfl, ⟨rfl, fun _ => rfl⟩, ⟨rfl, ⟨rfl, rfl, rfl, [], rfl⟩, fun _ => rfl⟩,
    ⟨rfl, ⟨rfl, rfl, rfl, [], rfl⟩, rfl, fun _ => rfl⟩, rfl⟩, rfl⟩, ?_, ?_⟩
  · intro counter
    cases counter <;> rfl
  · intro role
    cases role <;> rfl

end Gate

/-- What is logged and in no books is not counted. -/
theorem logged_append_of_unbooked {building : List Event}
    (unbooked : ∀ event ∈ building, event.Unbooked) (events : List Event) :
    (∀ counter : Counter, logged counter.level counter.messages (building ++ events) =
        Books.entries events counter) ∧
      ∀ role : StoreRole, logged .warn [role.openingMessage] (building ++ events) =
        Books.openingsIn events role := by
  refine ⟨fun counter => ?_, fun role => ?_⟩
  · rw [← entries_eq_logged, Books.entries, List.countP_append, List.countP_eq_zero.mpr,
      Nat.zero_add]
    · rfl
    · intro event member
      simp [(unbooked event member).1]
  · rw [← openingsIn_eq_logged, Books.openingsIn, List.countP_append, List.countP_eq_zero.mpr,
      Nat.zero_add]
    · rfl
    · intro event member
      simp [(unbooked event member).2]

/-- The log and the metrics agree. A gate is built and then used in any way, over stores and a
verifier that do as they like, except that clearing a counter does not fault. Each of the counters
that the log accounts for is the number of its events, and a circuit is logged to have opened as
often as its breaker has moved into the open state: that is read off the breaker's history on a gate
that differs in nothing else. -/
theorem log_agrees_with_metrics [DuplicateStore δ] [AttemptStore κ] [CaptchaVerifier ν]
    (replies : AttemptStore.Replies κ) (config : Config) (settings : Option BreakerSettings)
    (now : Instant) (duplicateStore : δ) (attemptStore : κ) (verifier : ν) {gate : Gate δ κ ν}
    {building : List Event}
    (built : Gate.build config settings now duplicateStore attemptStore verifier =
      (.ok gate, building))
    (usage : Usage ν ε α) :
    let outcome := (usage.perform Gate.wait).run ⟨gate, .empty⟩
    let recorded := (usage.perform Gate.waitChronicled).run ⟨gate.chronicled, .empty⟩
    let log := building ++ outcome.events
    (∀ counter : Counter, counter.value outcome.state.gate.metrics =
        UInt64.ofNat (logged counter.level counter.messages log)) ∧
      (recorded.result = outcome.result ∧ recorded.events = outcome.events ∧
        Holding.Chronicles δ κ ν (settings.getD config.breaker) now recorded.state
          outcome.state) ∧
      ∀ role : StoreRole, logged .warn [role.openingMessage] log =
        (recorded.state.gate.history role).openings := by
  intro outcome recorded log
  obtain ⟨rfl, unbooked⟩ := Gate.build_unbooked built
  obtain ⟨start, noCounts, noOpenings⟩ := Gate.chronicles_assemble config
    (settings.getD config.breaker) now duplicateStore attemptStore verifier
  have begun : Holding.Chronicles δ κ ν _ _ ⟨_, .empty⟩ ⟨_, .empty⟩ := ⟨start, rfl⟩
  obtain ⟨sameResult, (sameEvents : recorded.events = outcome.events), after, booked⟩ :=
    usage.perform_agrees replies begun
  obtain ⟨entries, openings⟩ := logged_append_of_unbooked unbooked outcome.events
  refine ⟨fun counter => ?_, ⟨sameResult, sameEvents, after⟩, fun role => ?_⟩
  · calc counter.value outcome.state.gate.metrics
      _ = recorded.state.gate.books.counters counter := after.gate.value_metrics counter
      _ = 0 + UInt64.ofNat (Books.entries recorded.events counter) :=
        noCounts counter ▸ booked.counters counter
      _ = UInt64.ofNat (Books.entries outcome.events counter) := by
        rw [UInt64.zero_add, sameEvents]
      _ = UInt64.ofNat (logged counter.level counter.messages log) := by rw [entries]
  · calc logged .warn [role.openingMessage] log
      _ = Books.openingsIn recorded.events role := by rw [openings, sameEvents]
      _ = 0 + Books.openingsIn recorded.events role := (Nat.zero_add _).symm
      _ = recorded.state.gate.books.openings role :=
        (noOpenings role ▸ booked.openings role).symm
      _ = (recorded.state.gate.history role).openings := recorded.state.gate.openings_books role

/-- A release is refused, which is enough to open the circuit, and an attempt is recorded. The log
has one warning of a store that failed, one of a circuit that opened, and one attempt. -/
theorem log_agrees_with_metrics_refused :
    let desk : CaptchaDesk := .ofLife (.ofSeconds 300) CaptchaDesk.scramble
    let gate : Gate Scripted Scripted CaptchaDesk :=
      .assemble .standard ⟨1, 10⟩ true ⟨0⟩ ⟨[false]⟩ ⟨[true]⟩ desk
    let usage : Usage CaptchaDesk Unit Unit :=
      .use (.release ⟨List.replicate 32 7, rfl⟩)
        (.use (.record ⟨"ada", .question⟩) (.done (.ok (.ok ()))))
    let metrics := ((usage.perform Gate.wait).run ⟨gate, .empty⟩).state.gate.metrics
    let recorded := (usage.perform Gate.waitChronicled).run ⟨gate.chronicled, .empty⟩
    metrics.storeFailures = 1 ∧ metrics.attemptsRecorded = 1 ∧
      (recorded.state.gate.history .duplicates).openings = 1 := by
  intro desk gate usage metrics recorded
  have built : Gate.build .standard (some ⟨1, 10⟩) ⟨0⟩ ⟨[false]⟩ ⟨[true]⟩ desk =
      (.ok gate, (Gate.build .standard (some ⟨1, 10⟩) ⟨0⟩ (⟨[false]⟩ : Scripted)
        (⟨[true]⟩ : Scripted) desk).2) := rfl
  obtain ⟨counted, -, opened⟩ := log_agrees_with_metrics Scripted.attemptReplies.toReplies .standard
    (some ⟨1, 10⟩) ⟨0⟩ (⟨[false]⟩ : Scripted) ⟨[true]⟩ desk built usage
  refine ⟨(counted .storeFailures).trans ?_, (counted .attemptsRecorded).trans ?_,
    (opened .duplicates).symm.trans ?_⟩
  · decide +kernel
  · decide +kernel
  · decide +kernel

end Gatekeeper
