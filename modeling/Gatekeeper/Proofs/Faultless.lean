/-
This file says which configurations a gate can go by without ever faulting. What can fault in memory
is the computation of an expiry, and that happens deep inside a store: when a request is entered,
when an attempt is counted, which is after the action of the request has been carried out, and when
a captcha is issued. Validation only turns away lengths of zero, so a valid configuration may still
have a window or a life that leads beyond the last instant there is.

A gate never faults, whatever is demanded of it and whenever, exactly when the windows and the life
in its configuration fit behind the latest time its clock shows. A window for duplicates always
does, since it is counted in milliseconds.
-/
import Gatekeeper.Proofs.Mediation
import Gatekeeper.Proofs.Upkeep

namespace Gatekeeper

variable {σ τ α β ε : Type}

/-! ### Activities that end -/

namespace Activity

/-- A fault is not gone on from. -/
theorem result_bind_of_error {activity : Activity σ α} {next : α → Activity σ β} {state : σ}
    {fault : Fault} (ended : (activity.run state).result = .error fault) :
    ((activity >>= next).run state).result = .error fault := by
  rw [run_bind_of_error ended]

/-- Started in a state with the invariant, the activity ends with a result and leaves a state with
it. -/
def Steady (invariant : σ → Prop) (activity : Activity σ α) : Prop :=
  ∀ ⦃state : σ⦄, invariant state →
    ∃ value, (activity.run state).result = .ok value ∧ invariant (activity.run state).state

namespace Steady

variable {invariant : σ → Prop}

theorem pure (value : α) : Steady invariant (pure value) :=
  fun _ start => ⟨value, rfl, start⟩

theorem log (event : Event) : Steady invariant (log event) :=
  fun _ start => ⟨(), rfl, start⟩

theorem change {update : σ → σ} (keeps : ∀ ⦃state⦄, invariant state → invariant (update state)) :
    Steady invariant (change update) :=
  fun _ start => ⟨(), rfl, keeps start⟩

theorem bind {activity : Activity σ α} {next : α → Activity σ β}
    (steady : Steady invariant activity) (afterwards : ∀ value, Steady invariant (next value)) :
    Steady invariant (activity >>= next) := by
  intro state start
  obtain ⟨value, ended, between⟩ := steady start
  rw [run_bind_of_ok ended]
  exact afterwards value between

/-- What is read of a state has the invariant. -/
theorem read {next : σ → Activity σ β}
    (afterwards : ∀ ⦃state⦄, invariant state → Steady invariant (next state)) :
    Steady invariant (state >>= next) :=
  fun _ start => afterwards start start

/-- An attempt at a steady activity is a success, and only that has to be gone on with. -/
theorem attempt_bind {activity : Activity σ α} {next : Except Fault α → Activity σ β}
    (steady : Steady invariant activity)
    (afterwards : ∀ value, Steady invariant (next (.ok value))) :
    Steady invariant (activity.attempt >>= next) := by
  intro state start
  obtain ⟨value, ended, between⟩ := steady start
  have attempted : (activity.attempt.run state).result = .ok (.ok value) :=
    congrArg Except.ok ended
  rw [run_bind_of_ok attempted]
  exact afterwards value between

/-- An activity on a part is steady when the invariant gives one of the part and comes back from it
once the part has changed. -/
theorem on {inner : τ → Prop} {part : σ → τ} {replace : τ → σ → σ} {activity : Activity τ α}
    (toPart : ∀ ⦃state⦄, invariant state → inner (part state))
    (ofPart : ∀ ⦃state value⦄, invariant state → inner value → invariant (replace value state))
    (steady : Steady inner activity) : Steady invariant (activity.on part replace) := by
  intro state start
  obtain ⟨value, ended, after⟩ := steady (toPart start)
  exact ⟨value, ended, ofPart start after⟩

end Steady

end Activity

open Activity (Steady)

/-! ### Expiries that fit -/

namespace Instant

def ofSeconds (seconds : Nat) : Instant :=
  ⟨(Duration.ofSeconds seconds).nanos⟩

/-- The earliest time that a clock shows. -/
def earliest : Instant := ofSeconds 1000000

/-- The latest time that a clock shows. -/
def latest : Instant := ofSeconds 10000000000

/-- A time that a clock shows. -/
def Shown (now : Instant) : Prop :=
  earliest ≤ now ∧ now ≤ latest

theorem latest_shown : latest.Shown := by
  unfold Shown
  decide

end Instant

/-- The duration leads to an instant that can be represented, even from the latest time. -/
def Duration.Fits (length : Duration) : Prop :=
  Instant.latest.nanos + length.nanos < Instant.horizon

instance (length : Duration) : Decidable length.Fits :=
  inferInstanceAs (Decidable (_ < _))

/-- A duration that fits behind the latest time fits behind every time that a clock shows. -/
theorem Instant.Shown.after? {now : Instant} (shown : now.Shown) {length : Duration}
    (fits : length.Fits) : ∃ later, now.after? length = some later := by
  rw [← Option.isSome_iff_exists, ← Option.ne_none_iff_isSome, ne_eq, Instant.after?_eq_none_iff]
  have inTime : now.nanos ≤ latest.nanos := shown.2
  unfold Duration.Fits at fits
  omega

theorem Instant.latest_after?_eq_none {length : Duration} (beyond : ¬ length.Fits) :
    Instant.latest.after? length = none := by
  rw [Instant.after?_eq_none_iff]
  unfold Duration.Fits at beyond
  omega

/-- A window counted in milliseconds fits. -/
theorem DuplicateSettings.window_fits (settings : DuplicateSettings) : settings.window.Fits := by
  have small := settings.windowMillis.toNat_lt
  simp only [Duration.Fits, window, Duration.ofMillis, Instant.latest, Instant.ofSeconds,
    Duration.ofSeconds, Duration.nanosPerSecond, Instant.horizon]
  omega

/-- The windows that attempts are counted in, and the life of a captcha, fit. -/
structure ChallengeSettings.Fit (settings : ChallengeSettings) : Prop where
  window : ∀ kind, (settings.limit kind).window.Fits
  life : settings.tokenLife.Fits

/-! ### What the stores in memory answer -/

namespace DuplicateRecords

variable {now : Instant} {window : Duration}

theorem remove_ne_fault (records : DuplicateRecords) (fingerprint : Fingerprint) (fault : Fault) :
    (DuplicateStore.remove records fingerprint).1 ≠ .fault fault := by
  intro faulted
  cases faulted

theorem tryInsert_ne_fault (shown : now.Shown) (fits : window.Fits) (records : DuplicateRecords)
    (fingerprint : Fingerprint) (fault : Fault) :
    (DuplicateStore.tryInsert records fingerprint now window).1 ≠ .fault fault := by
  obtain ⟨later, within⟩ := shown.after? fits
  show (records.tryInsert fingerprint now window).1 ≠ .fault fault
  unfold tryInsert
  rw [within]
  split <;> nofun

end DuplicateRecords

namespace AttemptRecords

variable {now : Instant} {length : Duration}

/-- A window that is live takes one more attempt; otherwise a new one opens. -/
theorem increment_ne_fault (shown : now.Shown) (fits : length.Fits) (records : AttemptRecords)
    (key : ChallengeKey) (fault : Fault) :
    (AttemptStore.increment records key now length).1 ≠ .fault fault := by
  obtain ⟨later, within⟩ := shown.after? fits
  have counted : ∃ window, records.recorded? key now length = some window := by
    rw [recorded?_eq]
    cases records.live? key now with
    | none => exact ⟨_, AttemptWindow.next?_none_eq_some_iff.mpr ⟨later, within, rfl⟩⟩
    | some window => exact ⟨_, rfl⟩
  obtain ⟨window, counted⟩ := counted
  show (records.increment key now length).1 ≠ .fault fault
  rw [increment, counted]
  intro faulted
  cases faulted

end AttemptRecords

/-- A question that its store never faults at is answered, or not. -/
theorem GuardedStore.ask_steady (now : Instant) (policy : FailurePolicy) (call : StoreCall)
    (subject : StoreSubject) {question : σ → Reply α × σ}
    (sound : ∀ store fault, (question store).1 ≠ .fault fault) :
    Steady (fun _ => True) (ask now policy call subject question) := by
  intro guarded _
  have never := fun fault =>
    ask_ne_error now policy call subject question guarded fault (sound _ fault)
  cases ended : ((ask now policy call subject question).run guarded).result with
  | ok answer => exact ⟨answer, rfl, trivial⟩
  | error fault => exact absurd ended (never fault)

/-! ### Parts -/

namespace Duplicates

variable {now : Instant} {settings : DuplicateSettings}

/-- The part goes by these settings, whatever it has in its store. -/
def GoesBy (settings : DuplicateSettings) (duplicates : Duplicates DuplicateRecords) : Prop :=
  duplicates.settings = settings

theorem ask_steady (call : StoreCall) (fingerprint : Fingerprint)
    {question : DuplicateRecords → Reply α × DuplicateRecords}
    (sound : ∀ store fault, (question store).1 ≠ .fault fault) :
    Steady (GoesBy settings) (ask now call fingerprint question) :=
  .read fun _ _ => .on (fun _ _ => trivial) (fun _ _ start _ => start)
    (GuardedStore.ask_steady now _ call _ sound)

theorem count_steady (update : DuplicateTally → DuplicateTally) :
    Steady (GoesBy settings) (count update) :=
  .change fun _ start => start

theorem hold_steady (shown : now.Shown) (fingerprint : Fingerprint) :
    Steady (GoesBy settings) (hold now fingerprint) := by
  refine .bind (fun duplicates start => ?_) fun admission => ?_
  · have sound : ∀ store fault, (entry now fingerprint duplicates store).1 ≠ .fault fault :=
      fun store => DuplicateRecords.tryInsert_ne_fault shown duplicates.settings.window_fits store
        fingerprint
    obtain ⟨answer, ended, after⟩ := ask_steady .tryInsert fingerprint sound start
    rw [run_enter]
    dsimp only
    rw [ended]
    exact ⟨_, rfl, after⟩
  · cases admission <;> exact .pure _

theorem release_steady (fingerprint : Fingerprint) :
    Steady (GoesBy settings) (release now fingerprint) := by
  refine Steady.bind (ask_steady _ fingerprint (DuplicateRecords.remove_ne_fault · fingerprint))
    fun answer => ?_
  cases answer with
  | some answer => exact (count_steady _).bind fun _ => .log _
  | none => exact .pure _

end Duplicates

namespace Challenges

variable {now : Instant} {settings : ChallengeSettings}

/-- The part goes by these settings, whatever it has in its stores. -/
structure GoesBy (settings : ChallengeSettings)
    (challenges : Challenges AttemptRecords CaptchaDesk) : Prop where
  followed : challenges.settings = settings
  life : challenges.verifier.life = settings.tokenLife

theorem ask_steady (call : StoreCall) (key : ChallengeKey)
    {question : AttemptRecords → Reply α × AttemptRecords}
    (sound : ∀ store fault, (question store).1 ≠ .fault fault) :
    Steady (GoesBy settings) (ask now call key question) :=
  .read fun _ _ => .on (fun _ _ => trivial) (fun _ _ start _ => ⟨start.followed, start.life⟩)
    (GuardedStore.ask_steady now _ call _ sound)

theorem count_steady (update : ChallengeTally → ChallengeTally) :
    Steady (GoesBy settings) (count update) :=
  .change fun _ start => ⟨start.followed, start.life⟩

theorem level_steady (key : ChallengeKey) : Steady (GoesBy settings) (level now key) := by
  refine .read fun challenges _ => ?_
  dsimp only
  split
  · exact .pure _
  · refine (ask_steady _ key (AttemptRecords.replies.attempts · key now)).bind fun answer => ?_
    cases answer with
    | some attempts => exact .pure _
    | none => cases challenges.settings.onStoreError <;> exact .pure _

/-- Counting an attempt ends where its window fits. -/
theorem record_steady (shown : now.Shown) (key : ChallengeKey)
    (fits : (settings.limit key.kind).window.Fits) :
    Steady (GoesBy settings) (record now key) := by
  refine .read fun challenges start => ?_
  have sound : ∀ store fault, (AttemptStore.increment store key now
      (challenges.limit key.kind).window : Reply UInt32 × AttemptRecords).1 ≠ .fault fault := by
    rw [limit, start.followed]
    exact fun store => AttemptRecords.increment_ne_fault shown fits store key
  refine (ask_steady .increment key sound).bind fun answer => ?_
  cases answer with
  | some attempts => exact (count_steady _).bind fun _ => (Steady.log _).bind fun _ => .pure _
  | none => exact .pure _

/-- A desk answers, whatever it is asked, and its captchas live as long as before. -/
theorem consult_steady (key : ChallengeKey) (token : CaptchaToken) :
    Steady (GoesBy settings) (consult now key token) :=
  fun _ start => ⟨_, rfl, start.followed, start.life⟩

theorem verify_steady (key : ChallengeKey) (token : CaptchaToken) :
    Steady (GoesBy settings) (verify now key token) := by
  refine (consult_steady key token).bind fun passed => ?_
  split
  · refine (count_steady _).bind fun _ => ?_
    refine (ask_steady _ key (AttemptRecords.replies.clear · key)).bind fun _ => ?_
    exact (Steady.log _).bind fun _ => .pure _
  · exact (count_steady _).bind fun _ => (Steady.log _).bind fun _ => .pure _

theorem check_steady (key : ChallengeKey) (token : Option CaptchaToken) :
    Steady (GoesBy settings) (check now key token) := by
  refine (level_steady key).bind fun level => ?_
  split
  · cases token with
    | none => exact (count_steady _).bind fun _ => .pure _
    | some given =>
      refine (verify_steady key given).bind fun verification => ?_
      cases verification <;> exact .pure _
  · exact .pure _

end Challenges

/-! ### Gates -/

namespace Gate

variable {config : Config}

/-- The clock of the gate shows a time that clocks show, and the gate goes by this configuration,
whatever its stores hold, whatever it has counted and whatever its breakers are in. -/
structure GoesBy (config : Config) (gate : MemoryGate) : Prop where
  shown : gate.now.Shown
  duplicates : gate.duplicates.GoesBy config.duplicate
  challenges : gate.challenges.GoesBy config.challenge

theorem build_goesBy {start : Instant} (shown : start.Shown) {salt : UInt64 → UInt64}
    {gate : MemoryGate}
    (built : (build config none start .empty .empty
      (CaptchaDesk.ofLife config.challenge.tokenLife salt)).1 = .ok gate) :
    gate.GoesBy config := by
  unfold build at built
  dsimp only at built
  split at built
  · cases built
  · cases built
    exact ⟨shown, rfl, rfl, rfl⟩

theorem onPermissions_steady {activity : Activity Permissions α}
    (steady : Steady (fun _ => True) activity) :
    Steady (GoesBy config) (onPermissions activity) :=
  .on (fun _ _ => trivial) (fun _ _ start _ => ⟨start.shown, start.duplicates, start.challenges⟩)
    steady

theorem onDuplicates_steady {activity : Instant → Activity (Duplicates DuplicateRecords) α}
    (steady : ∀ now, now.Shown → Steady (Duplicates.GoesBy config.duplicate) (activity now)) :
    Steady (GoesBy config) (onDuplicates activity) :=
  .read fun _ start => .on (fun _ given => given.duplicates)
    (fun _ _ given after => ⟨given.shown, after, given.challenges⟩) (steady _ start.shown)

theorem onChallenges_steady
    {activity : Instant → Activity (Challenges AttemptRecords CaptchaDesk) α}
    (steady : ∀ now, now.Shown → Steady (Challenges.GoesBy config.challenge) (activity now)) :
    Steady (GoesBy config) (onChallenges activity) :=
  .read fun _ start => .on (fun _ given => given.challenges)
    (fun _ _ given after => ⟨given.shown, given.duplicates, after⟩) (steady _ start.shown)

theorem holdAny_steady (fingerprint : Option Fingerprint) :
    Steady (GoesBy config) (holdAny fingerprint) := by
  cases fingerprint with
  | some fingerprint =>
    exact (onDuplicates_steady fun _ shown => Duplicates.hold_steady shown fingerprint).bind
      fun _ => .pure _
  | none => exact .pure _

theorem releaseAny_steady (fingerprint : Option Fingerprint) :
    Steady (GoesBy config) (releaseAny fingerprint) := by
  cases fingerprint with
  | some fingerprint =>
    exact onDuplicates_steady fun _ _ => Duplicates.release_steady fingerprint
  | none => exact .pure _

theorem releasingOnFault_steady (fingerprint : Option Fingerprint)
    {activity : Activity MemoryGate α} (steady : Steady (GoesBy config) activity) :
    Steady (GoesBy config) (releasingOnFault fingerprint activity) :=
  steady.attempt_bind fun value => .pure value

theorem authorize_steady (query : PermissionQuery) :
    Steady (GoesBy config) (onPermissions (Permissions.authorize query)) := by
  refine onPermissions_steady fun permissions _ => ?_
  obtain ⟨_, ended | ⟨rejection, ended, _⟩⟩ := Permissions.authorize_cases query permissions
  · exact ⟨_, ended, trivial⟩
  · exact ⟨_, ended, trivial⟩

theorem checkAny_steady (user : String) (kind : Option ActionKind) (token : Option CaptchaToken) :
    Steady (GoesBy config) (checkAny user kind token) := by
  cases kind with
  | some kind => exact onChallenges_steady fun _ _ => Challenges.check_steady _ token
  | none => exact .pure _

theorem checks_steady (request : Request) (kind : Option ActionKind) :
    Steady (GoesBy config) (checks request kind) := by
  have permission : Steady (GoesBy config) (onPermissions (Permissions.authorize request.query)) :=
    authorize_steady request.query
  have challenge : Steady (GoesBy config) (checkAny request.actor.id kind request.token) :=
    checkAny_steady request.actor.id kind request.token
  unfold checks
  cases request.order with
  | permissionFirst =>
    refine permission.bind fun permitted => ?_
    cases permitted with
    | ok _ => exact challenge
    | error rejection => exact .pure _
  | challengeFirst =>
    refine challenge.bind fun passed => ?_
    cases passed with
    | ok _ => exact permission
    | error rejection => exact .pure _

theorem screen_steady (request : Request) : Steady (GoesBy config) (screen request) := by
  refine .read fun gate _ => (holdAny_steady _).bind fun held => ?_
  cases held with
  | error rejection => exact .pure _
  | ok _ =>
    refine (releasingOnFault_steady _ (checks_steady request _)).bind fun checked => ?_
    cases checked with
    | ok _ => exact .pure _
    | error rejection => exact (releaseAny_steady _).bind fun _ => .pure _

theorem recordAny_steady (fit : config.challenge.Fit) (user : String) (kind : Option ActionKind) :
    Steady (GoesBy config) (recordAny user kind) := by
  cases kind with
  | some kind =>
    exact (onChallenges_steady fun _ shown =>
      Challenges.record_steady shown ⟨user, kind⟩ (fit.window kind)).bind fun _ => .pure _
  | none => exact .pure _

/-- Settling a request whose action has ended without a fault does not fault either. -/
theorem settle_steady (fit : config.challenge.Fit) (pass : Pass) (result : Except ε α) :
    Steady (GoesBy config) (settle pass (.ok result)) := by
  have counted := (recordAny_steady fit pass.user pass.counted).bind fun _ => .pure result
  refine (releasingOnFault_steady pass.held counted).bind fun ended => ?_
  cases ended with
  | ok value => exact (Steady.log _).bind fun _ => .pure _
  | error error => exact (releaseAny_steady _).bind fun _ => .pure _

theorem runRequest_steady (fit : config.challenge.Fit) (request : Request)
    {action : Activity MemoryGate (Except ε α)} (steady : Steady (GoesBy config) action) :
    Steady (GoesBy config) (runRequest request action) := by
  refine (screen_steady request).bind fun screened => ?_
  cases screened with
  | ok pass => exact steady.attempt_bind fun result => settle_steady fit pass result
  | error rejection => exact .pure _

/-- Issuing a captcha ends where its life fits. -/
theorem issue_steady (fit : config.challenge.Fit) (user : String) (kind : ActionKind)
    (answer : String) : Steady (GoesBy config) (issue user kind answer) := by
  refine (onChallenges_steady fun now shown challenges start => ?_).bind fun _ =>
    (Steady.log _).bind fun _ => .pure _
  obtain ⟨later, within⟩ := shown.after? (start.life ▸ fit.life)
  have issued : (challenges.verifier.issue now user kind answer).1 =
      .ok (CaptchaDesk.identifier challenges.verifier.salt challenges.verifier.sequence) := by
    rw [CaptchaDesk.issue, within]
  have lives : (challenges.verifier.issue now user kind answer).2.life =
      challenges.verifier.life := by
    rw [CaptchaDesk.issue, within]
  exact ⟨_, issued, start.followed, lives.trans start.life⟩

end Gate

/-! ### Whatever is demanded of a gate -/

/-- Something that is demanded of a gate, or a time that its clock comes to show. -/
inductive Demand : Type 1 where
  | clock (now : Instant)
  | run {ε α : Type} (request : Request) (action : Activity MemoryGate (Except ε α))
  | record (key : ChallengeKey)
  | check (key : ChallengeKey) (token : Option CaptchaToken)
  | issue (user : String) (kind : ActionKind) (answer : String)

namespace Demand

variable {config : Config}

/-- Whether a demand is one that must not make a gate fault: clocks show times in their range, and
actions do not fault themselves, whatever state the gate is in when they are carried out. -/
def Proper (config : Config) : Demand → Prop
  | clock now => now.Shown
  | run _ action => Steady (Gate.GoesBy config) action
  | record _ => True
  | check _ _ => True
  | issue _ _ _ => True

/-- Meets a demand. What comes of it is not looked at. -/
def meet : Demand → Activity MemoryGate Unit
  | clock now => .change fun gate => { gate with now := now }
  | run request action => do
    let _ ← Gate.runRequest request action
    return ()
  | record key => do
    let _ ← Gate.onChallenges fun now => Challenges.record now key
    return ()
  | check key token => do
    let _ ← Gate.onChallenges fun now => Challenges.check now key token
    return ()
  | issue user kind answer => do
    let _ ← Gate.issue user kind answer
    return ()

/-- Meets demands in order. -/
def meetAll : List Demand → Activity MemoryGate Unit
  | [] => return ()
  | demand :: later => do
    demand.meet
    meetAll later

theorem meet_steady (fit : config.challenge.Fit) {demand : Demand} (proper : demand.Proper config) :
    Steady (Gate.GoesBy config) demand.meet := by
  cases demand with
  | clock now => exact .change fun _ start => ⟨proper, start.duplicates, start.challenges⟩
  | run request action => exact (Gate.runRequest_steady fit request proper).bind fun _ => .pure _
  | record key =>
    exact (Gate.onChallenges_steady fun _ shown =>
      Challenges.record_steady shown key (fit.window key.kind)).bind fun _ => .pure _
  | check key token =>
    exact (Gate.onChallenges_steady fun _ _ => Challenges.check_steady key token).bind
      fun _ => .pure _
  | issue user kind answer => exact (Gate.issue_steady fit user kind answer).bind fun _ => .pure _

theorem meetAll_steady (fit : config.challenge.Fit) {demands : List Demand}
    (proper : ∀ demand ∈ demands, demand.Proper config) :
    Steady (Gate.GoesBy config) (meetAll demands) := by
  induction demands with
  | nil => exact .pure ()
  | cons demand later inductionHypothesis =>
    refine (meet_steady fit (proper demand List.mem_cons_self)).bind fun _ => ?_
    exact inductionHypothesis fun other member => proper other (List.mem_cons_of_mem _ member)

/-- The first attempt to be counted faults where the end of its window cannot be represented. -/
theorem record_faults {gate : MemoryGate} (idle : gate.challenges.guarded.breaker.Idle)
    {key : ChallengeKey} (new : gate.challenges.guarded.store.get? key = none)
    (beyond : gate.now.after? (gate.challenges.limit key.kind).window = none) :
    ((record key).meet.run gate).result = .error .expiryOverflow := by
  have unopened : gate.challenges.guarded.store.recorded? key gate.now
      (gate.challenges.limit key.kind).window = none := by
    rw [AttemptRecords.recorded?, new, AttemptWindow.open?, beyond]
    rfl
  refine Activity.result_bind_of_error ?_
  rw [Gate.run_onChallenges]
  exact congrArg Outcome.result (Challenges.run_record_of_none idle unopened)

/-- Issuing a captcha faults where the end of its life cannot be represented. -/
theorem issue_faults {gate : MemoryGate}
    (beyond : gate.now.after? gate.challenges.verifier.life = none) (user : String)
    (kind : ActionKind) (answer : String) :
    ((issue user kind answer).meet.run gate).result = .error .expiryOverflow := by
  have unissued : (gate.challenges.verifier.issue gate.now user kind answer).1 =
      .error .expiryOverflow := by
    rw [CaptchaDesk.issue, beyond]
  exact Activity.result_bind_of_error (Activity.result_bind_of_error unissued)

/-- A single demand faults as it does in a row of its own. -/
theorem meetAll_singleton (demand : Demand) (gate : MemoryGate) :
    ((meetAll [demand]).run gate).result = (demand.meet.run gate).result := by
  rw [meetAll, Activity.run_bind]
  cases ended : (demand.meet.run gate).result <;> rfl

end Demand

namespace Config

/-- The gate built from the configuration, with a desk whose captchas live as long as it says, never
faults: not at any time that a clock shows, and not at any proper demands. -/
def NeverFaults (config : Config) (salt : UInt64 → UInt64) : Prop :=
  ∀ start : Instant, start.Shown → ∀ gate : MemoryGate,
    (Gate.build config none start .empty .empty
      (CaptchaDesk.ofLife config.challenge.tokenLife salt)).1 = .ok gate →
    ∀ demands : List Demand, (∀ demand ∈ demands, demand.Proper config) →
      ((Demand.meetAll demands).run gate).result = .ok ()

/-- A valid configuration has a gate. -/
theorem build_eq_ok {config : Config} (valid : config.validate.1 = .ok ()) (start : Instant)
    (desk : CaptchaDesk) :
    (Gate.build config none start .empty .empty desk :
        Except ConfigError MemoryGate × List Event).1 =
      .ok (.assemble config config.breaker true start .empty .empty desk) := by
  obtain ⟨strict, required, permissions, challenge, duplicate, breaker, sweep, log⟩ := config
  rw [Gate.build]
  dsimp only [Option.getD]
  generalize Config.validate _ = checked at valid ⊢
  obtain ⟨result, events⟩ := checked
  cases valid
  rfl

/-- A gate of a valid configuration never faults exactly when every window that attempts are counted
in, and the life of a captcha, fit behind the latest time. -/
theorem neverFaults_iff (config : Config) (valid : config.validate.1 = .ok ())
    (salt : UInt64 → UInt64) : config.NeverFaults salt ↔ config.challenge.Fit := by
  constructor
  · intro never
    let gate : MemoryGate := .assemble config config.breaker true .latest .empty .empty
      (.ofLife config.challenge.tokenLife salt)
    have met : ∀ demand : Demand, demand.Proper config →
        (demand.meet.run gate).result = .ok () := by
      intro demand proper
      rw [← Demand.meetAll_singleton]
      exact never .latest Instant.latest_shown gate (build_eq_ok valid _ _) [demand]
        (List.forall_mem_singleton.mpr proper)
    refine ⟨fun kind => Decidable.byContradiction fun beyond => ?_,
      Decidable.byContradiction fun beyond => ?_⟩
    · have faulted := @Demand.record_faults gate (Breaker.idle_ofSettings _ _) ⟨"", kind⟩
        (KeyedStore.get?_empty _) (Instant.latest_after?_eq_none beyond)
      rw [met (.record _) trivial] at faulted
      cases faulted
    · have faulted := @Demand.issue_faults gate (Instant.latest_after?_eq_none beyond) "" .email ""
      rw [met (.issue _ _ _) trivial] at faulted
      cases faulted
  · intro fit start shown gate built demands proper
    obtain ⟨_, ended, _⟩ :=
      Demand.meetAll_steady fit proper (Gate.build_goesBy shown built)
    exact ended

theorem standard_neverFaults :
    standard.validate.1 = .ok () ∧ standard.NeverFaults CaptchaDesk.scramble := by
  refine ⟨rfl, (neverFaults_iff standard rfl _).mpr ⟨fun kind => ?_, by decide⟩⟩
  cases kind <;> decide

/-- Attempts are to be remembered for as long as can be said. -/
def unforgetting : Config :=
  { standard with
    permissions := RuleTable.ofRules [(.standard .questionAdd, ⟨0, none⟩)]
    challenge := { ChallengeSettings.standard with defaultLimit := ⟨5, 0xFFFFFFFFFFFFFFFF⟩ } }

/-- The configuration is valid and has a gate, and the gate faults at the first question that is
asked, even at the earliest time. -/
theorem unforgetting_faults :
    let desk := CaptchaDesk.ofLife unforgetting.challenge.tokenLife CaptchaDesk.scramble
    let gate : MemoryGate :=
      .assemble unforgetting unforgetting.breaker true .earliest .empty .empty desk
    let question : Request :=
      ⟨⟨"ada", 1, false⟩, .standard .questionAdd, false, some .question, none, none,
        .permissionFirst⟩
    unforgetting.validate.1 = .ok () ∧
      (Gate.build unforgetting none .earliest .empty .empty desk).1 = .ok gate ∧
      ((Gate.runRequest question (pure (.ok ()) : Activity MemoryGate (Except Unit Unit))).run
        gate).result = .error .expiryOverflow :=
  ⟨rfl, rfl, rfl⟩

end Config

end Gatekeeper
