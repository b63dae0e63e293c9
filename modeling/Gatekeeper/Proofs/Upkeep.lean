/-
This file proves that upkeep goes unnoticed. Two gates in memory correspond when their stores show
the same once what has expired counts as absent; nothing that a gate does can tell such gates apart,
now or later. Dropping what has expired keeps a gate in correspondence with one where it was not
dropped, and so does reading a counter, which may drop an elapsed window on the way.

What lies outside the scope of a comparison counts as absent as well. Then it is the requests within
the scope that cannot tell the gates apart.

Every test of expiry has to agree on the very end of a window for this. They all enter by way of the
live view of a store, at the one instant the gate shows.
-/
import Gatekeeper.Gate.Sweep
import Gatekeeper.Proofs.Correspondence
import Gatekeeper.Proofs.Memory

namespace Gatekeeper

open Activity (Alike Unnoticed)

variable {α β σ τ : Type}

/-! ### Live views -/

namespace KeyedStore

variable {κ ν : Type} [DecidableEq κ] {dead gone : κ → ν → Bool}

/-- What a store shows when what is dead counts as absent. -/
def live (store : KeyedStore κ ν) (dead : κ → ν → Bool) : κ → Option ν := fun key =>
  (store.get? key).filter fun value => !dead key value

theorem live_erase (store : KeyedStore κ ν) (key : κ) :
    (store.erase key).live dead =
      fun other => if other = key then none else store.live dead other := by
  funext other
  rw [live, get?_erase]
  by_cases same : other = key
  · rw [if_pos same, if_pos same]
    rfl
  · rw [if_neg same, if_neg same]
    rfl

theorem live_erase_self (store : KeyedStore κ ν) (key : κ) :
    (store.erase key).live dead key = none := by
  rw [live, get?_erase_self]
  rfl

theorem live_insert (store : KeyedStore κ ν) (key : κ) (value : ν) :
    (store.insert key value).live dead = fun other =>
      if other = key then (some value).filter fun value => !dead other value
      else store.live dead other := by
  funext other
  rw [live, get?_insert]
  by_cases same : other = key
  · rw [if_pos same, if_pos same]
  · rw [if_neg same, if_neg same]
    rfl

/-- What is dead now is dead later, so the later view can be seen in the present one. -/
theorem live_later (store : KeyedStore κ ν)
    (stays : ∀ key value, dead key value = true → gone key value = true) :
    store.live gone = fun key => (store.live dead key).filter fun value => !gone key value := by
  funext key
  unfold live
  cases store.get? key with
  | none => rfl
  | some value =>
    cases test : dead key value with
    | true => simp [Option.filter, test, stays key value test]
    | false => simp [Option.filter, test]

/-- Dropping what is dead anyway does not show. -/
theorem live_purge (store : KeyedStore κ ν) {expired : ν → Bool}
    (counted : ∀ key value, expired value = true → dead key value = true) :
    (store.purge expired).2.live dead = store.live dead := by
  funext key
  rw [live, get?_purge, live]
  cases store.get? key with
  | none => rfl
  | some value =>
    cases test : expired value with
    | true => simp [Option.filter, test, counted key value test]
    | false => simp [Option.filter, test]

/-- The stores show the same when what is dead counts as absent. -/
def SameLive (dead : κ → ν → Bool) (first second : KeyedStore κ ν) : Prop :=
  first.live dead = second.live dead

namespace SameLive

variable {first second : KeyedStore κ ν}

theorem symm (same : SameLive dead first second) : SameLive dead second first :=
  Eq.symm same

theorem trans {third : KeyedStore κ ν} (same : SameLive dead first second)
    (next : SameLive dead second third) : SameLive dead first third :=
  Eq.trans same next

theorem erase (same : SameLive dead first second) (key : κ) :
    SameLive dead (first.erase key) (second.erase key) := by
  rw [SameLive, live_erase, live_erase, same]

theorem insert (same : SameLive dead first second) (key : κ) (value : ν) :
    SameLive dead (first.insert key value) (second.insert key value) := by
  rw [SameLive, live_insert, live_insert, same]

theorem later (same : SameLive dead first second)
    (stays : ∀ key value, dead key value = true → gone key value = true) :
    SameLive gone first second := by
  rw [SameLive, live_later first stays, live_later second stays, same]

theorem purge (same : SameLive dead first second) {expired : ν → Bool}
    (counted : ∀ key value, expired value = true → dead key value = true) :
    SameLive dead (first.purge expired).2 second :=
  (first.live_purge counted).trans same

/-- A change at one key does not show if nothing shows there before and after. -/
theorem change_one (same : SameLive dead first second) {changed : KeyedStore κ ν} {key : κ}
    (before : first.live dead key = none) (after : changed.live dead key = none)
    (others : ∀ other, other ≠ key → changed.get? other = first.get? other) :
    SameLive dead changed second := by
  rw [SameLive, ← same]
  funext other
  by_cases here : other = key
  · rw [here, before, after]
  · rw [live, others other here]
    rfl

/-- Entering a key and removing it again does not show if the key did not show before. -/
theorem insert_erase (same : SameLive dead first second) {key : κ}
    (absent : first.live dead key = none) (value : ν) :
    SameLive dead ((first.insert key value).erase key) second :=
  same.change_one absent (live_erase_self _ key) fun _ apart =>
    (get?_erase_of_ne _ apart).trans (get?_insert_of_ne _ value apart)

end SameLive

end KeyedStore

namespace Scope

variable (scope : Scope) (now : Instant)

/-! What has expired counts as absent, and so does what lies outside the scope. -/

def hidesRecord (fingerprint : Fingerprint) (expiresAt : Instant) : Bool :=
  !scope.fingerprints fingerprint || DuplicateRecords.isExpired now expiresAt

def hidesWindow (key : ChallengeKey) (window : AttemptWindow) : Bool :=
  !scope.users key.user || window.isExpired now

def hidesCaptcha (_ : String) (captcha : IssuedCaptcha) : Bool :=
  !scope.users captcha.user || captcha.isExpired now

variable {now} {fingerprint : Fingerprint} {key : ChallengeKey} {id : String} {expiresAt : Instant}
  {window : AttemptWindow} {captcha : IssuedCaptcha}

theorem hidesRecord_of_expired (expired : DuplicateRecords.isExpired now expiresAt = true) :
    scope.hidesRecord now fingerprint expiresAt = true := by
  rw [hidesRecord, expired, Bool.or_true]

theorem hidesWindow_of_expired (expired : window.isExpired now = true) :
    scope.hidesWindow now key window = true := by
  rw [hidesWindow, expired, Bool.or_true]

theorem hidesCaptcha_of_expired (expired : captcha.isExpired now = true) :
    scope.hidesCaptcha now id captcha = true := by
  rw [hidesCaptcha, expired, Bool.or_true]

variable {later : Instant} (ordered : now.nanos ≤ later.nanos)

include ordered

/-! What counts as absent does so for good. -/

theorem hidesRecord_later (hidden : scope.hidesRecord now fingerprint expiresAt = true) :
    scope.hidesRecord later fingerprint expiresAt = true := by
  rcases (Bool.or_eq_true _ _).mp hidden with outside | expired
  · rw [hidesRecord, outside, Bool.true_or]
  · refine scope.hidesRecord_of_expired (decide_eq_true ?_)
    exact Int.le_trans (of_decide_eq_true expired) ordered

theorem hidesWindow_later (hidden : scope.hidesWindow now key window = true) :
    scope.hidesWindow later key window = true := by
  rcases (Bool.or_eq_true _ _).mp hidden with outside | expired
  · rw [hidesWindow, outside, Bool.true_or]
  · refine scope.hidesWindow_of_expired (decide_eq_true ?_)
    exact Int.le_trans (of_decide_eq_true expired) ordered

theorem hidesCaptcha_later (hidden : scope.hidesCaptcha now id captcha = true) :
    scope.hidesCaptcha later id captcha = true := by
  rcases (Bool.or_eq_true _ _).mp hidden with outside | expired
  · rw [hidesCaptcha, outside, Bool.true_or]
  · refine scope.hidesCaptcha_of_expired (decide_eq_true ?_)
    exact Int.le_trans (of_decide_eq_true expired) ordered

end Scope

/-! ### Guarded stores that show the same -/

namespace GuardedStore

/-- The breakers have never seen a failure, and nothing tells the stores apart but what the relation
allows. -/
structure Matches (stores : σ → τ → Prop) (first : GuardedStore σ) (second : GuardedStore τ) :
    Prop where
  stores : stores first.store second.store
  idle : first.breaker.Idle
  breaker : first.breaker = second.breaker
  refusals : first.refusals = second.refusals

theorem Matches.symm {stores : σ → σ → Prop} {first second : GuardedStore σ}
    (start : Matches stores first second)
    (symmetric : ∀ ⦃first second⦄, stores first second → stores second first) :
    Matches stores second first :=
  ⟨symmetric start.stores, start.breaker ▸ start.idle, start.breaker.symm, start.refusals.symm⟩

theorem Matches.trans {stores : σ → σ → Prop} {first second third : GuardedStore σ}
    (start : Matches stores first second) (next : Matches stores second third)
    (transitive : ∀ ⦃first second third⦄, stores first second → stores second third →
      stores first third) : Matches stores first third :=
  ⟨transitive start.stores next.stores, start.idle, start.breaker.trans next.breaker,
    start.refusals.trans next.refusals⟩

/-- The stores reply to the question in the same way, do not refuse it, and stay related. -/
def RepliedAlike (stores : σ → τ → Prop) (question : σ → Reply α × σ)
    (question' : τ → Reply α × τ) : Prop :=
  ∀ ⦃first second⦄, stores first second →
    (question first).1 = (question' second).1 ∧
      (∀ error, (question first).1 ≠ .refused error) ∧
      stores (question first).2 (question' second).2

theorem Matches.ask {stores : σ → τ → Prop} {now : Instant} {policy : FailurePolicy}
    {call : StoreCall} {subject : StoreSubject} {question : σ → Reply α × σ}
    {question' : τ → Reply α × τ} (replies : RepliedAlike stores question question') :
    Alike (Matches stores) (GuardedStore.ask now policy call subject question)
      (GuardedStore.ask now policy call subject question') := by
  intro first second start
  have idle' : second.breaker.Idle := start.breaker ▸ start.idle
  obtain ⟨sameReply, heard, sameStores⟩ := replies start.stores
  cases reply : (question first.store).1 with
  | answer value =>
    have asked : question first.store = (.answer value, (question first.store).2) :=
      Prod.ext reply rfl
    have asked' : question' second.store = (.answer value, (question' second.store).2) :=
      Prod.ext (sameReply.symm.trans reply) rfl
    rw [run_ask_of_answer start.idle asked, run_ask_of_answer idle' asked']
    exact ⟨rfl, sameStores, start.idle, start.breaker, start.refusals⟩
  | refused error => exact absurd reply (heard error)
  | fault fault =>
    have asked : question first.store = (.fault fault, (question first.store).2) :=
      Prod.ext reply rfl
    have asked' : question' second.store = (.fault fault, (question' second.store).2) :=
      Prod.ext (sameReply.symm.trans reply) rfl
    rw [run_ask_of_fault start.idle asked, run_ask_of_fault idle' asked']
    exact ⟨rfl, sameStores, start.idle, start.breaker, start.refusals⟩

end GuardedStore

/-! ### What a store in memory replies is in its live view -/

variable {scope : Scope}

namespace DuplicateRecords

theorem isLive_eq (records : DuplicateRecords) {fingerprint : Fingerprint}
    (covered : scope.fingerprints fingerprint = true) (now : Instant) :
    records.isLive fingerprint now = (records.live (scope.hidesRecord now) fingerprint).isSome := by
  unfold isLive KeyedStore.live Scope.hidesRecord
  rw [covered]
  cases records.get? fingerprint with
  | none => rfl
  | some expiresAt => cases expired : isExpired now expiresAt <;> simp [Option.filter, expired]

theorem tryInsert_replied (now : Instant) {fingerprint : Fingerprint}
    (covered : scope.fingerprints fingerprint = true) (window : Duration) :
    GuardedStore.RepliedAlike (KeyedStore.SameLive (scope.hidesRecord now))
      (fun records => tryInsert records fingerprint now window)
      (fun records => tryInsert records fingerprint now window) := by
  intro first second same
  dsimp only
  unfold tryInsert
  rw [isLive_eq first covered, isLive_eq second covered, same]
  cases (KeyedStore.live second (scope.hidesRecord now) fingerprint).isSome with
  | true => exact ⟨rfl, nofun, same⟩
  | false =>
    cases now.after? window with
    | some expiresAt => exact ⟨rfl, nofun, same.insert _ _⟩
    | none => exact ⟨rfl, nofun, same⟩

end DuplicateRecords

namespace AttemptRecords

theorem live_eq (records : AttemptRecords) {key : ChallengeKey}
    (covered : scope.users key.user = true) (now : Instant) :
    records.live (scope.hidesWindow now) key = records.live? key now := by
  unfold KeyedStore.live Scope.hidesWindow live? AttemptWindow.live?
  rw [covered]
  rfl

/-- Dropping an elapsed window leaves the live view as it is. -/
theorem live_live? (records : AttemptRecords) (key : ChallengeKey) (now : Instant) :
    ((records.live? key now).filter fun window => !scope.hidesWindow now key window) =
      records.live (scope.hidesWindow now) key := by
  unfold live? AttemptWindow.live? KeyedStore.live Scope.hidesWindow
  rw [Option.filter_filter]
  congr 1
  funext window
  cases window.isExpired now <;> simp

/-- Reading a counter leaves the live view as it is. -/
theorem live_attempts (records : AttemptRecords) (key : ChallengeKey) (now : Instant) :
    (records.attempts key now).2.live (scope.hidesWindow now) =
      records.live (scope.hidesWindow now) := by
  funext other
  rw [KeyedStore.live, get?_attempts]
  by_cases same : other = key
  · rw [if_pos same, same, live_live?]
  · rw [if_neg same]
    rfl

theorem attempts_replied (now : Instant) {key : ChallengeKey}
    (covered : scope.users key.user = true) :
    GuardedStore.RepliedAlike (KeyedStore.SameLive (scope.hidesWindow now))
      (fun records : AttemptRecords => AttemptStore.attempts records key now)
      (fun records : AttemptRecords => AttemptStore.attempts records key now) := by
  intro (first : AttemptRecords) (second : AttemptRecords) same
  refine ⟨?_, nofun, ?_⟩
  · show Reply.answer (first.attempts key now).1 = .answer (second.attempts key now).1
    rw [attempts_fst, attempts_fst, countAt, countAt, ← live_eq first covered,
      ← live_eq second covered, same]
  · exact (first.live_attempts key now).trans (same.trans (second.live_attempts key now).symm)

theorem increment_replied (now : Instant) {key : ChallengeKey}
    (covered : scope.users key.user = true) (length : Duration) :
    GuardedStore.RepliedAlike (KeyedStore.SameLive (scope.hidesWindow now))
      (fun records : AttemptRecords => records.increment key now length)
      (fun records : AttemptRecords => records.increment key now length) := by
  intro (first : AttemptRecords) (second : AttemptRecords) same
  have sameWindow : first.recorded? key now length = second.recorded? key now length := by
    rw [recorded?_eq, recorded?_eq, ← live_eq first covered, ← live_eq second covered, same]
  dsimp only
  unfold increment
  rw [sameWindow]
  cases second.recorded? key now length with
  | some window => exact ⟨rfl, nofun, same.insert _ _⟩
  | none => exact ⟨rfl, nofun, same⟩

end AttemptRecords

/-- A captcha that is hidden from a user is no use to that user. -/
theorem CaptchaDesk.any_accepts (desk : CaptchaDesk) {user : String}
    (covered : scope.users user = true) (kind : ActionKind) (now : Instant) (token : CaptchaToken) :
    ((desk.issued.get? token.id).any fun captcha => captcha.accepts user kind now token.answer) =
      (desk.issued.live (scope.hidesCaptcha now) token.id).any fun captcha =>
        captcha.accepts user kind now token.answer := by
  unfold KeyedStore.live Scope.hidesCaptcha
  cases desk.issued.get? token.id with
  | none => rfl
  | some captcha =>
    by_cases own : captcha.user = user
    · have seen : scope.users captcha.user = true := own ▸ covered
      cases expired : captcha.isExpired now <;>
        simp [Option.filter, IssuedCaptcha.accepts, seen, expired]
    · cases hidden : (!scope.users captcha.user || captcha.isExpired now) <;>
        simp [Option.filter, IssuedCaptcha.accepts, own, hidden]

/-! ### Gates that show the same -/

/-- A gate whose stores live in memory. -/
abbrev MemoryGate := Gate DuplicateRecords AttemptRecords CaptchaDesk

namespace CaptchaDesk

/-- The desks issue the next captcha in the same way, and the captchas that can still be answered
are the same. -/
structure Matches (scope : Scope) (now : Instant) (first second : CaptchaDesk) : Prop where
  life : first.life = second.life
  salt : first.salt = second.salt
  sequence : first.sequence = second.sequence
  issued : KeyedStore.SameLive (scope.hidesCaptcha now) first.issued second.issued

variable {now : Instant} {first second : CaptchaDesk}

theorem Matches.verify (start : Matches scope now first second) {user : String}
    (covered : scope.users user = true) (kind : ActionKind) (token : CaptchaToken) :
    (first.verify now user kind token).1 = (second.verify now user kind token).1 ∧
      Matches scope now (first.verify now user kind token).2
        (second.verify now user kind token).2 := by
  refine ⟨?_, start.life, start.salt, start.sequence, start.issued.erase token.id⟩
  show (first.issued.get? token.id).any _ = (second.issued.get? token.id).any _
  rw [any_accepts first covered, any_accepts second covered, start.issued]

theorem Matches.issue (start : Matches scope now first second) (user : String) (kind : ActionKind)
    (answer : String) :
    (first.issue now user kind answer).1 = (second.issue now user kind answer).1 ∧
      Matches scope now (first.issue now user kind answer).2
        (second.issue now user kind answer).2 := by
  unfold CaptchaDesk.issue
  dsimp only
  rw [start.life, start.salt, start.sequence]
  cases now.after? second.life with
  | none => exact ⟨rfl, rfl, rfl, rfl, start.issued⟩
  | some expiresAt => exact ⟨rfl, rfl, rfl, rfl, start.issued.insert _ _⟩

end CaptchaDesk

/-- The stores live in memory and show the same within the scope at each instant; where the counters
of the gates are compared, they agree. -/
def StoreRelation.upToExpired (scope : Scope) (counts : Prop) : StoreRelation DuplicateRecords
    DuplicateRecords AttemptRecords AttemptRecords CaptchaDesk CaptchaDesk where
  scope := scope
  counts := counts
  duplicates now := GuardedStore.Matches (KeyedStore.SameLive (scope.hidesRecord now))
  attempts now := GuardedStore.Matches (KeyedStore.SameLive (scope.hidesWindow now))
  verifiers := CaptchaDesk.Matches scope

namespace StoreRelation

variable {counts : Prop}

/-- No call of a gate tells them apart. -/
theorem upToExpired_kept : (upToExpired scope counts).Kept where
  tryInsert now _ _ window covered :=
    GuardedStore.Matches.ask (DuplicateRecords.tryInsert_replied now covered window)
  remove _ _ fingerprint _ :=
    GuardedStore.Matches.ask fun _ _ same => ⟨rfl, nofun, same.erase fingerprint⟩
  readAttempts now _ _ covered :=
    GuardedStore.Matches.ask (AttemptRecords.attempts_replied now covered)
  increment now _ _ length covered :=
    GuardedStore.Matches.ask (AttemptRecords.increment_replied now covered length)
  clearAttempts _ _ key _ := GuardedStore.Matches.ask fun _ _ same => ⟨rfl, nofun, same.erase key⟩
  verify now first second start user kind token covered := by
    obtain ⟨sameAnswer, desks⟩ := start.verify covered kind token
    exact ⟨congrArg Reply.answer sameAnswer, desks⟩

theorem upToExpired_symmetric : (upToExpired scope counts).Symmetric where
  duplicates _ _ _ start := start.symm fun _ _ => KeyedStore.SameLive.symm
  attempts _ _ _ start := start.symm fun _ _ => KeyedStore.SameLive.symm
  verifiers _ _ _ start :=
    ⟨start.life.symm, start.salt.symm, start.sequence.symm, start.issued.symm⟩

theorem upToExpired_transitive : (upToExpired scope counts).Transitive where
  duplicates _ _ _ _ start next := start.trans next fun _ _ _ => KeyedStore.SameLive.trans
  attempts _ _ _ _ start next := start.trans next fun _ _ _ => KeyedStore.SameLive.trans
  verifiers _ _ _ _ start next := ⟨start.life.trans next.life, start.salt.trans next.salt,
    start.sequence.trans next.sequence, start.issued.trans next.issued⟩

/-- A gate that has just been assembled, around whatever stores, corresponds to itself. -/
theorem OnGates.assemble (config : Config) (breaker : BreakerSettings) (sharesMetrics : Bool)
    (now : Instant) (duplicates : DuplicateRecords) (attempts : AttemptRecords)
    (desk : CaptchaDesk) :
    (upToExpired scope counts).OnGates
      (.assemble config breaker sharesMetrics now duplicates attempts desk)
      (.assemble config breaker sharesMetrics now duplicates attempts desk) where
  now := rfl
  permissions := ⟨rfl, fun _ => rfl⟩
  duplicates := ⟨rfl, ⟨rfl, Breaker.idle_ofSettings breaker now, rfl, rfl⟩, fun _ => rfl⟩
  challenges := ⟨rfl, ⟨rfl, Breaker.idle_ofSettings breaker now, rfl, rfl⟩,
    ⟨rfl, rfl, rfl, rfl⟩, fun _ => rfl⟩
  sharesMetrics := rfl

/-! ### Time -/

theorem duplicates_later {now later : Instant} (ordered : now.nanos ≤ later.nanos)
    {first second : GuardedStore DuplicateRecords}
    (start : (upToExpired scope counts).duplicates now first second) :
    (upToExpired scope counts).duplicates later first second :=
  ⟨start.stores.later fun _ _ => scope.hidesRecord_later ordered, start.idle,
    start.breaker, start.refusals⟩

theorem attempts_later {now later : Instant} (ordered : now.nanos ≤ later.nanos)
    {first second : GuardedStore AttemptRecords}
    (start : (upToExpired scope counts).attempts now first second) :
    (upToExpired scope counts).attempts later first second :=
  ⟨start.stores.later fun _ _ => scope.hidesWindow_later ordered, start.idle, start.breaker,
    start.refusals⟩

theorem verifiers_later {now later : Instant} (ordered : now.nanos ≤ later.nanos)
    {first second : CaptchaDesk} (start : (upToExpired scope counts).verifiers now first second) :
    (upToExpired scope counts).verifiers later first second :=
  ⟨start.life, start.salt, start.sequence,
    start.issued.later fun _ _ => scope.hidesCaptcha_later ordered⟩

/-- Gates that show the same do so for good, since the clock never goes back. -/
theorem wait_alike (length : Duration) :
    Alike (upToExpired scope counts).OnGates (Gate.wait length) (Gate.wait length) := by
  intro first second start
  rw [Gate.run_wait, Gate.run_wait, ← start.now]
  cases within : first.now.after? length with
  | none => exact ⟨rfl, start⟩
  | some later =>
    have moved := ((Instant.after?_eq_some_iff _ _ _).mp within).1
    have ordered : first.now.nanos ≤ later.nanos := by omega
    have duplicates := duplicates_later ordered start.duplicates.guarded
    have attempts := attempts_later ordered start.challenges.guarded
    have verifiers := verifiers_later ordered start.challenges.verifier
    exact ⟨rfl, rfl, start.permissions,
      ⟨start.duplicates.settings, duplicates, start.duplicates.tally⟩,
      ⟨start.challenges.settings, attempts, verifiers, start.challenges.tally⟩,
      start.sharesMetrics⟩

/-! ### Issuing and counting -/

theorem issue_alike (user : String) (kind : ActionKind) (answer : String) :
    Alike (upToExpired scope counts).OnGates (Gate.issue user kind answer)
      (Gate.issue user kind answer) := by
  refine Alike.bind (onChallenges_alike fun now => ?_) fun id => (Alike.log _).bind fun _ => .pure _
  intro first second start
  obtain ⟨sameId, desks⟩ := start.verifier.issue user kind answer
  exact ⟨sameId, start.settings, start.guarded, desks, start.tally⟩

/-- Gates that show the same count the same, if their counters are compared. -/
theorem OnGates.counters {first second : Gate DuplicateRecords AttemptRecords CaptchaDesk}
    (start : (upToExpired scope counts).OnGates first second) (counted : counts) :
    Metrics.ofPermissions first.permissions.tally = .ofPermissions second.permissions.tally ∧
      first.duplicates.metrics = second.duplicates.metrics ∧
      first.challenges.metrics = second.challenges.metrics ∧ first.metrics = second.metrics := by
  have permissions : Metrics.ofPermissions first.permissions.tally =
      .ofPermissions second.permissions.tally := by
    rw [start.permissions.tally counted]
  have duplicates : first.duplicates.metrics = second.duplicates.metrics := by
    unfold Duplicates.metrics
    rw [start.duplicates.tally counted, start.duplicates.guarded.refusals]
  have challenges : first.challenges.metrics = second.challenges.metrics := by
    unfold Challenges.metrics
    rw [start.challenges.tally counted, start.challenges.guarded.refusals]
  refine ⟨permissions, duplicates, challenges, ?_⟩
  unfold Gate.metrics
  rw [start.sharesMetrics, permissions, duplicates, challenges]

/-! ### Dropping what has expired -/

theorem purge_unnoticed (now : Instant) :
    Unnoticed ((upToExpired scope counts).OnDuplicates now)
      (Duplicates.purge now : Activity (Duplicates DuplicateRecords) Nat) := by
  intro first second start
  have guarded := start.guarded
  exact ⟨_, rfl, start.settings,
    ⟨guarded.stores.purge fun _ _ => scope.hidesRecord_of_expired, guarded.idle, guarded.breaker,
      guarded.refusals⟩, start.tally⟩

theorem purgeAttempts_unnoticed (now : Instant) :
    Unnoticed ((upToExpired scope counts).OnChallenges now)
      (Challenges.purge now : Activity (Challenges AttemptRecords CaptchaDesk) Nat) := by
  intro first second start
  have guarded := start.guarded
  exact ⟨_, rfl, start.settings,
    ⟨guarded.stores.purge fun _ _ => scope.hidesWindow_of_expired, guarded.idle, guarded.breaker,
      guarded.refusals⟩, start.verifier, start.tally⟩

theorem purgeTokens_unnoticed (now : Instant) :
    Unnoticed ((upToExpired scope counts).OnChallenges now)
      (Challenges.purgeTokens now : Activity (Challenges AttemptRecords CaptchaDesk) Nat) := by
  intro first second start
  have desks := start.verifier
  exact ⟨_, rfl, start.settings, start.guarded,
    ⟨desks.life, desks.salt, desks.sequence,
      desks.issued.purge fun _ _ => scope.hidesCaptcha_of_expired⟩, start.tally⟩

/-- A sweep is three purges, and at most a line in the log. -/
theorem sweep_unnoticed :
    Unnoticed (upToExpired scope counts).OnGates
      (Gate.sweep : Activity (Gate DuplicateRecords AttemptRecords CaptchaDesk) SweepReport) := by
  refine (onDuplicates_unnoticed purge_unnoticed).bind fun duplicates => ?_
  refine (onChallenges_unnoticed purgeAttempts_unnoticed).bind fun challenges => ?_
  refine (onChallenges_unnoticed purgeTokens_unnoticed).bind fun tokens => ?_
  dsimp only
  split
  · exact (Unnoticed.log _).bind fun _ => .pure _
  · exact .pure _

/-! ### Reading counters -/

theorem attempts_unnoticed (now : Instant) (key : ChallengeKey) :
    Unnoticed ((upToExpired scope counts).OnChallenges now)
      (Challenges.attempts now key : Activity (Challenges AttemptRecords CaptchaDesk) _) := by
  intro first second start
  have guarded := start.guarded
  have stores : KeyedStore.SameLive (scope.hidesWindow now)
      (first.guarded.store.attempts key now).2 second.guarded.store :=
    (first.guarded.store.live_attempts key now).trans guarded.stores
  rw [Challenges.run_attempts guarded.idle]
  exact ⟨_, rfl, start.settings, ⟨stores, guarded.idle, guarded.breaker, guarded.refusals⟩,
    start.verifier, start.tally⟩

theorem level_unnoticed (now : Instant) (key : ChallengeKey) :
    Unnoticed ((upToExpired scope counts).OnChallenges now)
      (Challenges.level now key : Activity (Challenges AttemptRecords CaptchaDesk) _) := by
  refine Unnoticed.read fun challenges => ?_
  dsimp only
  split
  · exact .pure _
  · refine (attempts_unnoticed now key).bind fun answer => ?_
    cases answer with
    | some attempts => exact .pure _
    | none => cases challenges.settings.onStoreError <;> exact .pure _

end StoreRelation

end Gatekeeper
