/-
This file asks for captchas. Attempts are counted by user and kind; once there have been as many as
the limit allows, the next one needs a solved captcha, and a solved captcha starts the count anew.
Where the store gives no answer the failure policy decides; a verifier that gives no answer counts
as one that says no.
-/
import Gatekeeper.Metrics
import Gatekeeper.Rejection
import Gatekeeper.Store.Guarded
import Gatekeeper.Store.Interface

namespace Gatekeeper

inductive Verification where
  | passed
  | failed
  deriving DecidableEq

namespace Verification

def isPassed (verification : Verification) : Bool :=
  verification = passed

end Verification

/-- The part of a gate that asks for captchas. -/
structure Challenges (κ ν : Type) where
  settings : ChallengeSettings
  guarded : GuardedStore κ
  verifier : ν
  tally : ChallengeTally

namespace Challenges

variable {κ ν α : Type}

/-- A part without any counts. -/
def ofStore (settings : ChallengeSettings) (breaker : Breaker) (store : κ) (verifier : ν) :
    Challenges κ ν :=
  ⟨settings, ⟨store, breaker, 0⟩, verifier, .zero⟩

def metrics (challenges : Challenges κ ν) : Metrics :=
  .ofChallenges challenges.tally challenges.guarded.refusals

def resetMetrics (challenges : Challenges κ ν) : Challenges κ ν :=
  { challenges with guarded := { challenges.guarded with refusals := 0 }, tally := .zero }

/-- An activity on the breaker. -/
def onBreaker (activity : Activity Breaker α) : Activity (Challenges κ ν) α :=
  activity.on (fun challenges => challenges.guarded.breaker) fun breaker challenges =>
    { challenges with guarded := { challenges.guarded with breaker := breaker } }

def limit (challenges : Challenges κ ν) (kind : ActionKind) : ChallengeLimit :=
  challenges.settings.limit kind

/-- Whether an actor is never challenged. -/
def isExempt (challenges : Challenges κ ν) (isAdmin hasRank : Bool) : Bool :=
  challenges.settings.exemption.covers isAdmin hasRank

/-- Asks the store about a counter. -/
def ask (now : Instant) (call : StoreCall) (key : ChallengeKey) (question : κ → Reply α × κ) :
    Activity (Challenges κ ν) (Option α) := do
  let challenges ← .state
  (GuardedStore.ask now challenges.settings.onStoreError call (.counter key)
    question).on Challenges.guarded fun guarded challenges =>
      { challenges with guarded := guarded }

/-- Changes the tally. -/
def count (update : ChallengeTally → ChallengeTally) : Activity (Challenges κ ν) Unit :=
  .change fun challenges => { challenges with tally := update challenges.tally }

/-! ### Attempts -/

section Attempts

variable [AttemptStore κ]

/-- How many attempts the live window counts; nothing if the store gives no answer. -/
def attempts (now : Instant) (key : ChallengeKey) : Activity (Challenges κ ν) (Option UInt32) :=
  ask now .readAttempts key fun store => AttemptStore.attempts store key now

/-- How strictly the next attempt is challenged. With a threshold of zero the store is not asked. -/
def level (now : Instant) (key : ChallengeKey) : Activity (Challenges κ ν) ChallengeLevel := do
  let challenges ← .state
  let threshold := (challenges.limit key.kind).threshold
  if threshold = 0 then return .required
  else
    match ← attempts now key with
    | some attempts => return .ofAttempts attempts threshold
    | none =>
      match challenges.settings.onStoreError with
      | .failOpen => return .clear
      | .failClosed => return .required

/-- Counts an attempt and gives the new count; nothing if the store gives no answer. -/
def record (now : Instant) (key : ChallengeKey) : Activity (Challenges κ ν) (Option UInt32) := do
  let challenges ← .state
  let length := (challenges.limit key.kind).window
  match ← ask now .increment key fun store => AttemptStore.increment store key now length with
  | some attempts =>
    count fun tally => { tally with attemptsRecorded := tally.attemptsRecorded + 1 }
    .log (.attemptRecorded key attempts)
    return some attempts
  | none => return none

/-- Drops the windows that have elapsed, and counts them. -/
def purge (now : Instant) : Activity (Challenges κ ν) Nat := fun challenges =>
  let (count, store) := AttemptStore.purge challenges.guarded.store now
  ⟨.ok count, { challenges with guarded := { challenges.guarded with store := store } }, []⟩

end Attempts

/-! ### Captchas -/

section Captchas

variable [CaptchaVerifier ν]

/-- What the verifier says to an answer. One that cannot say anything says no. -/
def consult (now : Instant) (key : ChallengeKey) (token : CaptchaToken) :
    Activity (Challenges κ ν) Bool := fun challenges =>
  let (reply, verifier) :=
    CaptchaVerifier.verify challenges.verifier now key.user key.kind token
  let challenges := { challenges with verifier := verifier }
  match reply with
  | .answer passed => ⟨.ok passed, challenges, []⟩
  | .refused error =>
    let tally := challenges.tally
    let tally := { tally with verifierFailures := tally.verifierFailures + 1 }
    ⟨.ok false, { challenges with tally := tally }, [.verifierFailed key error]⟩
  | .fault fault => ⟨.error fault, challenges, []⟩

/-- Drops the captchas whose life has ended, and counts them. -/
def purgeTokens (now : Instant) : Activity (Challenges κ ν) Nat := fun challenges =>
  let (count, verifier) := CaptchaVerifier.purge challenges.verifier now
  ⟨.ok count, { challenges with verifier := verifier }, []⟩

variable [AttemptStore κ]

/-- Checks an answer. One that passes clears the counter. -/
def verify (now : Instant) (key : ChallengeKey) (token : CaptchaToken) :
    Activity (Challenges κ ν) Verification := do
  if ← consult now key token then
    count fun tally => { tally with passed := tally.passed + 1 }
    let _ ← ask now .clearAttempts key fun store => AttemptStore.clear store key
    .log (.verificationPassed key)
    return .passed
  else
    count fun tally => { tally with failed := tally.failed + 1 }
    .log (.verificationFailed key)
    return .failed

/-- The check before an action: no captcha is needed, or the right answer to one is handed in. -/
def check (now : Instant) (key : ChallengeKey) (token : Option CaptchaToken) :
    Activity (Challenges κ ν) (Except Rejection Unit) := do
  if (← level now key).isRequired then
    match token with
    | none =>
      count fun tally => { tally with required := tally.required + 1 }
      return .error (.challengeRequired key.kind)
    | some token =>
      match ← verify now key token with
      | .passed => return .ok ()
      | .failed => return .error (.challengeFailed key.kind)
  else return .ok ()

end Captchas

end Challenges

end Gatekeeper
