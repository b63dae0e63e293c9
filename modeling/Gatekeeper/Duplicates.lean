/-
This file keeps duplicates out. A request is admitted if no request with its fingerprint is live,
and its fingerprint then stays live until its window elapses or it is released. Where the store
gives no answer the failure policy decides.
-/
import Gatekeeper.Metrics
import Gatekeeper.Rejection
import Gatekeeper.Store.Guarded
import Gatekeeper.Store.Interface

namespace Gatekeeper

/-- The part of a gate that keeps duplicates out. -/
structure Duplicates (δ : Type) where
  settings : DuplicateSettings
  guarded : GuardedStore δ
  tally : DuplicateTally

namespace Duplicates

variable {δ α : Type}

/-- A part without any counts. -/
def ofStore (settings : DuplicateSettings) (breaker : Breaker) (store : δ) : Duplicates δ :=
  ⟨settings, ⟨store, breaker, 0⟩, .zero⟩

def metrics (duplicates : Duplicates δ) : Metrics :=
  .ofDuplicates duplicates.tally duplicates.guarded.refusals

def resetMetrics (duplicates : Duplicates δ) : Duplicates δ :=
  { duplicates with guarded := { duplicates.guarded with refusals := 0 }, tally := .zero }

/-- An activity on the breaker. -/
def onBreaker (activity : Activity Breaker α) : Activity (Duplicates δ) α :=
  activity.on (fun duplicates => duplicates.guarded.breaker) fun breaker duplicates =>
    { duplicates with guarded := { duplicates.guarded with breaker := breaker } }

/-- The draft of a request; the fields that do not count here are left out. -/
def draft (duplicates : Duplicates δ) (user action : String) : RequestDraft :=
  .start user action duplicates.settings.excludedFields

/-- Asks the store about a fingerprint. -/
def ask (now : Instant) (call : StoreCall) (fingerprint : Fingerprint)
    (question : δ → Reply α × δ) : Activity (Duplicates δ) (Option α) := do
  let duplicates ← .state
  (GuardedStore.ask now duplicates.settings.onStoreError call (.fingerprint fingerprint)
    question).on Duplicates.guarded fun guarded duplicates =>
      { duplicates with guarded := guarded }

/-- Changes the tally. -/
def count (update : DuplicateTally → DuplicateTally) : Activity (Duplicates δ) Unit :=
  .change fun duplicates => { duplicates with tally := update duplicates.tally }

variable [DuplicateStore δ]

/-- Whether a request may go on, and its entry if it may. -/
def enter (now : Instant) (fingerprint : Fingerprint) : Activity (Duplicates δ) Admission := do
  let duplicates ← .state
  let answer ← ask now .tryInsert fingerprint fun store =>
    DuplicateStore.tryInsert store fingerprint now duplicates.settings.window
  let admission ←
    match answer with
    | some true => pure Admission.admitted
    | some false => do
      count fun tally => { tally with rejected := tally.rejected + 1 }
      pure Admission.rejected
    | none =>
      match duplicates.settings.onStoreError with
      | .failOpen => pure Admission.admitted
      | .failClosed => pure Admission.rejected
  if admission.isAdmitted then
    count fun tally => { tally with admitted := tally.admitted + 1 }
  .log (.duplicateChecked fingerprint admission)
  return admission

/-- Removes a fingerprint, so that the request may be made again at once. -/
def release (now : Instant) (fingerprint : Fingerprint) : Activity (Duplicates δ) Unit := do
  match ← ask now .remove fingerprint fun store => DuplicateStore.remove store fingerprint with
  | some () => do
    count fun tally => { tally with released := tally.released + 1 }
    .log (.fingerprintReleased fingerprint)
  | none => return ()

/-- Admits a request that is going to be released unless it succeeds. -/
def hold (now : Instant) (fingerprint : Fingerprint) :
    Activity (Duplicates δ) (Except Rejection Fingerprint) := do
  match ← enter now fingerprint with
  | .admitted => return .ok fingerprint
  | .rejected => return .error (.duplicateRejected fingerprint)

/-- Drops the fingerprints whose windows have elapsed, and counts them. -/
def purge (now : Instant) : Activity (Duplicates δ) Nat := fun duplicates =>
  let (count, store) := DuplicateStore.purge duplicates.guarded.store now
  ⟨count, { duplicates with guarded := { duplicates.guarded with store := store } }, []⟩

end Duplicates

end Gatekeeper
