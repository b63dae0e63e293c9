/-
This file puts a store behind its circuit breaker. A call that the breaker lets through may be
answered; one that is refused is counted, logged and told to the breaker; one that the breaker does
not let through never reaches the store. In the last two cases there is no answer, and the caller
decides what that means.
-/
import Gatekeeper.Activity

namespace Gatekeeper

/-- A store behind its breaker. -/
structure GuardedStore (σ : Type) where
  store : σ
  breaker : Breaker
  /-- How many calls the store has refused. -/
  refusals : UInt64

namespace GuardedStore

variable {σ α : Type}

/-- Asks the store something about a record. The policy is not applied here, only logged. -/
def ask (now : Instant) (policy : FailurePolicy) (call : StoreCall) (subject : StoreSubject)
    (question : σ → Reply α × σ) : Activity (GuardedStore σ) (Option α) := fun guarded =>
  let (allowed, breaker) := guarded.breaker.allow now
  if allowed then
    let (reply, store) := question guarded.store
    match reply with
    | .answer value =>
      ⟨.ok (some value), { guarded with store := store, breaker := breaker.succeed }, []⟩
    | .refused error =>
      let (opened, breaker) := breaker.fail now
      ⟨.ok none, ⟨store, breaker, guarded.refusals + 1⟩,
        .storeFailed call subject error policy ::
          if opened then [.circuitOpened subject.role] else []⟩
    | .fault fault =>
      ⟨.error fault, { guarded with store := store, breaker := breaker }, []⟩
  else ⟨.ok none, guarded, [.storeSkipped call subject]⟩

end GuardedStore

end Gatekeeper
