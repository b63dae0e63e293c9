/-
This file holds stores that can be switched off. While a store is off it refuses every call, and the
store behind the switch is not reached; dropping what has expired still works, unless it is made to
fault. Calls are counted whether or not they get through.
-/
import Gatekeeper.Store.Interface

namespace Gatekeeper

/-- A store behind a switch. -/
structure Switched (σ : Type) where
  inner : σ
  /-- What calls are refused with, if the store is off. -/
  outage : Option StoreError
  /-- What dropping faults with, if it is made to. -/
  purgeFault : Option Fault
  calls : Nat

namespace Switched

variable {σ α : Type}

/-- A store that is on. -/
def ofStore (inner : σ) : Switched σ := ⟨inner, none, none, 0⟩

/-- A store that nothing ever reaches. -/
def unreachable (inner : σ) : Switched σ :=
  { ofStore inner with outage := some (.unavailable "connection refused") }

/-- Makes a call if the store is on. -/
def call (store : Switched σ) (ask : σ → Reply α × σ) : Reply α × Switched σ :=
  let store := { store with calls := store.calls + 1 }
  match store.outage with
  | some error => (.refused error, store)
  | none =>
    let (reply, inner) := ask store.inner
    (reply, { store with inner := inner })

instance [DuplicateStore σ] : DuplicateStore (Switched σ) where
  tryInsert store fingerprint now window :=
    store.call fun inner => DuplicateStore.tryInsert inner fingerprint now window
  remove store fingerprint := store.call fun inner => DuplicateStore.remove inner fingerprint
  purge store now :=
    match store.purgeFault with
    | some fault => (.error fault, store)
    | none =>
      let (count, inner) := DuplicateStore.purge store.inner now
      (count, { store with inner := inner })

instance [AttemptStore σ] : AttemptStore (Switched σ) where
  attempts store key now := store.call fun inner => AttemptStore.attempts inner key now
  increment store key now length :=
    store.call fun inner => AttemptStore.increment inner key now length
  clear store key := store.call fun inner => AttemptStore.clear inner key
  purge store now :=
    let (count, inner) := AttemptStore.purge store.inner now
    (count, { store with inner := inner })

instance [CaptchaVerifier σ] : CaptchaVerifier (Switched σ) where
  verify store now user kind token :=
    store.call fun inner => CaptchaVerifier.verify inner now user kind token
  purge store now :=
    let (count, inner) := CaptchaVerifier.purge store.inner now
    (count, { store with inner := inner })

/-- Captchas are issued whether or not answers are checked. -/
instance [CaptchaIssuer σ] : CaptchaIssuer (Switched σ) where
  issue store now user kind answer :=
    let (id, inner) := CaptchaIssuer.issue store.inner now user kind answer
    (id, { store with inner := inner })

end Switched

end Gatekeeper
