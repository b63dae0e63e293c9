/-
This file drops what has expired from the stores of a gate, once or at regular intervals. What has
expired counts as absent anyway, so this only bounds how much is stored. The task that sweeps at
intervals counts time from its start; it sweeps at each whole multiple of the interval, stops when
it is told to or left alone, and ends for good when a sweep faults.
-/
import Gatekeeper.Gate

namespace Gatekeeper

/-- How much a sweep has dropped. -/
structure SweepReport where
  duplicates : Nat
  challenges : Nat
  tokens : Nat
  deriving DecidableEq

namespace SweepReport

def total (report : SweepReport) : Nat :=
  report.duplicates + report.challenges + report.tokens

end SweepReport

namespace Gate

variable {δ κ ν : Type} [DuplicateStore δ] [AttemptStore κ] [CaptchaVerifier ν]

/-- Drops from each store what has expired. A sweep that drops nothing is not logged. -/
def sweep : Activity (Gate δ κ ν) SweepReport := do
  let duplicates ← onDuplicates Duplicates.purge
  let challenges ← onChallenges Challenges.purge
  let tokens ← onChallenges Challenges.purgeTokens
  let report : SweepReport := ⟨duplicates, challenges, tokens⟩
  if 0 < report.total then
    .log (.recordsPurged duplicates challenges tokens)
  return report

/-- Sweeps a number of times. -/
def sweepTimes : Nat → Activity (Gate δ κ ν) Unit
  | 0 => return ()
  | times + 1 => do
    let _ ← sweep
    sweepTimes times

end Gate

/-! ### Sweeping at intervals -/

inductive SweepTaskState where
  | running
  /-- Nobody can tell the task to stop any more; it stops when it next notices. -/
  | abandoned
  | stopped
  | failed (fault : Fault)
  deriving DecidableEq

/-- A task that sweeps at intervals. -/
structure SweepTask where
  interval : Duration
  /-- How long ago the task was started. -/
  elapsed : Duration
  state : SweepTaskState
  deriving DecidableEq

namespace SweepTask

/-- A task that starts now, if the interval is valid. -/
def start (settings : SweepSettings) : Except ConfigError SweepTask :=
  match settings.fault? with
  | some fault => .error (.invalid fault)
  | none => .ok ⟨settings.interval, ⟨0⟩, .running⟩

def isFinished (task : SweepTask) : Bool :=
  match task.state with
  | .running | .abandoned => false
  | .stopped | .failed _ => true

def abandon (task : SweepTask) : SweepTask :=
  match task.state with
  | .running => { task with state := .abandoned }
  | _ => task

/-- How often a sweep is due while some more time passes. -/
def due (task : SweepTask) (length : Duration) : Nat :=
  (task.elapsed.nanos + length.nanos) / task.interval.nanos -
    task.elapsed.nanos / task.interval.nanos

variable {δ κ ν : Type} [DuplicateStore δ] [AttemptStore κ] [CaptchaVerifier ν]

/-- What the task does while time passes. -/
def pass (task : SweepTask) (length : Duration) : Activity (Gate δ κ ν) SweepTask := do
  let later := { task with elapsed := ⟨task.elapsed.nanos + length.nanos⟩ }
  match task.state with
  | .running =>
    match ← (Gate.sweepTimes (task.due length)).attempt with
    | .ok () => return later
    | .error fault => return { later with state := .failed fault }
  | .abandoned => do
    .log .sweeperStopping
    return { later with state := .stopped }
  | _ => return later

/-- Tells the task to stop and waits for it; the fault if it has ended with one. -/
def shutDown (task : SweepTask) : Activity (Gate δ κ ν) (Except Fault Unit) := do
  match task.state with
  | .failed fault => return .error fault
  | .stopped => return .ok ()
  | _ => do
    .log .sweeperStopping
    return .ok ()

/-- What is said of a task that has ended with a fault. -/
def failureMessage : String := "sweeper task panicked"

end SweepTask

end Gatekeeper
