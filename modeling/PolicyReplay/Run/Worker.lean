import PolicyReplay.Run.Session

/-!
# Workers and the load phase

A worker replays its share of the run trace in a session of its own, and what came of it is an
outcome: a report, or a failure that concerns this worker alone. The load phase replays the whole
load trace in one session, and its failure is that of the run.
-/

namespace PolicyReplay.Run

/-- What a worker measured. -/
structure WorkerReport where
  worker : Nat
  latency : Latency
  deriving DecidableEq, Repr

/-- What came of a worker. -/
inductive Outcome where
  | completed (report : WorkerReport)
  | failed (worker : Nat) (code reason : String)
  deriving DecidableEq, Repr

namespace Outcome

/-- The report of a worker that completed. -/
def report? : Outcome → Option WorkerReport
  | completed report => some report
  | failed _ _ _ => none

/-- Whether the worker failed. -/
def isFailed : Outcome → Bool
  | completed _ => false
  | failed _ _ _ => true

end Outcome

/-- Replay the share of a worker. -/
def worker (endpoint : String) (id : Nat) (setup : Option Command) (commands : List Command) :
    Dialogue (Except Error WorkerReport) := do
  let name := toString id
  match ← session endpoint name setup commands with
  | .ok latency =>
    .counted (.requestsCompleted latency.count)
    .logged (Log.Event.workerComplete.entry
      [("worker", name), ("requests", toString latency.count),
        ("sum_latency_us", toString latency.sum.micros)])
    return .ok ⟨id, latency⟩
  | .error e =>
    .counted .workerFailed
    .logged (Log.Event.workerFailed.entry
      [("worker", name), ("code", e.code), ("reason", e.message)])
    return .error e

/-- The code of a worker that ended without a result. -/
def crashCode : String := "LOADGEN_WORKER_PANICKED"

/-- The reason given for a worker that ended without a result. -/
def crashReason (id : Nat) (message : String) : String :=
  "task " ++ toString id ++ " panicked with message " ++ Text.quoted message

/-- What came of a worker, by how its dialogue ended. A worker that ended without a result has
neither logged nor counted its failure, so that is done here. -/
def join (id : Nat) : Fate (Except Error WorkerReport) → Logging (Outcome × List Tally)
  | .returned (.ok report) => return (.completed report, [])
  | .returned (.error e) => return (.failed id e.code e.message, [])
  | .crashed message => do
    let reason := crashReason id message
    Logging.event .workerFailed
      [("worker", toString id), ("code", crashCode), ("reason", reason)]
    return (.failed id crashCode reason, [.workerFailed])

/-- The scope of the load phase. -/
def loadScope (endpoint : String) (commands : List Command) : Log.Scope :=
  ⟨"LOAD_PHASE", [("commands", toString commands.length), ("endpoint", endpoint)]⟩

/-- Replay the load trace; the phase takes `elapsed`. -/
def loadPhase (endpoint : String) (elapsed : Duration) (setup : Option Command)
    (commands : List Command) : Dialogue (Except Error Unit) := do
  let scope := loadScope endpoint commands
  .logged scope.opened
  match ← session endpoint "load" setup commands with
  | .ok _ =>
    .logged (scope.completed elapsed.millis [])
    return .ok ()
  | .error e =>
    .logged (scope.failed e.message)
    return .error (.loadPhase e)

end PolicyReplay.Run
