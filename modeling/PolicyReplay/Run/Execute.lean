import PolicyReplay.RoundRobin
import PolicyReplay.Run.Aggregate
import PolicyReplay.Timestamp

/-!
# Executing a run

A run validates its configuration, compiles both traces and the policy, replays the load trace on
one connection, and then deals the run trace to its workers, each with a connection of its own.
Nothing is connected before everything is compiled, and no worker is connected before the load
phase is over. What happens to one worker is no error of the run.
-/

namespace PolicyReplay.Run

/-- Where a run finds its connections: the `n`-th one starts in the state `opening n`. -/
structure Site (σ : Type) where
  endpoint : String
  peer : Peer σ
  opening : Nat → σ

/-- What a run is told about its own circumstances. -/
structure Occasion where
  runId : String
  startedAt : Timestamp
  /-- How long the load phase takes. -/
  loadElapsed : Duration
  /-- How long the workers take. -/
  runElapsed : Duration

/-- What came of a run that was not ended by an error. -/
structure Result where
  runId : String
  startedAt : Timestamp
  endpoint : String
  loadCommands : Nat
  runCommands : Nat
  aggregate : Aggregate
  outcomes : List Outcome
  counters : Counters
  deriving DecidableEq, Repr

/-- One connection of a run: what was done on it and where that left the other side. -/
structure Connection (σ : Type) where
  steps : List Step
  state : σ

namespace Connection

/-- The connection that an account tells of. -/
def ofAccount (account : Account σ α) : Connection σ := ⟨account.steps, account.state⟩

/-- What was counted on a connection. -/
def tallies (connection : Connection σ) : List Tally :=
  connection.steps.filterMap fun step => match step with
    | .counted tally => some tally
    | _ => none

/-- Whether the connection was ever open. -/
def wasOpened (connection : Connection σ) : Bool :=
  connection.steps.any fun step => step matches .connected .opened

end Connection

/-- A run as a whole: how it ended and the connections it made, in order. -/
structure Execution (σ : Type) where
  fate : Fate (Except Error Result)
  connections : List (Connection σ)

/-- Compile the workload. -/
def prepareWorkload (files : Files) (config : Config) :
    Logging (Fate (Except Error Workload)) := do
  match Workload.assemble files config.traceFolder config.workload config.valueSize with
  | .crashed message => return .crashed message
  | .returned (.ok workload) =>
    Logging.event .workloadCompiled
      [("workload", workload.name), ("load_commands", toString workload.load.length),
        ("run_commands", toString workload.run.length)]
    return .returned (.ok workload)
  | .returned (.error e) =>
    Logging.event .workloadRejected
      [("workload", config.workload), ("code", e.code), ("reason", e.message)]
    return .returned (.error (.workload e))

/-- Compile the policy, if there is one. A policy that yields no command is an error. -/
def preparePolicy (files : Files) (config : Config) :
    Logging (Except Error (Option Command)) := do
  match config.policy with
  | none => return .ok none
  | some path =>
    match Policy.read files path with
    | .error e => return .error (.policy e)
    | .ok document =>
      match ← Setup.compileLogged document with
      | .ok command => return .ok (some command)
      | .error skip => return .error (.invalidConfig (.policySkipped path skip))

/-- Compile all that a run sends. -/
def prepare (files : Files) (config : Config) :
    Logging (Fate (Except Error (Workload × Option Command))) := do
  match ← prepareWorkload files config with
  | .crashed message => return .crashed message
  | .returned (.error e) => return .returned (.error e)
  | .returned (.ok workload) =>
    match ← preparePolicy files config with
    | .error e => return .returned (.error e)
    | .ok setup => return .returned (.ok (workload, setup))

/-- What a worker left behind: its outcome, its connection, and what was counted after its end. -/
structure Attendance (σ : Type) where
  outcome : Outcome
  connection : Connection σ
  afterwards : List Tally

/-- Let a worker replay its share on the connection that starts in `start`. -/
def attend (site : Site σ) (id : Nat) (setup : Option Command) (commands : List Command)
    (start : σ) : Logging (Attendance σ) := do
  let account ← (worker site.endpoint id setup commands).conduct site.peer start
  let (outcome, afterwards) ← join id account.fate
  return ⟨outcome, .ofAccount account, afterwards⟩

/-- Let workers replay their shares one after the other, the first of them with the number `id`.
The connection of the load phase comes before theirs. -/
def attendAll (site : Site σ) (setup : Option Command) (id : Nat) :
    List (List Command) → Logging (List (Attendance σ))
  | [] => return []
  | share :: rest => do
    let first ← attend site id setup share (site.opening (id + 1))
    let others ← attendAll site setup (id + 1) rest
    return first :: others

/-- The scope of the phase in which the workers replay their shares. -/
def runScope (config : Config) (commands : List Command) : Log.Scope :=
  ⟨"RUN_PHASE", [("clients", toString config.clients), ("commands", toString commands.length)]⟩

/-- The run phase and the end of a run, in which each worker has its share, after a load phase on
`loadConnection`. -/
def runPhase (config : Config) (site : Site σ) (occasion : Occasion) (workload : Workload)
    (setup : Option Command) (loadConnection : Connection σ) (shares : List (List Command)) :
    Logging (Execution σ) := do
  let scope := runScope config workload.run
  Logging.write scope.opened
  let attended ← attendAll site setup 0 shares
  let connections := loadConnection :: attended.map (·.connection)
  let outcomes := attended.map (·.outcome)
  match Aggregate.ofOutcomes outcomes occasion.runElapsed with
  | .error _ =>
    Logging.write scope.abandoned
    return ⟨.crashed Duration.Overflow.message, connections⟩
  | .ok aggregate =>
    Logging.write (scope.completed occasion.runElapsed.millis
      [("requests", toString aggregate.requests), ("workers_failed", toString aggregate.failed)])
    let mean := match aggregate.mean with
      | some mean => toString mean.micros
      | none => "none"
    Logging.event .runComplete
      [("run_id", occasion.runId), ("mean_latency_us", mean),
        ("elapsed_ms", toString aggregate.elapsed.millis)]
    let tallies := connections.flatMap Connection.tallies ++ attended.flatMap (·.afterwards)
    return ⟨.returned (.ok {
      runId := occasion.runId
      startedAt := occasion.startedAt
      endpoint := site.endpoint
      loadCommands := workload.load.length
      runCommands := workload.run.length
      aggregate, outcomes
      counters := .ofTallies tallies }), connections⟩

/-- Execute a run. -/
def execute (files : Files) (config : Config) (site : Site σ) (occasion : Occasion) :
    Logging (Execution σ) := do
  match config.validate with
  | .error e => return ⟨.returned (.error e), []⟩
  | .ok () =>
    Logging.event .runStart
      [("run_id", occasion.runId), ("workload", config.workload),
        ("clients", toString config.clients), ("endpoint", site.endpoint)]
    match ← prepare files config with
    | .crashed message => return ⟨.crashed message, []⟩
    | .returned (.error e) => return ⟨.returned (.error e), []⟩
    | .returned (.ok (workload, setup)) =>
      let loading := loadPhase site.endpoint occasion.loadElapsed setup workload.load
      let account ← loading.conduct site.peer (site.opening 0)
      let connection := Connection.ofAccount account
      match account.fate with
      | .crashed message =>
        Logging.write (loadScope site.endpoint workload.load).abandoned
        return ⟨.crashed message, [connection]⟩
      | .returned (.error e) => return ⟨.returned (.error e), [connection]⟩
      | .returned (.ok ()) =>
        match RoundRobin.layOut config.clients workload.run with
        | .crashed message => return ⟨.crashed message, [connection]⟩
        | .returned shares => runPhase config site occasion workload setup connection shares

end PolicyReplay.Run
