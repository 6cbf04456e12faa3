import PolicyReplay.Proofs.Run.Preparation
import PolicyReplay.Proofs.Session.Course

/-!
# The phases of a run

What a run does after its preparation, without what is logged: the session of the load phase, and
then one attendance for each worker. Either phase is a function of the site alone, so a statement
about all runs is a statement about all sites.

## Key results

- `loadPhase_account`, `worker_account`: both phases hold sessions and add nothing to them but
  tallies
- `run_attendAll`: the workers do not depend on each other
- `execute_of_ready`: a run whose parts are there is carried out
- `execute_cases`: every other run ends before it makes a connection
-/

namespace PolicyReplay.Run

variable {σ : Type}

/-! ## The load phase -/

/-- What the session of the load phase comes to. -/
def loadSession (site : Site σ) (workload : Workload) (setup : Option Command) :
    Account σ (Except Error Latency) :=
  (session site.endpoint "load" setup workload.load).account site.peer (site.opening 0)

/-- The load phase is its session, and the error of the session is told as one of the phase. -/
theorem loadPhase_account (peer : Peer σ) (endpoint : String) (elapsed : Duration)
    (setup : Option Command) (commands : List Command) (s : σ) :
    (loadPhase endpoint elapsed setup commands).account peer s =
      let talk := (session endpoint "load" setup commands).account peer s
      ⟨talk.steps, talk.state,
        talk.fate.map fun result => (result.map fun _ => ()).mapError .loadPhase⟩ := by
  simp only [loadPhase, Dialogue.logged, Dialogue.account_bind, Dialogue.account_log,
    Dialogue.account_done, Account.bind, List.nil_append]
  -- what is logged around the session leaves no step on the connection
  generalize (session endpoint "load" setup commands).account peer s = talk
  obtain ⟨steps, s', fate⟩ := talk
  cases fate with
  | crashed message => rfl
  | returned result =>
    cases result with
    | error e => simp [Dialogue.account_bind, Account.bind, Fate.map, Except.map, Except.mapError]
    | ok latency =>
      simp [Dialogue.account_bind, Account.bind, Fate.map, Except.map, Except.mapError]

/-! ## The workers -/

/-- What a worker counts when its session is over. A worker that crashed counts nothing. -/
def closingTallies : Fate (Except Error Latency) → List Tally
  | .returned (.ok latency) => [.requestsCompleted latency.count]
  | .returned (.error _) => [.workerFailed]
  | .crashed _ => []

/-- A worker is its session, after which it counts what came of it. -/
theorem worker_account (peer : Peer σ) (endpoint : String) (id : Nat) (setup : Option Command)
    (commands : List Command) (s : σ) :
    (worker endpoint id setup commands).account peer s =
      let talk := (session endpoint (toString id) setup commands).account peer s
      ⟨talk.steps ++ (closingTallies talk.fate).map .counted, talk.state,
        talk.fate.map fun result => result.map fun latency => ⟨id, latency⟩⟩ := by
  simp only [worker, Dialogue.account_bind]
  -- a crash leaves the worker no time to count, and both results are counted at once
  generalize (session endpoint (toString id) setup commands).account peer s = talk
  obtain ⟨steps, s', fate⟩ := talk
  cases fate with
  | crashed message => simp [Account.bind, closingTallies, Fate.map]
  | returned result =>
    cases result with
    | error e => rfl
    | ok latency => rfl

/-- What came of a worker, without what is logged. -/
def outcomeOf (id : Nat) : Fate (Except Error WorkerReport) → Outcome
  | .returned (.ok report) => .completed report
  | .returned (.error e) => .failed id e.code e.message
  | .crashed message => .failed id crashCode (crashReason id message)

/-- What is counted for a worker that could not do so itself. -/
def afterwardsOf : Fate (Except Error WorkerReport) → List Tally
  | .returned _ => []
  | .crashed _ => [.workerFailed]

/-- What joining a worker comes to does not depend on how it is logged. -/
theorem run_join (id : Nat) (fate : Fate (Except Error WorkerReport)) (least : Severity) :
    ((join id fate).run least).2 = (outcomeOf id fate, afterwardsOf fate) := by
  cases fate with
  | crashed message => rfl
  | returned result =>
    cases result with
    | error e => rfl
    | ok report => rfl

/-- The attendance of one worker, without what is logged. -/
def attendance (site : Site σ) (setup : Option Command) (share : List Command) (id : Nat) :
    Attendance σ :=
  let account := (worker site.endpoint id setup share).account site.peer (site.opening (id + 1))
  ⟨outcomeOf id account.fate, .ofAccount account, afterwardsOf account.fate⟩

/-- A worker that is attended to leaves its attendance, whatever is logged. -/
theorem run_attend (site : Site σ) (id : Nat) (setup : Option Command) (share : List Command)
    (least : Severity) :
    ((attend site id setup share (site.opening (id + 1))).run least).2 =
      attendance site setup share id := by
  simp only [attend, Logging.run_bind, Logging.run_pure, Dialogue.run_conduct_snd, run_join]
  rfl

/-- The attendances of the workers, each with its share, the first of them with the number `id`. -/
def attendances (site : Site σ) (setup : Option Command) (id : Nat)
    (shares : List (List Command)) : List (Attendance σ) :=
  (shares.zipIdx id).map fun (share, id) => attendance site setup share id

/-- The first share is attended to by the first worker, and the others by those behind it. -/
@[simp] theorem attendances_cons (site : Site σ) (setup : Option Command) (id : Nat)
    (share : List Command) (rest : List (List Command)) :
    attendances site setup id (share :: rest) =
      attendance site setup share id :: attendances site setup (id + 1) rest := rfl

/-- There are as many attendances as shares. -/
@[simp] theorem length_attendances (site : Site σ) (setup : Option Command) (id : Nat)
    (shares : List (List Command)) : (attendances site setup id shares).length = shares.length := by
  rw [attendances, List.length_map, List.length_zipIdx]

/-- The workers attend one after the other, and none of them depends on another. -/
theorem run_attendAll (site : Site σ) (setup : Option Command) (id : Nat)
    (shares : List (List Command)) (least : Severity) :
    ((attendAll site setup id shares).run least).2 = attendances site setup id shares := by
  -- by induction on the shares: the number of the next worker is one greater
  induction shares generalizing id with
  | nil => rfl
  | cons share rest ih =>
    simp only [attendAll, Logging.run_bind, Logging.run_pure, run_attend, ih, attendances_cons]

/-! ## What happens on the connections -/

/-- A transcript of a session, after which nothing but tallies comes. -/
def Hosts (setup : Option Command) (commands : List Command) (steps : List Step) : Prop :=
  ∃ first fate, ∃ tallies : List Tally,
    Course setup commands first fate ∧ steps = first ++ tallies.map .counted

/-- The connection of the load phase hosts a session. -/
theorem hosts_loadSession (site : Site σ) (workload : Workload) (setup : Option Command) :
    Hosts setup workload.load (loadSession site workload setup).steps :=
  ⟨_, _, [], session_course .., (List.append_nil _).symm⟩

/-- The connection of a worker hosts a session. -/
theorem hosts_attendance (site : Site σ) (setup : Option Command) (share : List Command)
    (id : Nat) : Hosts setup share (attendance site setup share id).connection.steps := by
  -- the session is the transcript, and behind it the worker counts what came of it
  simp only [attendance, Connection.ofAccount, worker_account]
  exact ⟨_, _, _, session_course .., rfl⟩

/-- A worker that completed was answered to each command of its share. -/
theorem count_of_completed {site : Site σ} {setup : Option Command} {share : List Command}
    {id : Nat} {report : WorkerReport}
    (h : (attendance site setup share id).outcome = .completed report) :
    report.latency.count = share.length := by
  -- the session of the worker took a course, and only one of the seven has a result
  have hcourse := session_course site.peer site.endpoint (toString id) setup share
    (site.opening (id + 1))
  simp only [attendance, worker_account] at h
  generalize ((session site.endpoint (toString id) setup share).account site.peer
    (site.opening (id + 1))).fate = fate at hcourse h
  cases fate with
  | crashed message => cases h
  | returned result =>
    cases result with
    | error e => cases h
    | ok latency =>
      obtain rfl : ⟨id, latency⟩ = report := Outcome.completed.inj h
      exact hcourse.count_eq

/-! ## The run phase -/

/-- What a run results in once its workers are done. -/
def resultOf (site : Site σ) (occasion : Occasion) (workload : Workload)
    (loadConnection : Connection σ) (attended : List (Attendance σ)) (aggregate : Aggregate) :
    Result where
  runId := occasion.runId
  startedAt := occasion.startedAt
  endpoint := site.endpoint
  loadCommands := workload.load.length
  runCommands := workload.run.length
  aggregate := aggregate
  outcomes := attended.map (·.outcome)
  counters := .ofTallies
    ((loadConnection :: attended.map (·.connection)).flatMap Connection.tallies ++
      attended.flatMap (·.afterwards))

/-- A run that has made its connections ends with a result unless the aggregate overflows. -/
def concluded (site : Site σ) (occasion : Occasion) (workload : Workload)
    (loadConnection : Connection σ) (attended : List (Attendance σ)) : Execution σ where
  fate := match Aggregate.ofOutcomes (attended.map (·.outcome)) occasion.runElapsed with
    | .error _ => .crashed Duration.Overflow.message
    | .ok aggregate =>
      .returned (.ok (resultOf site occasion workload loadConnection attended aggregate))
  connections := loadConnection :: attended.map (·.connection)

/-- The run phase attends to the workers and concludes the run, whatever is logged. -/
theorem run_runPhase (config : Config) (site : Site σ) (occasion : Occasion)
    (workload : Workload) (setup : Option Command) (loadConnection : Connection σ)
    (shares : List (List Command)) (least : Severity) :
    ((runPhase config site occasion workload setup loadConnection shares).run least).2 =
      concluded site occasion workload loadConnection (attendances site setup 0 shares) := by
  simp only [runPhase, Logging.run_bind, run_attendAll]
  rw [concluded]
  -- the log of the phase is all that depends on more than the aggregate
  cases Aggregate.ofOutcomes ((attendances site setup 0 shares).map (·.outcome))
      occasion.runElapsed with
  | error overflow => rfl
  | ok aggregate => rfl

/-! ## Whole runs -/

/-- A run whose parts are there: the load phase, and the run phase if the load phase has a
result. -/
def carriedOut (config : Config) (site : Site σ) (occasion : Occasion) (workload : Workload)
    (setup : Option Command) : Execution σ :=
  let load := loadSession site workload setup
  match load.fate with
  | .crashed message => ⟨.crashed message, [.ofAccount load]⟩
  | .returned (.error e) => ⟨.returned (.error (.loadPhase e)), [.ofAccount load]⟩
  | .returned (.ok _) =>
    match RoundRobin.layOut config.clients workload.run with
    | .crashed message => ⟨.crashed message, [.ofAccount load]⟩
    | .returned shares =>
      concluded site occasion workload (.ofAccount load) (attendances site setup 0 shares)

variable {files : Files} {config : Config} {site : Site σ} {occasion : Occasion}
  {workload : Workload} {setup : Option Command} {least : Severity}

/-- The connection of every worker of a run hosts a session. -/
theorem hosts_of_mem_attendances {id : Nat} {shares : List (List Command)}
    {attended : Attendance σ} (h : attended ∈ attendances site setup id shares) :
    ∃ commands, Hosts setup commands attended.connection.steps := by
  obtain ⟨⟨share, id⟩, -, rfl⟩ := List.mem_map.1 h
  exact ⟨share, hosts_attendance site setup share id⟩

/-- Every connection of a run hosts a session with the setup command of the run. -/
theorem hosts_of_mem_carriedOut {connection : Connection σ}
    (h : connection ∈ (carriedOut config site occasion workload setup).connections) :
    ∃ commands, Hosts setup commands connection.steps := by
  have hfirst : ∃ commands, Hosts setup commands (loadSession site workload setup).steps :=
    ⟨_, hosts_loadSession site workload setup⟩
  -- the cases are the ends of a run, and only the last of them has workers
  simp only [carriedOut] at h
  split at h
  · obtain rfl := List.mem_singleton.1 h
    exact hfirst
  · obtain rfl := List.mem_singleton.1 h
    exact hfirst
  · split at h
    · obtain rfl := List.mem_singleton.1 h
      exact hfirst
    · rcases List.mem_cons.1 h with rfl | h
      · exact hfirst
      · obtain ⟨attended, hattended, rfl⟩ := List.mem_map.1 h
        exact hosts_of_mem_attendances hattended

/-- A run whose parts are there is carried out. -/
theorem execute_of_ready (hready : Ready files config workload setup)
    (hroom : config.valueSize ≤ Capacity.maxOctets) :
    ((execute files config site occasion).run least).2 =
      carriedOut config site occasion workload setup := by
  -- there is room for a value, so what is ready is also prepared
  have hprepare : ((prepare files config).run least).2 = .returned (.ok (workload, setup)) :=
    prepare_eq_ok_iff.2 ⟨hroom, hready.toPrepared⟩
  simp only [execute, hready.valid, Logging.run_bind, hprepare, Dialogue.run_conduct_snd,
    loadPhase_account]
  rw [← loadSession, carriedOut]
  -- how the load phase ends decides what is left of the run
  cases hload : (loadSession site workload setup).fate with
  | crashed message =>
    simp only [Fate.map, Logging.run_bind, Logging.run_pure]
    rfl
  | returned result =>
    cases result with
    | error e =>
      simp only [Fate.map, Except.map, Except.mapError, Logging.run_pure]
      rfl
    | ok latency =>
      simp only [Fate.map, Except.map, Except.mapError]
      cases RoundRobin.layOut config.clients workload.run with
      | crashed message => rfl
      | returned shares => exact run_runPhase ..

/-- A run that ended before it made a connection. Unless it crashed it ended with a fatal error. -/
structure Unstarted (execution : Execution σ) : Prop where
  no_connections : execution.connections = []
  no_result : ∀ result, execution.fate ≠ .returned (.ok result)
  fatal : ∀ e, execution.fate = .returned (.error e) → e.isFatal = true

/-- A run that crashed at once did not start. -/
theorem Unstarted.of_crashed (message : String) :
    Unstarted (⟨.crashed message, []⟩ : Execution σ) where
  no_connections := rfl
  no_result := fun _ h => nomatch h
  fatal := fun _ h => nomatch h

/-- A run that ended at once with a fatal error did not start. -/
theorem Unstarted.of_error {e : Error} (hfatal : e.isFatal = true) :
    Unstarted (⟨.returned (.error e), []⟩ : Execution σ) where
  no_connections := rfl
  no_result := fun _ h => nomatch h
  fatal := by
    intro e' h
    obtain rfl := Except.error.inj (Fate.returned.inj h)
    exact hfatal

/-- A run whose parts are not there, or that has no room for a value, does not start. -/
theorem execute_of_not_ready
    (h : ∀ workload setup, Ready files config workload setup →
      ¬ config.valueSize ≤ Capacity.maxOctets) :
    Unstarted ((execute files config site occasion).run least).2 := by
  -- three things come before the first connection: checks, preparation and room for a value
  unfold execute
  cases hvalid : config.validate with
  | error fault => exact .of_error (isFatal_of_validate hvalid)
  | ok _ =>
    simp only [Logging.run_bind]
    cases hprepare : ((prepare files config).run least).2 with
    | crashed message => exact .of_crashed message
    | returned result =>
      cases result with
      | error cause => exact .of_error (isFatal_of_prepare hprepare)
      | ok parts =>
        obtain ⟨hroom, hprepared⟩ := prepare_eq_ok_iff.1 hprepare
        exact absurd hroom (h parts.1 parts.2 ⟨hprepared, hvalid⟩)

/-- A run does not start, or its parts are there and it is carried out. -/
theorem execute_cases (files : Files) (config : Config) (site : Site σ) (occasion : Occasion)
    (least : Severity) :
    Unstarted ((execute files config site occasion).run least).2 ∨
      ∃ workload setup, Ready files config workload setup ∧
        ((execute files config site occasion).run least).2 =
          carriedOut config site occasion workload setup := by
  by_cases hready : ∃ workload setup, Ready files config workload setup ∧
      config.valueSize ≤ Capacity.maxOctets
  -- a run starts exactly if it is ready and has room for a value
  · obtain ⟨workload, setup, hready, hroom⟩ := hready
    exact .inr ⟨workload, setup, hready, execute_of_ready hready hroom⟩
  · exact .inl (execute_of_not_ready fun workload setup hparts hroom =>
      hready ⟨workload, setup, hparts, hroom⟩)

end PolicyReplay.Run
