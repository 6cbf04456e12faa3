import PolicyReplay.Proofs.Run.Isolation
import PolicyReplay.Proofs.Session.Telling

/-!
# Runs along a schedule

`execute` lets its workers attend one after the other. Here the workers of a run move as a schedule
says, with what is logged on the way, and whatever is left when the schedule is over is done in the
order of the workers. With no schedule at all this is `execute`, and a schedule after which no
worker is left is an interleaving like any other.

## Key results

- `attendAlong_nil`, `executeAlong_nil`: without a schedule, a run is as it is
- `run_follow_snd`: following a schedule moves the workers as they move without a log
- `filtered_executeAlong`: a run logs and does not look at the log, along every schedule
-/

namespace PolicyReplay

variable {σ α : Type}

/-- The entry that a task logs with its next move, if it logs one. -/
def Task.due? (task : Task σ α) : Option Log.Entry :=
  match task.pending, task.rest with
  | [], .log entry _ => some entry
  | _, _ => none

namespace Run

/-! ## Workers along a schedule -/

/-- What is logged when something happens. -/
def Crew.log (crew : Crew σ) : Move → Logging Unit
  | .tick _ => return ()
  | .work id =>
    match crew.tasks[id]?.bind Task.due? with
    | none => return ()
    | some entry => Logging.write entry
  | .join =>
    match crew.tasks[crew.joined.length]?.bind Task.fate? with
    | none => return ()
    | some fate => (join crew.joined.length fate).map fun _ => ()

/-- Let things happen one after the other, with what is logged meanwhile. -/
def Crew.follow (peer : Peer σ) (crew : Crew σ) : List Move → Logging (Crew σ)
  | [] => return crew
  | next :: moves => do
    crew.log next
    follow peer (crew.move peer next) moves

/-- The log has no part in what happens. -/
theorem Crew.run_follow_snd (peer : Peer σ) (crew : Crew σ) (moves : List Move)
    (least : Severity) : ((crew.follow peer moves).run least).2 = crew.run peer moves := by
  -- by induction on the moves, from whatever crew those before them have left
  induction moves generalizing crew with
  | nil => rfl
  | cons next moves ih => exact ih (crew.move peer next)

/-- Let a worker go on to its end, and take note of it unless that has been done. -/
def attendRest (peer : Peer σ) (id : Nat) (noted : Bool)
    (task : Task σ (Except Error WorkerReport)) : Logging (Attendance σ) := do
  let account ← task.rest.conduct peer task.state
  let connection : Connection σ := ⟨task.steps ++ account.steps, account.state⟩
  if noted then return ⟨outcomeOf id account.fate, connection, afterwardsOf account.fate⟩
  else
    let (outcome, afterwards) ← join id account.fate
    return ⟨outcome, connection, afterwards⟩

/-- Let workers go on to their ends one after the other, the first of them with the number `id`,
where note has been taken of the first `noted` workers of the run. -/
def attendRests (peer : Peer σ) (noted : Nat) (id : Nat) :
    List (Task σ (Except Error WorkerReport)) → Logging (List (Attendance σ))
  | [] => return []
  | task :: rest => do
    let first ← attendRest peer id (id < noted) task
    let others ← attendRests peer noted (id + 1) rest
    return first :: others

/-- Let workers replay their shares along a schedule. -/
def attendAlong (site : Site σ) (setup : Option Command) (before : Counters)
    (shares : List (List Command)) (moves : List Move) : Logging (List (Attendance σ)) := do
  let crew ← (Crew.start site setup shares before).follow site.peer moves
  attendRests site.peer crew.joined.length 0 crew.tasks

/-- Without a schedule, the workers attend one after the other. -/
theorem attendAlong_nil (site : Site σ) (setup : Option Command) (before : Counters)
    (shares : List (List Command)) :
    attendAlong site setup before shares [] = attendAll site setup 0 shares := by
  -- the workers are numbered from zero, but those behind the first of them from one
  have hrests : ∀ id, attendRests site.peer 0 id
      ((shares.zipIdx id).map fun placed =>
        .start (worker site.endpoint placed.2 setup placed.1) (site.opening (placed.2 + 1))) =
      attendAll site setup id shares := by
    induction shares with
    | nil => intro id; rfl
    | cons share rest ih =>
      intro id
      -- no note has been taken of any worker, so it is taken when this one ends
      have hfirst : attendRest site.peer id (id < 0)
          (.start (worker site.endpoint id setup share) (site.opening (id + 1))) =
          attend site id setup share (site.opening (id + 1)) := by
        rw [decide_eq_false (Nat.not_lt_zero id)]
        rfl
      rw [List.zipIdx_cons, List.map_cons, attendRests, hfirst, ih, attendAll]
  exact hrests 0

/-! ## Runs along a schedule -/

/-- The run phase and the end of a run whose workers attend in a given way. -/
def phaseWith (config : Config) (site : Site σ) (occasion : Occasion) (workload : Workload)
    (loadConnection : Connection σ) (attending : Logging (List (Attendance σ))) :
    Logging (Execution σ) := do
  let scope := runScope config workload.run
  Logging.write scope.opened
  let attended ← attending
  let connections := loadConnection :: attended.map (·.connection)
  match Aggregate.ofOutcomes (attended.map (·.outcome)) occasion.runElapsed with
  | .error _ =>
    Logging.write scope.abandoned
    return ⟨.crashed Duration.Overflow.message, connections⟩
  | .ok aggregate =>
    Logging.write (scope.completed occasion.runElapsed.millis
      [("requests", toString aggregate.requests), ("workers_failed", toString aggregate.failed)])
    let mean := match aggregate.mean with
      | some mean => toString mean.micros
      | none => "none"
    Logging.event .runComplete
      [("run_id", occasion.runId), ("mean_latency_us", mean),
        ("elapsed_ms", toString aggregate.elapsed.millis)]
    return ⟨.returned (.ok (resultOf site occasion workload loadConnection attended aggregate)),
      connections⟩

/-- The run phase is the one in which the workers attend one after the other. -/
theorem runPhase_eq (config : Config) (site : Site σ) (occasion : Occasion) (workload : Workload)
    (setup : Option Command) (loadConnection : Connection σ) (shares : List (List Command)) :
    runPhase config site occasion workload setup loadConnection shares =
      phaseWith config site occasion workload loadConnection (attendAll site setup 0 shares) :=
  rfl

/-- Execute a run whose workers move as a schedule says. -/
def executeAlong (files : Files) (config : Config) (site : Site σ) (occasion : Occasion)
    (moves : List Move) : Logging (Execution σ) := do
  match config.validate with
  | .error e => return ⟨.returned (.error e), []⟩
  | .ok () =>
    Logging.event .runStart
      [("run_id", occasion.runId), ("workload", config.workload),
        ("clients", toString config.clients), ("endpoint", site.endpoint)]
    match ← prepare files config with
    | .crashed message => return ⟨.crashed message, []⟩
    | .returned (.error e) => return ⟨.returned (.error e), []⟩
    | .returned (.ok (workload, setup)) =>
      let loading := loadPhase site.endpoint occasion.loadElapsed setup workload.load
      let account ← loading.conduct site.peer (site.opening 0)
      let connection := Connection.ofAccount account
      match account.fate with
      | .crashed message =>
        Logging.write (loadScope site.endpoint workload.load).abandoned
        return ⟨.crashed message, [connection]⟩
      | .returned (.error e) => return ⟨.returned (.error e), [connection]⟩
      | .returned (.ok ()) =>
        match RoundRobin.layOut config.clients workload.run with
        | .crashed message => return ⟨.crashed message, [connection]⟩
        | .returned shares =>
          phaseWith config site occasion workload connection
            (attendAlong site setup (.ofTallies connection.tallies) shares moves)

/-- Without a schedule, a run is executed as it is. -/
theorem executeAlong_nil (files : Files) (config : Config) (site : Site σ) (occasion : Occasion) :
    executeAlong files config site occasion [] = execute files config site occasion := by
  unfold executeAlong
  -- the two runs differ only in how the workers attend
  simp only [attendAlong_nil, ← runPhase_eq]
  rfl

/-! ## What a log has no part in -/

open Log.Entry (Any Quiet quiet_of_mem)

/-- Joining a worker logs and does not look at the log. -/
theorem filtered_join (id : Nat) (fate : Fate (Except Error WorkerReport)) :
    (join id fate).Filtered Any := by
  cases fate with
  | crashed message => exact (Logging.Filtered.event trivial).bind fun _ => .pure _
  | returned result =>
    cases result with
    | error e => exact .pure _
    | ok report => exact .pure _

/-- What is logged when something happens does not look at the log. -/
theorem Crew.filtered_log (crew : Crew σ) (next : Move) : (crew.log next).Filtered Any := by
  cases next with
  | tick time => exact .pure ()
  -- a worker logs at its move if the next thing it does is to log
  | work id =>
    simp only [log]
    cases crew.tasks[id]?.bind Task.due? with
    | none => exact .pure ()
    | some entry => exact .write trivial
  | join =>
    -- note is taken of a worker only if it has ended
    simp only [log]
    cases crew.tasks[crew.joined.length]?.bind Task.fate? with
    | none => exact .pure ()
    | some fate => exact (filtered_join _ fate).map _

/-- Following a schedule logs and does not look at the log. -/
theorem Crew.filtered_follow (peer : Peer σ) (crew : Crew σ) (moves : List Move) :
    (crew.follow peer moves).Filtered Any := by
  -- by induction on the moves: each logs, and leaves a crew that does not depend on the log
  induction moves generalizing crew with
  | nil => exact .pure crew
  | cons next moves ih => exact (crew.filtered_log next).bind fun _ => ih _

/-- A worker that goes on to its end logs and does not look at the log. -/
theorem filtered_attendRest (peer : Peer σ) (id : Nat) (noted : Bool)
    (task : Task σ (Except Error WorkerReport)) : (attendRest peer id noted task).Filtered Any := by
  refine (Dialogue.filtered_conduct ..).bind fun account => ?_
  cases noted with
  | true => exact .pure _
  | false => exact (filtered_join id account.fate).bind fun _ => .pure _

/-- Workers that go on to their ends log and do not look at the log. -/
theorem filtered_attendRests (peer : Peer σ) (noted id : Nat)
    (tasks : List (Task σ (Except Error WorkerReport))) :
    (attendRests peer noted id tasks).Filtered Any := by
  -- by induction on the workers that are left
  induction tasks generalizing id with
  | nil => exact .pure []
  | cons task rest ih =>
    exact (filtered_attendRest ..).bind fun _ => (ih (id + 1)).bind fun _ => .pure _

/-- Workers that replay along a schedule log and do not look at the log. -/
theorem filtered_attendAlong (site : Site σ) (setup : Option Command) (before : Counters)
    (shares : List (List Command)) (moves : List Move) :
    (attendAlong site setup before shares moves).Filtered Any :=
  (Crew.filtered_follow ..).bind fun _ => filtered_attendRests ..

/-- The run phase logs and does not look at the log if its workers do not. -/
theorem filtered_phaseWith (config : Config) (site : Site σ) (occasion : Occasion)
    (workload : Workload) (loadConnection : Connection σ)
    {attending : Logging (List (Attendance σ))} (h : attending.Filtered Any) :
    (phaseWith config site occasion workload loadConnection attending).Filtered Any := by
  refine (Logging.Filtered.write trivial).bind fun _ => h.bind fun attended => ?_
  dsimp only
  -- the aggregate decides how the phase is closed, and the log has no part in it
  split
  · exact (Logging.Filtered.write trivial).bind fun _ => .pure _
  · exact (Logging.Filtered.write trivial).bind fun _ =>
      (Logging.Filtered.event trivial).bind fun _ => .pure _

/-- Preparation logs what came of it, and does not look at the log. -/
theorem filtered_prepare (files : Files) (config : Config) :
    (prepare files config).Filtered Quiet := by
  -- what is read from the files decides what is logged, and not the other way round
  have hworkload : (prepareWorkload files config).Filtered Quiet := by
    unfold prepareWorkload
    split
    · exact .pure _
    · exact (Logging.Filtered.event (quiet_of_mem (by decide))).bind fun _ => .pure _
    · exact (Logging.Filtered.event (quiet_of_mem (by decide))).bind fun _ => .pure _
  have hsetup (document : Json) : (Setup.compileLogged document).Filtered Quiet := by
    unfold Setup.compileLogged
    dsimp only
    split
    · exact (Logging.Filtered.event (quiet_of_mem (by decide))).bind fun _ => .pure _
    · exact (Logging.Filtered.event (quiet_of_mem (by decide))).bind fun _ => .pure _
  have hpolicy : (preparePolicy files config).Filtered Quiet := by
    unfold preparePolicy
    split
    · exact .pure _
    · split
      · exact .pure _
      · refine (hsetup _).bind fun result => ?_
        split
        · exact .pure _
        · exact .pure _
  refine hworkload.bind fun assembled => ?_
  split
  · exact .pure _
  · exact .pure _
  · refine hpolicy.bind fun compiled => ?_
    split
    · exact .pure _
    · exact .pure _

/-- A run logs and does not look at the log, whatever there is in the files, whatever the peer
answers, and in whatever order the workers move. -/
theorem filtered_executeAlong (files : Files) (config : Config) (site : Site σ)
    (occasion : Occasion) (moves : List Move) :
    (executeAlong files config site occasion moves).Filtered Any := by
  unfold executeAlong
  -- one case for each place where a run can end
  split
  · exact .pure _
  · refine (Logging.Filtered.event trivial).bind fun _ => ?_
    refine ((filtered_prepare files config).mono fun _ _ => trivial).bind fun prepared => ?_
    split
    · exact .pure _
    · exact .pure _
    · refine (Dialogue.filtered_conduct ..).bind fun account => ?_
      dsimp only
      split
      · exact (Logging.Filtered.write trivial).bind fun _ => .pure _
      · exact .pure _
      · split
        · exact .pure _
        · exact filtered_phaseWith _ _ _ _ _ (filtered_attendAlong ..)

/-- Logging is read-only, and what is written is chosen by severity and by nothing else. A run comes
to the same at every least severity, on the same connections, and writes those of its entries that
are grave enough, in order. In a log where the level changes, the level that holds is the last one
that was asked for by its name, and a text that names none changes nothing. -/
theorem execute_filtered (files : Files) (config : Config) (site : Site σ) (occasion : Occasion) :
    executeAlong files config site occasion [] = execute files config site occasion ∧
    (∀ moves least least',
      ((executeAlong files config site occasion moves).run least).2 =
        ((executeAlong files config site occasion moves).run least').2) ∧
    (∀ moves least,
      ((executeAlong files config site occasion moves).run least).1 =
        ((executeAlong files config site occasion moves).run .trace).1.filter
          (least ≤ ·.severity)) ∧
    (∀ actions entry rest,
      (Log.replay Log.defaultLevel (actions ++ .write entry :: rest))[actions.length]? =
        some (if Log.levelAfter .info actions ≤ entry.severity then [entry] else [])) ∧
    (∀ actions text rest,
      (Log.replay Log.defaultLevel (actions ++ .setLevel text :: rest))[actions.length]? =
        some []) ∧
    ∀ actions text e rest, Severity.parse text = .error e →
      (Log.replay Log.defaultLevel (actions ++ .setLevel text :: rest)).flatten =
        (Log.replay Log.defaultLevel (actions ++ rest)).flatten := by
  -- all that is said of a run holds as it is filtered, and what is said of a log is about replays
  have hrun := filtered_executeAlong files config site occasion
  refine ⟨executeAlong_nil files config site occasion, fun moves least least' => ?_,
    fun moves => (hrun moves).entries, fun actions entry rest => ?_, fun actions text rest => ?_,
    fun actions text e rest h => Log.replay_unknown h _ actions rest⟩
  · rw [(hrun moves).result least, (hrun moves).result least']
  · exact Log.getElem?_replay _ actions _ rest
  · exact Log.getElem?_replay _ actions _ rest

/-- Two workers take turns, and the second one ends in opening its connection. Of what there is to
write only its failure is a warning. -/
theorem execute_filtered_warning :
    let files : Files := {
      read := fun path => .ok (Text.encode
        (if path = "t/w_load" then "query(get(\"a\"))" else "query(get(\"b\"))").toList)
      list := fun _ => .ok []
      write := fun _ _ => .ok () }
    let config : Config := { workload := "w", traceFolder := "t", clients := 2, valueSize := 3 }
    let site : Site Nat := {
      endpoint := "mock://controller"
      peer := {
        connect := fun n => (if n = 2 then .crashed "no descriptors" else .opened, n)
        send := fun _ n => (.ok (), n)
        receive := fun n => (.ok (some []), n)
        close := fun n => (.ok (), n)
        clock := fun n => (.zero, n) }
      opening := id }
    let run := executeAlong files config site ⟨"r1", ⟨0, 0⟩, .zero, .zero⟩
      [.work 0, .work 1, .work 0, .join]
    let failure := Log.Event.workerFailed.entry [("worker", "1"), ("code", crashCode),
      ("reason", crashReason 1 "no descriptors")]
    (run.run .warn).2 = (run.run .info).2 ∧ (run.run .warn).1 = [failure] ∧
      (Log.replay .info ([.write failure] ++ .setLevel "loud" :: [.write failure])).flatten =
        [failure, failure] := by
  intro files config site run failure
  obtain ⟨-, hresult, hentries, -, -, hunknown⟩ :=
    execute_filtered files config site ⟨"r1", ⟨0, 0⟩, .zero, .zero⟩
  -- at the least severity everything is written, and one entry of that is a warning
  have hchosen : (run.run .trace).1.filter (Severity.warn ≤ ·.severity) = [failure] := by
    decide +kernel
  refine ⟨hresult _ _ _, (hentries _ .warn).trans hchosen, ?_⟩
  rw [show Severity.info = Log.defaultLevel from rfl,
    hunknown [.write failure] "loud" ⟨"loud"⟩ [.write failure] (by decide +kernel)]
  rfl

end Run
end PolicyReplay
