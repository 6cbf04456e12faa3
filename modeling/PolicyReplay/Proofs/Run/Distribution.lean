import Mathlib.Data.List.Infix
import PolicyReplay.Proofs.Run.Result
import PolicyReplay.Proofs.Session.Lockstep

/-!
# The run trace is replayed as it is

The run trace is dealt to the workers, and each replays its share in order, as far as it gets. So
no command is lost, doubled or moved among the others: what a worker sends is the beginning of its
share, it is the whole share if the worker completes, and the workers together send the run trace
if all of them do.

## Key results

- `Course.workloadSent_isPrefix`: a session sends the beginning of its commands
- `served_of_completed`: a worker that completes has replayed its share
- `execute_distributes`: the workers of a run replay the run trace
-/

namespace PolicyReplay.Run

open Transcript

variable {σ : Type}

/-! ## What is sent of a workload -/

/-- The payloads that went out on a connection, besides the setup command, which comes first if
there is one, and the farewell. -/
def workloadSent (setup : Option Command) (steps : List Step) : List Bytes :=
  ((delivered steps).drop setup.toList.length).filter (· ≠ Frame.farewell)

/-- What is done in a round, without what is counted. -/
def Round.exchange (round : Round) : List Step :=
  [.sent round.payload (.ok ()), .received (.ok (some round.answer))]

/-- Payloads went out one after the other, each of them was answered by one frame before the next
went out, and at last leave was taken. -/
def Exchanged (payloads : List Bytes) (steps : List Step) : Prop :=
  ∃ rounds : List Round, rounds.map (·.payload) = payloads ∧
    transfers steps = rounds.flatMap Round.exchange ++ [.sent Frame.farewell (.ok ())]

/-- A share was replayed as a whole, and this is what was reported of it. -/
structure Served (setup : Option Command) (share : List Command) (steps : List Step)
    (report : WorkerReport) : Prop where
  sent : workloadSent setup steps = share.map Command.bytes
  answered : Exchanged (requests setup share) steps
  counted : report.latency.count = share.length

section Courses

variable {setup : Option Command} {commands : List Command} {steps : List Step}
  {fate : Fate (Except Error Latency)}

/-- The payloads of a plan that are neither the setup command nor the farewell are the commands. -/
theorem workload_of_plan (setup : Option Command)
    (hcommands : ∀ command ∈ commands, command.bytes ≠ Frame.farewell) :
    ((plan setup commands).drop setup.toList.length).filter (· ≠ Frame.farewell) =
      commands.map Command.bytes := by
  -- no command is the farewell, so none of them is left out with it
  have hkept : (commands.map Command.bytes).filter (· ≠ Frame.farewell) =
      commands.map Command.bytes := by
    refine List.filter_eq_self.2 fun payload hpayload => ?_
    obtain ⟨command, hcommand, rfl⟩ := List.mem_map.1 hpayload
    exact decide_eq_true (hcommands command hcommand)
  have hsetup : (setup.toList.map Command.bytes).length = setup.toList.length := List.length_map _
  rw [plan, requests, List.map_append, List.append_assoc, ← hsetup, List.drop_left,
    List.filter_append, hkept]
  simp

/-- A session sends the beginning of its commands. -/
theorem Course.workloadSent_isPrefix (h : Course setup commands steps fate)
    (hcommands : ∀ command ∈ commands, command.bytes ≠ Frame.farewell) :
    workloadSent setup steps <+: commands.map Command.bytes := by
  -- both what is sent and what is planned lose the setup command and the farewell
  rw [← workload_of_plan setup hcommands]
  exact (h.delivered_prefix.drop _).filter _

/-- A session with a result sends all of its commands. -/
theorem Course.workloadSent_eq {latency : Latency}
    (h : Course setup commands steps (.returned (.ok latency)))
    (hcommands : ∀ command ∈ commands, command.bytes ≠ Frame.farewell) :
    workloadSent setup steps = commands.map Command.bytes := by
  rw [workloadSent, h.replayed.sent, workload_of_plan setup hcommands]

/-- In rounds payloads and answers take turns. -/
theorem transfers_rounds (rounds : List Round) :
    transfers (roundSteps rounds) = rounds.flatMap Round.exchange := by
  -- by induction on the rounds
  induction rounds with
  | nil => rfl
  | cons round rounds ih => rw [roundSteps_cons, transfers_append, ih]; rfl

/-- A session with a result has exchanged its requests for answers. -/
theorem Course.exchanged {latency : Latency}
    (h : Course setup commands steps (.returned (.ok latency))) :
    Exchanged (requests setup commands) steps := by
  -- of the courses with a result there is one, which ends in taking leave
  generalize hfate : Fate.returned (Except.ok latency) = fate at h
  cases h with
  | parted rounds measured closing haccepted hpayloads hcount =>
    exact ⟨rounds, hpayloads, by simp [transfers_rounds]⟩
  | _ => exact nomatch hfate

end Courses

/-- What is counted when a session is over is not sent. -/
theorem workloadSent_append_counted (setup : Option Command) (steps : List Step)
    (counted : List Tally) :
    workloadSent setup (steps ++ counted.map .counted) = workloadSent setup steps := by
  rw [workloadSent, delivered_append, delivered_map_counted, List.append_nil, workloadSent]

/-- A connection that hosts a session sends the beginning of its commands. -/
theorem Hosts.workloadSent_isPrefix {setup : Option Command} {commands : List Command}
    {steps : List Step} (h : Hosts setup commands steps)
    (hcommands : ∀ command ∈ commands, command.bytes ≠ Frame.farewell) :
    workloadSent setup steps <+: commands.map Command.bytes := by
  obtain ⟨first, fate, counted, hcourse, rfl⟩ := h
  rw [workloadSent_append_counted]
  exact hcourse.workloadSent_isPrefix hcommands

/-! ## Workers and their shares -/

/-- A worker that completes had a session with a result, after which it only counts. -/
theorem course_of_completed {site : Site σ} {setup : Option Command} {share : List Command}
    {id : Nat} {report : WorkerReport}
    (h : (attendance site setup share id).outcome = .completed report) :
    ∃ first, ∃ counted : List Tally, (attendance site setup share id).connection.steps =
        first ++ counted.map .counted ∧
      Course setup share first (.returned (.ok report.latency)) ∧ report.worker = id := by
  -- a worker completes if its session has a result
  obtain ⟨steps, fate, hcourse, hsteps, houtcome, -⟩ := attendance_course site setup share id
  rw [houtcome] at h
  cases fate with
  | crashed message => cases h
  | returned result =>
    cases result with
    | error e => cases h
    | ok latency =>
      obtain rfl : ⟨id, latency⟩ = report := Outcome.completed.inj h
      exact ⟨steps, _, hsteps, hcourse, rfl⟩

/-- A worker that completes has replayed its share. -/
theorem served_of_completed {site : Site σ} {setup : Option Command} {share : List Command}
    {id : Nat} {report : WorkerReport}
    (hshare : ∀ command ∈ share, command.bytes ≠ Frame.farewell)
    (h : (attendance site setup share id).outcome = .completed report) :
    Served setup share (attendance site setup share id).connection.steps report := by
  obtain ⟨first, counted, hsteps, hcourse, -⟩ := course_of_completed h
  rw [hsteps]
  constructor
  case sent => rw [workloadSent_append_counted, hcourse.workloadSent_eq hshare]
  case answered =>
    obtain ⟨rounds, hpayloads, htransfers⟩ := hcourse.exchanged
    exact ⟨rounds, hpayloads, by
      rw [transfers_append, transfers_map_counted, List.append_nil, htransfers]⟩
  case counted => exact hcourse.count_eq

/-- Workers that all complete send what is in their shares. -/
theorem flatMap_workloadSent {site : Site σ} {setup : Option Command} {id : Nat}
    {shares : List (List Command)}
    (hshares : ∀ command ∈ shares.flatten, command.bytes ≠ Frame.farewell)
    (hcompleted : ∀ attended ∈ attendances site setup id shares,
      attended.outcome.isFailed = false) :
    ((attendances site setup id shares).flatMap fun attended =>
        workloadSent setup attended.connection.steps) =
      shares.flatten.map Command.bytes ∧
      (requestCounts ((attendances site setup id shares).map (·.outcome))).sum =
        shares.flatten.length := by
  -- by induction on the workers, each with its share
  induction shares generalizing id with
  | nil => exact ⟨rfl, rfl⟩
  | cons share rest ih =>
    rw [attendances_cons] at hcompleted ⊢
    have hfirst := hcompleted _ List.mem_cons_self
    obtain ⟨hsent, hcounts⟩ := ih
      (fun command hcommand => hshares command (List.mem_append_right share hcommand))
      (fun attended hattended => hcompleted attended (List.mem_cons_of_mem _ hattended))
    cases houtcome : (attendance site setup share id).outcome with
    | failed worker code reason => rw [houtcome] at hfirst; exact nomatch hfirst
    | completed report =>
      have hserved := served_of_completed
        (fun command hcommand => hshares command (List.mem_append_left rest.flatten hcommand))
        houtcome
      constructor
      · rw [List.flatMap_cons, hserved.sent, hsent, List.flatten_cons, List.map_append]
      · rw [List.map_cons, houtcome, requestCounts_completed, List.sum_cons, hserved.counted,
          hcounts, List.flatten_cons, List.length_append]

/-! ## Whole runs -/

/-- The shares of the workers together are the run trace. -/
theorem flatten_sharesOf_perm {files : Files} {config : Config} {workload : Workload}
    {setup : Option Command} (hready : Ready files config workload setup) :
    (sharesOf config workload).flatten.Perm workload.run :=
  RoundRobin.flatten_deal_perm (clients_pos_of_validate hready.valid) workload.run

/-- A command that was compiled is not taken for the farewell, in whichever share it is. -/
theorem ne_farewell_of_mem_shares {files : Files} {config : Config} {workload : Workload}
    {setup : Option Command} (hready : Ready files config workload setup) :
    ∀ command ∈ (sharesOf config workload).flatten, command.bytes ≠ Frame.farewell := by
  intro command hcommand
  obtain ⟨line, hline⟩ :=
    hready.run.compiled command ((flatten_sharesOf_perm hready).mem_iff.1 hcommand)
  exact compiled_ne_farewell hline

/-- The workers of a run replay the run trace. What a worker sends of it is the beginning of the
commands at every so many places, and all of these, each answered by one frame, if it completes;
and if all workers complete, they send the run trace together, each command once. -/
theorem execute_distributes (files : Files) (config : Config) (site : Site σ)
    (occasion : Occasion) (least : Severity) {workload : Workload} {setup : Option Command}
    (hready : Ready files config workload setup) :
    let execution := ((execute files config site occasion).run least).2
    (∀ id connection, execution.connections[id + 1]? = some connection →
        ∃ share : List Command, (∀ k, share[k]? = workload.run[id + k * config.clients]?) ∧
          workloadSent setup connection.steps <+: share.map Command.bytes ∧
          ∀ result report, execution.fate = .returned (.ok result) →
            result.outcomes[id]? = some (.completed report) →
              Served setup share connection.steps report) ∧
      ∀ result, execution.fate = .returned (.ok result) →
        execution.connections.length = config.clients + 1 ∧
        result.outcomes.length = config.clients ∧
        ((∀ outcome ∈ result.outcomes, outcome.isFailed = false) →
          (execution.connections.tail.flatMap fun connection =>
              workloadSent setup connection.steps).Perm (workload.run.map Command.bytes) ∧
            result.aggregate.requests = result.runCommands ∧
            result.runCommands = workload.run.length) := by
  intro execution
  have hdealt := flatten_sharesOf_perm hready
  have hshares := ne_farewell_of_mem_shares hready
  refine ⟨fun id connection hconnection => ?_, fun result hresult => ?_⟩
  -- the connection behind that of the load phase is that of a worker, whose share was dealt to it
  · obtain ⟨share, hshare, rfl⟩ := share_of_connection hready hconnection
    have hcommands : ∀ command ∈ share, command.bytes ≠ Frame.farewell := fun command hcommand =>
      hshares command (List.mem_flatten_of_mem (List.mem_of_getElem? hshare) hcommand)
    refine ⟨share, RoundRobin.getElem?_of_deal hshare,
      (hosts_attendance site setup share id).workloadSent_isPrefix hcommands, ?_⟩
    -- the outcome in the place of the worker is its own
    intro result report hresult hcompleted
    rw [(Concluded.of_ready hready hresult).outcomes_eq, List.getElem?_map, attendancesOf,
      getElem?_attendances, hshare] at hcompleted
    exact served_of_completed hcommands (Option.some.inj hcompleted)
  · have hconcluded := Concluded.of_ready hready hresult
    refine ⟨?_, hconcluded.length_outcomes, fun hcompleted => ?_⟩
    · rw [show execution.connections = _ from hconcluded.connected, List.length_cons,
        List.length_map, length_attendancesOf]
    · obtain ⟨hsent, hcounts⟩ :=
        flatMap_workloadSent hshares (hconcluded.isFailed_eq_false hcompleted)
      -- the requests of the aggregate are those that the workers report, and each reports its share
      obtain ⟨means, mean, -, -, -, haggregate⟩ := ofOutcomes_eq_ok_iff.1 hconcluded.aggregated
      have hrun : result.runCommands = workload.run.length := by rw [hconcluded.told]; rfl
      refine ⟨?_, ?_, hrun⟩
      · rw [show execution.connections = _ from hconcluded.connected, List.tail_cons,
          List.flatMap_map, attendancesOf, hsent]
        exact hdealt.map Command.bytes
      · rw [hrun, ← hdealt.length_eq, ← hcounts, haggregate, hconcluded.outcomes_eq, attendancesOf]

/-- A run trace of three commands and two workers, the second of which is hung up on. -/
theorem execute_distributes_hanging_up :
    let files : Files := {
      read := fun path => .ok (Text.encode
        (if path = "t/w_load" then "query(get(\"a\"))"
          else "query(get(\"b\"))\nquery(get(\"c\"))\nquery(get(\"d\"))").toList)
      list := fun _ => .ok []
      write := fun _ _ => .ok () }
    let config : Config := { workload := "w", traceFolder := "t", clients := 2, valueSize := 3 }
    let workload : Workload := ⟨"w", [⟨"get a"⟩], [⟨"get b"⟩, ⟨"get c"⟩, ⟨"get d"⟩]⟩
    let site : Site Nat := {
      endpoint := "mock://controller"
      peer := {
        connect := fun n => (.opened, n)
        send := fun _ n => (.ok (), n)
        receive := fun n => (.ok (if n = 2 then none else some []), n)
        close := fun n => (.ok (), n)
        clock := fun n => (.zero, n) }
      opening := id }
    let occasion : Occasion := ⟨"r1", ⟨0, 0⟩, .zero, .zero⟩
    let execution := ((execute files config site occasion).run .info).2
    Ready files config workload none ∧
      ∃ load first second, execution.connections = [load, first, second] ∧
        workloadSent none first.steps <+: [⟨"get b"⟩, ⟨"get d"⟩].map Command.bytes ∧
        workloadSent none second.steps <+: [⟨"get c"⟩].map Command.bytes := by
  intro files config workload site occasion execution
  have hprepared : ((prepare files config).run .info).2 = .returned (.ok (workload, none)) := by
    decide +kernel
  have hready : Ready files config workload none :=
    ⟨(prepare_eq_ok_iff.1 hprepared).2, Except.eq_ok_of_toOption (by decide +kernel)⟩
  have hexecution : execution = carriedOut config site occasion workload none :=
    execute_of_ready hready (by decide)
  have hlength : execution.connections.length = 3 := by
    rw [hexecution]
    decide +kernel
  obtain ⟨load, first, second, hconnections⟩ := List.length_eq_three.1 hlength
  have hshares := (execute_distributes files config site occasion .info hready).1
  -- each share is given by its items, which are those of the list beside it
  have hshare : ∀ id connection, execution.connections[id + 1]? = some connection →
      ∀ commands : List Command, (∀ k, commands[k]? = workload.run[id + k * 2]?) →
        workloadSent none connection.steps <+: commands.map Command.bytes := by
    intro id connection hconnection commands hcommands
    obtain ⟨share, hitems, hprefix, -⟩ := hshares id connection hconnection
    rwa [List.ext_getElem? fun k => (hitems k).trans (hcommands k).symm] at hprefix
  refine ⟨hready, load, first, second, hconnections, hshare 0 first ?_ _ ?_,
    hshare 1 second ?_ _ ?_⟩
  · rw [hconnections]
    rfl
  · rintro (_ | _ | k)
    · rfl
    · rfl
    · rw [List.getElem?_eq_none (by simp), List.getElem?_eq_none (by simp [workload]; omega)]
  · rw [hconnections]
    rfl
  · rintro (_ | k)
    · rfl
    · rw [List.getElem?_eq_none (by simp), List.getElem?_eq_none (by simp [workload]; omega)]

end PolicyReplay.Run
