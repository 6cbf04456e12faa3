import Mathlib.Algebra.GroupWithZero.Nat
import PolicyReplay.Proofs.RoundRobin
import PolicyReplay.Proofs.Run.Phases

/-!
# The stages of a run

A run goes through its stages in order and does not enter one before the one before it has
succeeded: first everything is compiled, then the load trace is replayed on the first connection,
and only then do the workers connect. From then on nothing that happens on a connection is an error
of the run.

## Key results

- `Course.isFatal_eq_false`: what ends a session does not end a run
- `Course.replayed`: a session with a result was carried through to its end
- `ofOutcomes_eq_ok`: the outcomes of workers have an aggregate if what they measured can be told
- `execute_staged`: the stages of every run
-/

namespace PolicyReplay.Run

open Transcript

variable {σ : Type}

/-- All that is done in a run, in order, on whichever connection. -/
def Execution.timeline (execution : Execution σ) : List Step :=
  execution.connections.flatMap (·.steps)

/-! ## Sessions as parts of a run -/

section Courses

variable {setup : Option Command} {commands : List Command} {steps : List Step}
  {fate : Fate (Except Error Latency)}

/-- A session tries once to open a connection. -/
theorem Course.connects_eq_one (h : Course setup commands steps fate) : connects steps = 1 := by
  cases h with
  | refused e => rfl
  | aborted message => rfl
  | broken rounds payload left last e closing haccepted hpayloads hlast =>
    -- a round trip that breaks is midway, so it opens nothing
    simp [connects_eq_zero hlast.midway]
  | rejected command answer closing hsetup hanswer => rfl
  | overflowed rounds left haccepted hpayloads =>
    simp
  | stranded rounds e haccepted hpayloads =>
    simp
  | parted rounds latency closing haccepted hpayloads hcount =>
    simp

/-- A connection that hosts a session is tried to be opened once. -/
theorem Hosts.connects_eq_one (h : Hosts setup commands steps) : connects steps = 1 := by
  obtain ⟨first, fate, tallies, hcourse, rfl⟩ := h
  have htallies : connects (tallies.map .counted) = 0 := by
    refine connects_eq_zero fun step hstep => ?_
    obtain ⟨tally, -, rfl⟩ := List.mem_map.1 hstep
    rfl
  rw [connects_append, hcourse.connects_eq_one, htallies]

/-- The whole plan of a session went out, each request was answered, and the connection was ended as
it should be. -/
structure Replayed (setup : Option Command) (commands : List Command) (steps : List Step) :
    Prop where
  sent : delivered steps = plan setup commands
  answered : (frames steps).length = (requests setup commands).length
  closed : ∃ before, steps = before ++ [.closed (.ok ())]

/-- A session with a result was carried through to its end. -/
theorem Course.replayed {latency : Latency}
    (h : Course setup commands steps (.returned (.ok latency))) :
    Replayed setup commands steps := by
  generalize hfate : Fate.returned (Except.ok latency) = fate at h
  cases h with
  | parted rounds measured closing haccepted hpayloads hcount =>
    cases closing with
    | error e => exact nomatch hfate
    | ok _ =>
      -- the rounds have the payloads of the requests, one answer to each
      refine ⟨?_, ?_, .connected .opened :: roundSteps rounds ++
        [.sent Frame.farewell (.ok ()), .counted (.frameSent Frame.farewell.length)], by simp⟩
      · rw [plan, ← hpayloads]
        simp
      · rw [← hpayloads]
        simp
  | _ => exact nomatch hfate

/-- What ends a session does not end a run. -/
theorem Course.isFatal_eq_false {e : Error}
    (h : Course setup commands steps (.returned (.error e))) : e.isFatal = false := by
  generalize hfate : Fate.returned (Except.error e) = fate at h
  -- each course that ends with an error ends with one of the wire or with a rejection
  cases h with
  | refused cause =>
    obtain rfl := Except.error.inj (Fate.returned.inj hfate)
    rfl
  | broken rounds payload left last cause closing haccepted hpayloads hlast =>
    obtain rfl := Except.error.inj (Fate.returned.inj hfate)
    cases hlast <;> rfl
  | rejected command answer closing hsetup hanswer =>
    obtain rfl := Except.error.inj (Fate.returned.inj hfate)
    rfl
  | stranded rounds cause haccepted hpayloads =>
    obtain rfl := Except.error.inj (Fate.returned.inj hfate)
    rfl
  | parted rounds latency closing haccepted hpayloads hcount =>
    cases closing with
    | error cause =>
      obtain rfl := Except.error.inj (Fate.returned.inj hfate)
      rfl
    | ok _ => exact nomatch hfate
  | aborted message => exact nomatch hfate
  | overflowed rounds left haccepted hpayloads => exact nomatch hfate

end Courses

/-- Connections that each were tried to be opened once are as many as the attempts. -/
theorem connects_flatMap {connections : List (Connection σ)}
    (h : ∀ connection ∈ connections, connects connection.steps = 1) :
    connects (connections.flatMap (·.steps)) = connections.length := by
  -- by induction on the connections, each of which is tried once
  induction connections with
  | nil => rfl
  | cons connection rest ih =>
    rw [List.flatMap_cons, connects_append, h connection List.mem_cons_self,
      ih fun other hother => h other (List.mem_cons_of_mem _ hother), List.length_cons, Nat.add_comm]

/-- What a worker fails with does not end the run. -/
theorem isFatal_of_worker {peer : Peer σ} {endpoint : String} {id : Nat}
    {setup : Option Command} {commands : List Command} {s : σ} {e : Error}
    (h : ((worker endpoint id setup commands).account peer s).fate = .returned (.error e)) :
    e.isFatal = false := by
  -- the worker fails with the error of its session
  have hcourse := session_course peer endpoint (toString id) setup commands s
  rw [worker_account] at h
  generalize (session endpoint (toString id) setup commands).account peer s = talk at hcourse h
  obtain ⟨steps, s', fate⟩ := talk
  cases fate with
  | crashed message => cases h
  | returned result =>
    cases result with
    | ok latency => cases h
    | error cause =>
      obtain rfl := Except.error.inj (Fate.returned.inj h)
      exact hcourse.isFatal_eq_false

/-! ## The aggregate of a run -/

/-- The means of what the workers measured are durations, and so is the mean of those. -/
def Measurable (outcomes : List Outcome) : Prop :=
  ∃ means mean, Aggregate.means (outcomes.filterMap Outcome.report?) = .ok means ∧
    Aggregate.meanOf means = .ok mean

/-- How many requests the workers completed, for each that did. -/
def requestCounts (outcomes : List Outcome) : List Nat :=
  (outcomes.filterMap Outcome.report?).map (·.latency.count)

/-- A worker that completed gives the number of its requests. -/
@[simp] theorem requestCounts_completed (report : WorkerReport) (outcomes : List Outcome) :
    requestCounts (.completed report :: outcomes) =
      report.latency.count :: requestCounts outcomes := rfl

/-- A worker that failed gives none. -/
@[simp] theorem requestCounts_failed (worker : Nat) (code reason : String)
    (outcomes : List Outcome) :
    requestCounts (.failed worker code reason :: outcomes) = requestCounts outcomes := rfl

/-- Outcomes have an aggregate if what was measured can be told and the requests fit their word. -/
theorem ofOutcomes_eq_ok {outcomes : List Outcome} (elapsed : Duration)
    (hmeasurable : Measurable outcomes)
    (hrequests : (requestCounts outcomes).sum < Latency.countBound) :
    ∃ aggregate, Aggregate.ofOutcomes outcomes elapsed = .ok aggregate := by
  obtain ⟨means, mean, hmeans, hmean⟩ := hmeasurable
  -- the check that the requests fit their word is passed
  rw [requestCounts, List.sum_eq_foldl_nat] at hrequests
  simp only [Aggregate.ofOutcomes, Aggregate.total, hmeans, hmean, hrequests, ↓reduceIte, bind,
    Except.bind]
  exact ⟨_, rfl⟩

/-- The workers together complete no more requests than there are commands in their shares. -/
theorem sum_requestCounts_le (site : Site σ) (setup : Option Command) (id : Nat)
    (shares : List (List Command)) :
    (requestCounts ((attendances site setup id shares).map (·.outcome))).sum ≤
      shares.flatten.length := by
  induction shares generalizing id with
  | nil => exact Nat.le_refl 0
  | cons share rest ih =>
    have hrest := ih (id + 1)
    -- the first worker completes all of its share or reports nothing
    rw [attendances_cons, List.map_cons, List.flatten_cons, List.length_append]
    cases houtcome : (attendance site setup share id).outcome with
    | completed report =>
      have hcount := count_of_completed houtcome
      rw [requestCounts_completed, List.sum_cons, hcount]
      omega
    | failed worker code reason =>
      rw [requestCounts_failed]
      omega

/-! ## The stages -/

/-- The shares of the workers. -/
def sharesOf (config : Config) (workload : Workload) : List (List Command) :=
  RoundRobin.deal config.clients workload.run

/-- What a run comes to, by what its load phase comes to and, if that has a result, by the outcomes
of its workers. -/
structure Staged (config : Config) (workload : Workload) (setup : Option Command)
    (load : Account σ (Except Error Latency)) (outcomes : List Outcome)
    (execution : Execution σ) : Prop where
  /-- If the load phase fails, nothing else is connected, and the run fails with its cause. -/
  load_failed : ∀ cause, load.fate = .returned (.error cause) →
    execution.fate = .returned (.error (.loadPhase cause)) ∧ connects execution.timeline = 1
  /-- If the load phase crashes, nothing else is connected either. -/
  load_crashed : ∀ message, load.fate = .crashed message →
    execution.fate = .crashed message ∧ connects execution.timeline = 1
  /-- If the load phase has a result, it was carried through on the first connection, and after that
  each worker connects once. -/
  workers_connect : ∀ latency, load.fate = .returned (.ok latency) →
    config.clients * RoundRobin.handSize ≤ Capacity.maxOctets →
      ∃ rest, execution.timeline = load.steps ++ rest ∧
        Replayed setup workload.load load.steps ∧ connects load.steps = 1 ∧
        connects rest = config.clients
  /-- If the load phase has a result, the run has one too, whatever comes of its workers. What can
  still be in the way is memory, which has to hold the trace and the hands, and a mean that is no
  duration. -/
  has_result : ∀ latency, load.fate = .returned (.ok latency) →
    config.clients * RoundRobin.handSize ≤ Capacity.maxOctets →
    workload.run.length < Latency.countBound → Measurable outcomes →
      ∃ result, execution.fate = .returned (.ok result) ∧ result.outcomes = outcomes

/-- Each worker connects once. -/
theorem connects_attendances (site : Site σ) (setup : Option Command) (id : Nat)
    (shares : List (List Command)) :
    connects (((attendances site setup id shares).map (·.connection)).flatMap (·.steps)) =
      shares.length := by
  rw [connects_flatMap, List.length_map, length_attendances]
  -- each worker hosts a session on a connection of its own
  intro connection hconnection
  obtain ⟨attended, hattended, rfl⟩ := List.mem_map.1 hconnection
  obtain ⟨commands, hhosts⟩ := hosts_of_mem_attendances hattended
  exact hhosts.connects_eq_one

/-- What comes of the workers of a run whose load phase has a result. -/
def outcomesOf (config : Config) (site : Site σ) (workload : Workload) (setup : Option Command) :
    List Outcome :=
  (attendances site setup 0 (sharesOf config workload)).map (·.outcome)

/-- A run whose parts are there goes through its stages. -/
theorem carriedOut_staged {config : Config} (site : Site σ) (occasion : Occasion)
    (workload : Workload) (setup : Option Command) (hclients : 0 < config.clients) :
    Staged config workload setup (loadSession site workload setup)
      (outcomesOf config site workload setup)
      (carriedOut config site occasion workload setup) := by
  have hconnects := (hosts_loadSession site workload setup).connects_eq_one
  have hcourse := session_course site.peer site.endpoint "load" setup workload.load
    (site.opening 0)
  rw [← loadSession] at hcourse
  -- with room for the hands and a result of the load phase, the run is brought to its end
  have hconcluded : ∀ latency,
      (loadSession site workload setup).fate = .returned (.ok latency) →
      config.clients * RoundRobin.handSize ≤ Capacity.maxOctets →
        carriedOut config site occasion workload setup =
          concluded site occasion workload (.ofAccount (loadSession site workload setup))
            (attendances site setup 0 (sharesOf config workload)) := by
    intro latency hload hroom
    have hlayOut : RoundRobin.layOut config.clients workload.run =
        .returned (sharesOf config workload) :=
      Capacity.reserve_eq_returned_iff.2 ⟨hroom, rfl⟩
    simp only [carriedOut, hload, hlayOut]
  constructor
  case load_failed =>
    intro cause hload
    simp only [carriedOut, hload, Execution.timeline, List.flatMap_cons, List.flatMap_nil,
      List.append_nil, true_and]
    exact hconnects
  case load_crashed =>
    intro message hload
    simp only [carriedOut, hload, Execution.timeline, List.flatMap_cons, List.flatMap_nil,
      List.append_nil, true_and]
    exact hconnects
  case workers_connect =>
    intro latency hload hroom
    rw [hload] at hcourse
    rw [hconcluded latency hload hroom]
    refine ⟨_, List.flatMap_cons, hcourse.replayed, hconnects, ?_⟩
    rw [connects_attendances, sharesOf, RoundRobin.length_deal]
  case has_result =>
    intro latency hload hroom hlength hmeasurable
    -- no command is in two shares, so the number of requests is bounded by that of the commands
    have hdealt : (sharesOf config workload).flatten.length = workload.run.length :=
      (RoundRobin.flatten_deal_perm hclients workload.run).length_eq
    have hcounts : (requestCounts (outcomesOf config site workload setup)).sum ≤
        (sharesOf config workload).flatten.length := sum_requestCounts_le ..
    obtain ⟨aggregate, haggregate⟩ :=
      ofOutcomes_eq_ok occasion.runElapsed hmeasurable (by omega)
    rw [outcomesOf] at haggregate
    rw [hconcluded latency hload hroom]
    simp only [concluded, haggregate]
    exact ⟨_, rfl, rfl⟩

/-- The only error of a run whose parts are there is that of its load phase. -/
theorem isFatal_of_carriedOut {config : Config} {site : Site σ} {occasion : Occasion}
    {workload : Workload} {setup : Option Command} {e : Error}
    (h : (carriedOut config site occasion workload setup).fate = .returned (.error e)) :
    e.isFatal = true := by
  -- the cases are the ends of a run, and one of them is an error
  simp only [carriedOut] at h
  split at h
  · cases h
  · obtain rfl := Except.error.inj (Fate.returned.inj h)
    rfl
  · split at h
    · cases h
    · simp only [concluded] at h
      -- with or without an aggregate, this is no error
      split at h
      · cases h
      · cases h

/-- A valid configuration has clients. -/
theorem clients_pos_of_validate {config : Config} (h : config.validate = .ok ()) :
    0 < config.clients := by
  -- the configuration is checked for a name first, and then for clients
  unfold Config.validate at h
  split at h
  · exact nomatch h
  · split at h
    · exact nomatch h
    · omega

/-- Every run goes through its stages: it connects only if all its parts are there, and then as its
load phase decides. Its errors are fatal, and those of its workers are not. -/
theorem execute_staged (files : Files) (config : Config) (site : Site σ) (occasion : Occasion)
    (least : Severity) :
    let execution := ((execute files config site occasion).run least).2
    (0 < connects execution.timeline →
        ∃ workload setup, Ready files config workload setup) ∧
      (∀ workload setup, Ready files config workload setup →
        config.valueSize ≤ Capacity.maxOctets →
          Staged config workload setup (loadSession site workload setup)
            (outcomesOf config site workload setup) execution) ∧
      (∀ e, execution.fate = .returned (.error e) → e.isFatal = true) ∧
      ∀ endpoint id setup commands s e,
        (((worker endpoint id setup commands).conduct site.peer s).run least).2.fate =
          .returned (.error e) → e.isFatal = false := by
  intro execution
  have hcases : Unstarted execution ∨ ∃ workload setup, Ready files config workload setup ∧
      execution = carriedOut config site occasion workload setup := execute_cases ..
  refine ⟨fun hconnects => ?_, fun workload setup hready hroom => ?_, fun e hfate => ?_,
    fun endpoint id setup commands s e hfate => ?_⟩
  -- without its parts the run does not start, and then there is nothing on its timeline
  · rcases hcases with hunstarted | ⟨workload, setup, hready, -⟩
    · rw [Execution.timeline, hunstarted.no_connections] at hconnects
      exact absurd hconnects (Nat.lt_irrefl 0)
    · exact ⟨workload, setup, hready⟩
  · have hexecution : execution = carriedOut config site occasion workload setup :=
      execute_of_ready hready hroom
    rw [hexecution]
    exact carriedOut_staged site occasion workload setup (clients_pos_of_validate hready.valid)
  · rcases hcases with hunstarted | ⟨workload, setup, -, hexecution⟩
    · exact hunstarted.fatal e hfate
    · rw [hexecution] at hfate
      exact isFatal_of_carriedOut hfate
  · rw [Dialogue.run_conduct_snd] at hfate
    exact isFatal_of_worker hfate

/-- A run of two workers, the first of which ends in opening its connection while the second has
nothing to replay. -/
theorem execute_staged_worker_crashing :
    let files : Files := {
      read := fun path => .ok (Text.encode
        (if path = "t/w_load" then "query(get(\"a\"))" else "query(put(\"b\",\"VAL\"))").toList)
      list := fun _ => .ok []
      write := fun _ _ => .ok () }
    let config : Config := { workload := "w", traceFolder := "t", clients := 2, valueSize := 3 }
    let workload : Workload := ⟨"w", [⟨"get a"⟩], [⟨"put b xxx"⟩]⟩
    let site : Site Nat := {
      endpoint := "mock://controller"
      peer := {
        connect := fun n => (if n = 1 then .crashed "no descriptors" else .opened, n)
        send := fun _ n => (.ok (), n)
        receive := fun n => (.ok (some []), n)
        close := fun n => (.ok (), n)
        clock := fun n => (.zero, n) }
      opening := id }
    let occasion : Occasion := ⟨"r1", ⟨0, 0⟩, .zero, .zero⟩
    Ready files config workload none ∧
      ∃ result, ((execute files config site occasion).run .info).2.fate =
        .returned (.ok result) ∧ result.outcomes =
          [.failed 0 crashCode (crashReason 0 "no descriptors"), .completed ⟨1, {}⟩] := by
  intro files config workload site occasion
  have hload : TraceOf files "t/w_load" 3 workload.load :=
    compileTraceWith_eq_ok_iff.1 (Except.eq_ok_of_toOption (by decide +kernel))
  have hrun : TraceOf files "t/w_run" 3 workload.run :=
    compileTraceWith_eq_ok_iff.1 (Except.eq_ok_of_toOption (by decide +kernel))
  have hvalid : config.validate = .ok () := Except.eq_ok_of_toOption (by decide +kernel)
  have hpaths : Workload.loadPath "t" "w" = "t/w_load" ∧ Workload.runPath "t" "w" = "t/w_run" := by
    decide +kernel
  have hready : Ready files config workload none :=
    ⟨⟨rfl, by rw [hpaths.1]; exact hload, by rw [hpaths.2]; exact hrun, rfl⟩, hvalid⟩
  have hfate : (loadSession site workload none).fate = .returned (.ok ⟨.zero, 1⟩) := rfl
  have houtcomes : outcomesOf config site workload none =
      [.failed 0 crashCode (crashReason 0 "no descriptors"), .completed ⟨1, {}⟩] := rfl
  have hmeasurable : Measurable (outcomesOf config site workload none) := ⟨[], none, rfl, rfl⟩
  have hstaged := (execute_staged files config site occasion .info).2.1 workload none hready
    (by decide)
  refine ⟨hready, ?_⟩
  rw [← houtcomes]
  exact hstaged.has_result _ hfate (by decide) (by decide) hmeasurable

end PolicyReplay.Run
