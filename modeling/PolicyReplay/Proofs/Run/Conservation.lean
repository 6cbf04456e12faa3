import PolicyReplay.Proofs.Run.Distribution
import PolicyReplay.Proofs.Run.Tallies

/-!
# Payloads and frames of a run

The counters of transfers are those of all connections of a run together. A session that is carried
through sends one payload that is not answered, its farewell, and any other session sends at most
one; so over a run the payloads are ahead of the frames by one for the load phase, and by at most
one for each worker.

## Key results

- `Concluded.countedIn_eq`: what is counted of transfers can be read off the connections
- `Concluded.delivered_le`: how far payloads are ahead of frames
- `execute_conserves`: what the counters of a run say of transfers
-/

namespace PolicyReplay.Run

open Transcript

variable {σ : Type}

/-! ## Sums over connections -/

/-- What adds up over the parts of a transcript adds up over connections. -/
theorem measure_flatMap (measure : List Step → Nat) (hnil : measure [] = 0)
    (happend : ∀ first rest, measure (first ++ rest) = measure first + measure rest)
    (connections : List (Connection σ)) :
    measure (connections.flatMap (·.steps)) =
      (connections.map fun connection => measure connection.steps).sum := by
  -- connection by connection
  induction connections with
  | nil => exact hnil
  | cons connection rest ih =>
    rw [List.flatMap_cons, happend, ih, List.map_cons, List.sum_cons]

/-- What is ahead by at most one in each place is ahead by at most the number of places. -/
theorem sum_le_sum_le {α : Type} (items : List α) (f g : α → Nat)
    (h : ∀ item ∈ items, f item ≤ g item ∧ g item ≤ f item + 1) :
    (items.map f).sum ≤ (items.map g).sum ∧
      (items.map g).sum ≤ (items.map f).sum + items.length := by
  induction items with
  | nil => exact ⟨Nat.le_refl 0, Nat.le_refl 0⟩
  | cons item items ih =>
    -- one place and the rest of them are each ahead by no more than they may
    have hfirst := h item List.mem_cons_self
    have hrest := ih fun other hother => h other (List.mem_cons_of_mem item hother)
    simp only [List.map_cons, List.sum_cons, List.length_cons]
    omega

/-! ## One connection -/

/-- How many payloads went out on a connection of a worker, for the frames that came in. -/
theorem Hosts.delivered_length_le {setup : Option Command} {commands : List Command}
    {steps : List Step} (h : Hosts setup commands steps) :
    (frames steps).length ≤ (delivered steps).length ∧
      (delivered steps).length ≤ (frames steps).length + 1 := by
  obtain ⟨first, fate, counted, hcourse, rfl⟩ := h
  -- what was counted before and after transfers nothing
  rw [frames_append, frames_map_counted, delivered_append, delivered_map_counted, List.append_nil,
    List.append_nil]
  exact hcourse.delivered_length_le

/-- A request for each setup command and each command. -/
theorem length_requests (setup : Option Command) (commands : List Command) :
    (requests setup commands).length = setup.toList.length + commands.length := by
  rw [requests, List.length_map, List.length_append]

/-- A session with a result gets as many frames as it has requests, and sends one payload more. -/
theorem Replayed.lengths {setup : Option Command} {commands : List Command} {steps : List Step}
    (h : Replayed setup commands steps) :
    (frames steps).length = setup.toList.length + commands.length ∧
      (delivered steps).length = (frames steps).length + 1 := by
  -- all requests were answered, and the farewell goes out without an answer
  rw [h.answered, h.sent, plan, List.length_append, length_requests]
  exact ⟨rfl, rfl⟩

/-- So it is on the connection of a worker that completes. -/
theorem lengths_of_completed {site : Site σ} {setup : Option Command} {share : List Command}
    {id : Nat} (h : (attendance site setup share id).outcome.isFailed = false) :
    (frames (attendance site setup share id).connection.steps).length =
        setup.toList.length + share.length ∧
      (delivered (attendance site setup share id).connection.steps).length =
        (frames (attendance site setup share id).connection.steps).length + 1 := by
  cases houtcome : (attendance site setup share id).outcome with
  | failed worker code reason => rw [houtcome] at h; exact nomatch h
  | completed report =>
    obtain ⟨first, counted, hsteps, hcourse, -⟩ := course_of_completed houtcome
    -- what the worker counts transfers nothing, and its session has a result
    rw [hsteps, frames_append, frames_map_counted, delivered_append, delivered_map_counted,
      List.append_nil, List.append_nil]
    exact hcourse.replayed.lengths

/-- Workers that all complete get a frame for each command of their shares and each setup command,
and each of them sends one payload more than that. -/
theorem lengths_of_all_completed {site : Site σ} {setup : Option Command} {id : Nat}
    {shares : List (List Command)}
    (h : ∀ attended ∈ attendances site setup id shares, attended.outcome.isFailed = false) :
    ((attendances site setup id shares).map fun attended =>
        (frames attended.connection.steps).length).sum =
      shares.length * setup.toList.length + shares.flatten.length ∧
    ((attendances site setup id shares).map fun attended =>
        (delivered attended.connection.steps).length).sum =
      ((attendances site setup id shares).map fun attended =>
        (frames attended.connection.steps).length).sum + shares.length := by
  -- share by share; the number of the worker changes nothing
  induction shares generalizing id with
  | nil => exact ⟨(Nat.zero_mul _).symm, rfl⟩
  | cons share rest ih =>
    rw [attendances_cons] at h ⊢
    have hfirst := lengths_of_completed (h _ List.mem_cons_self)
    have hrest := ih fun attended hattended => h attended (List.mem_cons_of_mem _ hattended)
    simp only [List.map_cons, List.sum_cons, List.length_cons, List.flatten_cons,
      List.length_append, Nat.succ_mul]
    omega

/-! ## Whole runs -/

variable {files : Files} {config : Config} {site : Site σ} {occasion : Occasion}
  {workload : Workload} {setup : Option Command} {execution : Execution σ} {result : Result}

/-- There is a setup command exactly if there is a policy. -/
theorem SetupOf.isSome_eq (h : SetupOf files config setup) :
    setup.isSome = config.policy.isSome := by
  -- a setup command comes from the document of a policy, and is there with it only
  cases setup with
  | none => rw [show config.policy = none from h]; rfl
  | some command =>
    obtain ⟨path, document, hpath, -, -⟩ := h
    rw [hpath]
    rfl

section Concluded

variable (h : Concluded config site occasion workload setup execution result)

include h

/-- The load phase of a run with a result was carried through. -/
theorem Concluded.load_replayed :
    Replayed setup workload.load (loadSession site workload setup).steps := by
  -- the first session ended with a latency, and so it was replayed
  have hcourse := course_loadSession site workload setup
  obtain ⟨latency, hloaded⟩ := h.loaded
  rw [hloaded] at hcourse
  exact hcourse.replayed

/-- What adds up over connections is a sum over the load phase and the workers. -/
theorem Concluded.measure_timeline (measure : List Step → Nat) (hnil : measure [] = 0)
    (happend : ∀ first rest, measure (first ++ rest) = measure first + measure rest) :
    measure execution.timeline = measure (loadSession site workload setup).steps +
      ((attendancesOf config site workload setup).map fun attended =>
        measure attended.connection.steps).sum := by
  -- the first connection is that of the load phase, and the others are those of the workers
  rw [Execution.timeline, h.connected, measure_flatMap measure hnil happend, List.map_cons,
    List.sum_cons, List.map_map]
  rfl

/-- A counter to which each part of a run adds what is measured there adds up to what is measured
over all connections. -/
theorem Concluded.countedIn_eq_measure {register : Register} (measure : List Step → Nat)
    (hnil : measure [] = 0)
    (happend : ∀ first rest, measure (first ++ rest) = measure first + measure rest)
    (hload : Tally.total (tallies (loadSession site workload setup).steps) register =
      measure (loadSession site workload setup).steps)
    (hworkers : ∀ attended ∈ attendancesOf config site workload setup,
      Tally.total attended.tallies register = measure attended.connection.steps) :
    countedIn config site workload setup register = measure execution.timeline := by
  -- part by part, the counter says what was measured
  rw [countedIn, h.measure_timeline measure hnil happend, hload, List.map_congr_left hworkers]

/-- What is counted of transfers can be read off the connections. -/
theorem Concluded.countedIn_eq :
    countedIn config site workload setup .framesSent = (delivered execution.timeline).length ∧
    countedIn config site workload setup .bytesSent =
      ((delivered execution.timeline).map List.length).sum ∧
    countedIn config site workload setup .framesReceived = (frames execution.timeline).length := by
  -- the same argument three times: once for payloads, for octets and for frames
  have hload := (course_loadSession site workload setup).countsTransfers
  refine ⟨?_, ?_, ?_⟩
  · exact h.countedIn_eq_measure (fun steps => (delivered steps).length) rfl (by simp)
      hload.framesSent fun attended hattended => (accounted_of_mem hattended).framesSent
  · exact h.countedIn_eq_measure (fun steps => ((delivered steps).map List.length).sum)
      rfl (by simp) hload.bytesSent fun attended hattended => (accounted_of_mem hattended).bytesSent
  · exact h.countedIn_eq_measure (fun steps => (frames steps).length) rfl (by simp)
      hload.framesReceived fun attended hattended => (accounted_of_mem hattended).framesReceived

/-- The payloads of a run are ahead of the frames by one for the load phase, and by at most one for
each worker. -/
theorem Concluded.delivered_le :
    (frames execution.timeline).length + 1 ≤ (delivered execution.timeline).length ∧
      (delivered execution.timeline).length ≤
        (frames execution.timeline).length + 1 + config.clients := by
  -- the load phase is ahead by its farewell, and no worker by more than one
  have hsent := h.measure_timeline (fun steps => (delivered steps).length) rfl (by simp)
  have hreceived := h.measure_timeline (fun steps => (frames steps).length) rfl (by simp)
  have hload := h.load_replayed.lengths.2
  have hlength := length_attendancesOf config site workload setup
  have hworkers := sum_le_sum_le (attendancesOf config site workload setup)
    (fun attended => (frames attended.connection.steps).length)
    (fun attended => (delivered attended.connection.steps).length)
    fun attended hattended => by
      obtain ⟨⟨share, id⟩, -, rfl⟩ := List.mem_map.1 hattended
      exact (hosts_attendance site setup share id).delivered_length_le
  omega

/-- If all workers complete, each request of a run is answered, and the payloads are ahead by the
farewells. -/
theorem Concluded.lengths_timeline (hclients : 0 < config.clients)
    (hcompleted : ∀ outcome ∈ result.outcomes, outcome.isFailed = false) :
    (frames execution.timeline).length = workload.load.length + workload.run.length +
        (config.clients + 1) * setup.toList.length ∧
      (delivered execution.timeline).length =
        (frames execution.timeline).length + config.clients + 1 := by
  -- each sum over workers is that over the shares, and the shares are all commands, dealt out
  have hsent := h.measure_timeline (fun steps => (delivered steps).length) rfl (by simp)
  have hreceived := h.measure_timeline (fun steps => (frames steps).length) rfl (by simp)
  have hload := h.load_replayed.lengths
  have hworkers := lengths_of_all_completed (h.isFailed_eq_false hcompleted)
  have hlength : (sharesOf config workload).length = config.clients :=
    RoundRobin.length_deal config.clients workload.run
  -- dealing changes the order of the commands and not their number
  have hdealt : (sharesOf config workload).flatten.length = workload.run.length :=
    (RoundRobin.flatten_deal_perm hclients workload.run).length_eq
  rw [hlength, hdealt, ← attendancesOf] at hworkers
  rw [Nat.succ_mul]
  omega

end Concluded

/-- The counters of a run tell what went out and what came in on all of its connections. -/
structure Conserved (config : Config) (execution : Execution σ) (result : Result) : Prop where
  framesSent : result.counters.framesSent.toNat = (delivered execution.timeline).length
  bytesSent : result.counters.bytesSent.toNat =
    ((delivered execution.timeline).map List.length).sum
  framesReceived : result.counters.framesReceived.toNat = (frames execution.timeline).length
  received_lt : result.counters.framesReceived.toNat + 1 ≤ result.counters.framesSent.toNat
  sent_le : result.counters.framesSent.toNat ≤
    result.counters.framesReceived.toNat + 1 + config.clients
  /-- If no worker fails, each command and each setup command is answered by a frame. -/
  received_eq : (∀ outcome ∈ result.outcomes, outcome.isFailed = false) →
    result.counters.framesReceived.toNat = result.loadCommands + result.runCommands +
      if config.policy.isSome then config.clients + 1 else 0
  /-- If no worker fails, only the farewells are not answered. -/
  sent_eq : (∀ outcome ∈ result.outcomes, outcome.isFailed = false) →
    result.counters.framesSent.toNat =
      result.counters.framesReceived.toNat + config.clients + 1

/-- The counters of a run that has a result tell what was transferred in it, unless that is too much
for their words. -/
theorem execute_conserves (files : Files) (config : Config) (site : Site σ) (occasion : Occasion)
    (least : Severity) (result : Result)
    (h : ((execute files config site occasion).run least).2.fate = .returned (.ok result)) :
    let execution := ((execute files config site occasion).run least).2
    (delivered execution.timeline).length < UInt64.size →
    ((delivered execution.timeline).map List.length).sum < UInt64.size →
      Conserved config execution result := by
  intro execution hframes hbytes
  obtain ⟨workload, setup, hready, hconcluded⟩ := execute_concluded h
  obtain ⟨hsent, hoctets, hreceived⟩ := hconcluded.countedIn_eq
  obtain ⟨hahead, hbehind⟩ := hconcluded.delivered_le
  -- a total that fits its word is read as it is
  have hread_sent : result.counters.framesSent.toNat = (delivered execution.timeline).length := by
    rw [← hsent]
    exact hconcluded.toNat_read_counters .framesSent (hsent ▸ hframes)
  -- the frames are fewer than the payloads, so they fit as well
  have hframes_received : (frames execution.timeline).length < UInt64.size :=
    Nat.lt_trans (Nat.lt_of_succ_le hahead) hframes
  have hread_received : result.counters.framesReceived.toNat =
      (frames execution.timeline).length := by
    rw [← hreceived]
    exact hconcluded.toNat_read_counters .framesReceived
      (hreceived ▸ hframes_received)
  constructor
  case framesSent => exact hread_sent
  case bytesSent =>
    rw [← hoctets]
    exact hconcluded.toNat_read_counters .bytesSent (hoctets ▸ hbytes)
  case framesReceived => exact hread_received
  case received_lt => rw [hread_sent, hread_received]; exact hahead
  case sent_le => rw [hread_sent, hread_received]; exact hbehind
  case received_eq =>
    intro hcompleted
    have hlengths := hconcluded.lengths_timeline (clients_pos_of_validate hready.valid) hcompleted
    rw [hread_received, show (frames execution.timeline).length = _ from hlengths.1,
      hconcluded.told, ← hready.policy.isSome_eq]
    -- one setup command for each session, if there is a policy
    cases setup with
    | none => rfl
    | some command => rw [Option.toList_some, List.length_singleton, Nat.mul_one]; rfl
  case sent_eq =>
    intro hcompleted
    rw [hread_sent, hread_received]
    exact (hconcluded.lengths_timeline (clients_pos_of_validate hready.valid) hcompleted).2

/-- A run of two workers, the first of which is hung up on, while the second has nothing to replay.
Of the four payloads that go out, two farewells among them, one is answered. -/
theorem execute_conserves_hanging_up :
    let files : Files := {
      read := fun path => .ok (Text.encode
        (if path = "t/w_load" then "query(get(\"a\"))" else "query(get(\"b\"))").toList)
      list := fun _ => .ok []
      write := fun _ _ => .ok () }
    let config : Config := { workload := "w", traceFolder := "t", clients := 2, valueSize := 3 }
    let site : Site Nat := {
      endpoint := "mock://controller"
      peer := {
        connect := fun n => (.opened, n)
        send := fun _ n => (.ok (), n)
        receive := fun n => (.ok (if n = 1 then none else some []), n)
        close := fun n => (.ok (), n)
        clock := fun n => (.zero, n) }
      opening := id }
    let occasion : Occasion := ⟨"r1", ⟨0, 0⟩, .zero, .zero⟩
    let execution := ((execute files config site occasion).run .info).2
    ∃ result, execution.fate = .returned (.ok result) ∧
      (delivered execution.timeline).length < UInt64.size ∧
      ((delivered execution.timeline).map List.length).sum < UInt64.size ∧
      Conserved config execution result ∧
      result.counters.framesSent.toNat = 4 ∧ result.counters.framesReceived.toNat = 1 := by
  intro files config site occasion execution
  let workload : Workload := ⟨"w", [⟨"get a"⟩], [⟨"get b"⟩]⟩
  -- the run is computed in parts: the workload, the outcomes, what goes out and what comes in
  have hprepared : ((prepare files config).run .info).2 = .returned (.ok (workload, none)) := by
    decide +kernel
  have hready : Ready files config workload none :=
    ⟨(prepare_eq_ok_iff.1 hprepared).2, Except.eq_ok_of_toOption (by decide +kernel)⟩
  have hexecution : execution = carriedOut config site occasion workload none :=
    execute_of_ready hready (by decide)
  have hmeasurable : Measurable (outcomesOf config site workload none) := by
    have houtcomes : outcomesOf config site workload none =
        [.failed 0 (Error.wire .closed).code (Error.wire .closed).message,
          .completed ⟨1, {}⟩] := by decide +kernel
    rw [houtcomes]
    exact ⟨[], none, rfl, rfl⟩
  have hfate : (loadSession site workload none).fate = .returned (.ok ⟨.zero, 1⟩) := by
    decide +kernel
  have hstaged : Staged config workload none _ _ _ :=
    carriedOut_staged site occasion workload none (by decide)
  rw [← hexecution] at hstaged
  -- with the load phase done and the outcomes measured, there is a result
  obtain ⟨result, hresult, -⟩ := hstaged.has_result _ hfate (by decide) (by decide) hmeasurable
  have hsent : delivered execution.timeline =
      [Text.encode "get a".toList, Frame.farewell, Text.encode "get b".toList, Frame.farewell] := by
    rw [hexecution]
    decide +kernel
  have hreceived : frames execution.timeline = [[]] := by
    rw [hexecution]
    decide +kernel
  have hframes : (delivered execution.timeline).length < UInt64.size := by
    rw [hsent]
    decide
  have hbytes : ((delivered execution.timeline).map List.length).sum < UInt64.size := by
    rw [hsent]
    decide +kernel
  have hconserved :=
    execute_conserves files config site occasion .info result hresult hframes hbytes
  refine ⟨result, hresult, hframes, hbytes, hconserved, ?_, ?_⟩
  · rw [hconserved.framesSent]
    exact congrArg List.length hsent
  · rw [hconserved.framesReceived]
    exact congrArg List.length hreceived

end PolicyReplay.Run
