import PolicyReplay.Proofs.Run.Tallies

/-!
# The accounts of a run

What came of the workers of a run is told three times: by the outcomes, by the aggregate, which is
made of them, and by the counters, to which each worker adds while it runs. The three agree: a
worker that completes is counted with the commands of its share, a worker that fails is counted
once, crashed or not, and nothing of this is counted in the load phase.

## Key results

- `completedLength_outcomes`: the requests of workers are the commands of the shares completed
- `reporting_add_failed_add_idle`: every worker reports, fails or had nothing to do
- `execute_reconciled`: the accounts of a run agree
-/

namespace PolicyReplay.Run

open Transcript

variable {σ : Type}

/-! ## Outcomes and shares -/

/-- How many commands there are in the shares of the workers that completed. -/
def completedLength (outcomes : List Outcome) (shares : List (List Command)) : Nat :=
  (List.zipWith (fun outcome share => if outcome.isFailed then 0 else share.length)
    outcomes shares).sum

/-- How many workers completed without a command in their shares. -/
def idleCount (outcomes : List Outcome) (shares : List (List Command)) : Nat :=
  (outcomes.zip shares).countP fun (outcome, share) => !outcome.isFailed && share.isEmpty

/-- A worker reports the commands of its share, or nothing if it failed. -/
theorem requests_attendance (site : Site σ) (setup : Option Command) (share : List Command)
    (id : Nat) :
    (attendance site setup share id).outcome.requests =
      if (attendance site setup share id).outcome.isFailed then 0 else share.length := by
  -- a report has a request for each command, and a failure has none
  cases houtcome : (attendance site setup share id).outcome with
  | completed report => exact count_of_completed houtcome
  | failed worker code reason => rfl

/-- The requests of workers are the commands of the shares that were completed. -/
theorem completedLength_outcomes (site : Site σ) (setup : Option Command) (id : Nat)
    (shares : List (List Command)) :
    (((attendances site setup id shares).map (·.outcome)).map Outcome.requests).sum =
      completedLength ((attendances site setup id shares).map (·.outcome)) shares := by
  -- share by share, with the workers numbered on
  induction shares generalizing id with
  | nil => rfl
  | cons share rest ih =>
    have hrest := ih (id + 1)
    rw [completedLength] at hrest ⊢
    rw [attendances_cons, List.map_cons, List.map_cons, List.sum_cons, List.zipWith_cons_cons,
      List.sum_cons, requests_attendance, hrest]

/-- Whether a worker measured anything and reports it. -/
def Outcome.isReporting : Outcome → Bool
  | completed report => report.latency.count ≠ 0
  | failed _ _ _ => false

/-- A worker reports, fails or had nothing to do, and only one of these. -/
theorem attendance_cases (site : Site σ) (setup : Option Command) (share : List Command)
    (id : Nat) :
    let outcome := (attendance site setup share id).outcome
    (if outcome.isReporting then 1 else 0) + (if outcome.isFailed then 1 else 0) +
      (if !outcome.isFailed && share.isEmpty then 1 else 0) = 1 := by
  intro outcome
  -- a worker that completed has measured each command of its share, so only an empty one leaves it
  -- idle
  cases houtcome : outcome with
  | failed worker code reason => rfl
  | completed report =>
    have hcount : report.latency.count = share.length := count_of_completed houtcome
    cases share with
    | nil => simp [Outcome.isReporting, Outcome.isFailed, hcount]
    | cons command share => simp [Outcome.isReporting, Outcome.isFailed, hcount]

/-- Every worker reports, fails or had nothing to do. -/
theorem reporting_add_failed_add_idle (site : Site σ) (setup : Option Command) (id : Nat)
    (shares : List (List Command)) :
    let outcomes := (attendances site setup id shares).map (·.outcome)
    outcomes.countP Outcome.isReporting + outcomes.countP Outcome.isFailed +
      idleCount outcomes shares = shares.length := by
  -- each worker adds one to exactly one of the three numbers
  induction shares generalizing id with
  | nil => rfl
  | cons share rest ih =>
    have hrest := ih (id + 1)
    have hfirst := attendance_cases site setup share id
    simp only [idleCount, attendances_cons, List.map_cons, List.zip_cons_cons, List.countP_cons,
      List.length_cons] at hrest hfirst ⊢
    omega

/-- The reports with a measurement are those of the workers that report. -/
theorem countP_reports (outcomes : List Outcome) :
    ((outcomes.filterMap Outcome.report?).countP fun report => report.latency.count ≠ 0) =
      outcomes.countP Outcome.isReporting := by
  -- failures are neither reports nor reporting
  induction outcomes with
  | nil => rfl
  | cons outcome outcomes ih =>
    cases outcome with
    | completed report =>
      have hreport : Outcome.report? (.completed report) = some report := rfl
      rw [List.filterMap_cons_some hreport, List.countP_cons, List.countP_cons, ih]
      rfl
    | failed worker code reason =>
      have hnone : Outcome.report? (.failed worker code reason) = none := rfl
      rw [List.filterMap_cons_none hnone, List.countP_cons, ih]
      rfl

/-! ## Counters and outcomes -/

/-- What is counted once for each worker that something is true of is counted as often as that. -/
theorem sum_map_eq_countP {attended : List (Attendance σ)} {p : Outcome → Bool}
    {amount : Attendance σ → Nat}
    (h : ∀ one ∈ attended, amount one = if p one.outcome then 1 else 0) :
    (attended.map amount).sum = (attended.map (·.outcome)).countP p := by
  -- worker by worker
  induction attended with
  | nil => rfl
  | cons first rest ih =>
    rw [List.map_cons, List.sum_cons, List.map_cons, List.countP_cons, h first List.mem_cons_self,
      ih fun one hone => h one (List.mem_cons_of_mem first hone), Nat.add_comm]

variable {files : Files} {config : Config} {site : Site σ} {occasion : Occasion}
  {workload : Workload} {setup : Option Command} {least : Severity} {execution : Execution σ}
  {result : Result}

/-- Whether a counter tells of what came of workers, and not of transfers. -/
def TellsOutcomes : Register → Prop
  | .requestsCompleted | .workerFailures | .handshakeRejections => True
  | .framesSent | .framesReceived | .bytesSent => False

/-- Nothing of what is counted of outcomes is counted in a load phase that succeeded. -/
theorem Concluded.load_uncounted
    (h : Concluded config site occasion workload setup execution result) (register : Register)
    (hregister : TellsOutcomes register) :
    Tally.total (tallies (loadSession site workload setup).steps) register = 0 := by
  have hcourse := course_loadSession site workload setup
  obtain ⟨latency, hloaded⟩ := h.loaded
  -- transfers are excluded, and a rejection would have failed the load phase
  cases register with
  | requestsCompleted => exact hcourse.countsTransfers.requestsCompleted
  | workerFailures => exact hcourse.countsTransfers.workerFailures
  | handshakeRejections => rw [hcourse.total_handshakeRejections, hloaded]; rfl
  | framesSent => exact hregister.elim
  | framesReceived => exact hregister.elim
  | bytesSent => exact hregister.elim

/-- The requests that are counted are those that the outcomes tell of. -/
theorem Concluded.counted_requests
    (h : Concluded config site occasion workload setup execution result) :
    countedIn config site workload setup .requestsCompleted =
      (requestCounts result.outcomes).sum := by
  -- the load phase counts no request, and each worker counts those of its outcome
  rw [countedIn, h.load_uncounted .requestsCompleted trivial, Nat.zero_add,
    requestCounts_sum, h.outcomes_eq, List.map_map]
  exact congrArg List.sum (List.map_congr_left fun attended hattended =>
    (accounted_of_mem hattended).requests)

/-- The failures that are counted are those that the outcomes tell of. -/
theorem Concluded.counted_failures
    (h : Concluded config site occasion workload setup execution result) :
    countedIn config site workload setup .workerFailures =
      result.outcomes.countP Outcome.isFailed := by
  rw [countedIn, h.load_uncounted .workerFailures trivial, Nat.zero_add, h.outcomes_eq]
  exact sum_map_eq_countP fun attended hattended => (accounted_of_mem hattended).failures

/-- The rejections that are counted are those that the outcomes tell of. -/
theorem Concluded.counted_rejections
    (h : Concluded config site occasion workload setup execution result) :
    countedIn config site workload setup .handshakeRejections =
      result.outcomes.countP Outcome.isRejected := by
  rw [countedIn, h.load_uncounted .handshakeRejections trivial, Nat.zero_add,
    h.outcomes_eq]
  exact sum_map_eq_countP fun attended hattended => (accounted_of_mem hattended).rejections

/-- There is no room for so many workers that their number does not fit its word. -/
theorem Concluded.countP_outcomes_lt
    (h : Concluded config site occasion workload setup execution result) (p : Outcome → Bool) :
    result.outcomes.countP p < UInt64.size := by
  -- a worker takes more than one octet of the memory that there is
  have hcount : result.outcomes.countP p ≤ result.outcomes.length := List.countP_le_length
  have hlength := h.length_outcomes
  have hroom := h.room
  rw [RoundRobin.handSize, Capacity.maxOctets] at hroom
  rw [UInt64.size]
  omega

/-! ## The accounts -/

/-- The outcomes of a run, its aggregate and its counters agree with each other and with the shares
of the workers. -/
structure Reconciled (config : Config) (workload : Workload) (connections : List (Connection σ))
    (result : Result) : Prop where
  requests_counted : result.counters.requestsCompleted.toNat = result.aggregate.requests
  requests : result.aggregate.requests =
    completedLength result.outcomes (sharesOf config workload)
  failures_counted : result.counters.workerFailures.toNat = result.aggregate.failed
  failures : result.aggregate.failed = result.outcomes.countP Outcome.isFailed
  /-- A worker counts its failure itself, unless it crashed. So the failures of workers that
  crashed, and no others, are counted for them. -/
  failure_once : ∀ id outcome connection, result.outcomes[id]? = some outcome →
    connections[id + 1]? = some connection →
      Tally.total connection.tallies .workerFailures =
        if outcome.isFailed && !outcome.isCrashed then 1 else 0
  rejections_counted : result.counters.handshakeRejections.toNat =
    result.outcomes.countP Outcome.isRejected
  /-- Every worker reports, fails or had nothing to do. -/
  clients : result.aggregate.reporting + result.aggregate.failed +
    idleCount result.outcomes (sharesOf config workload) = config.clients
  /-- On the first connection, that of the load phase, only transfers are counted. -/
  load_uncounted : ∀ connection, connections[0]? = some connection → ∀ register,
    TellsOutcomes register → Tally.total connection.tallies register = 0

/-- A run that has a result is reconciled. -/
theorem Concluded.reconciled
    (h : Concluded config site occasion workload setup execution result) :
    Reconciled config workload execution.connections result := by
  -- the aggregate is computed from the outcomes, so its fields can be read off it
  obtain ⟨means, mean, hmeans, -, hfits, haggregate⟩ := ofOutcomes_eq_ok_iff.1 h.aggregated
  have houtcomes := h.outcomes_eq
  have hrequests : result.aggregate.requests = (requestCounts result.outcomes).sum := by
    rw [haggregate]
  have hfailed : result.aggregate.failed = result.outcomes.countP Outcome.isFailed := by
    rw [haggregate]
  constructor
  -- each counter is below the bound of its word, and read as what was counted
  case requests_counted =>
    rw [hrequests, ← h.counted_requests]
    exact h.toNat_read_counters .requestsCompleted (by rwa [h.counted_requests])
  case requests =>
    rw [hrequests, requestCounts_sum, houtcomes]
    exact completedLength_outcomes ..
  case failures_counted =>
    rw [hfailed, ← h.counted_failures]
    exact h.toNat_read_counters .workerFailures
      (by rw [h.counted_failures]; exact h.countP_outcomes_lt _)
  case failures => exact hfailed
  -- the connection of a worker is one behind its outcome, as the first is that of the load phase
  case failure_once =>
    intro id outcome connection houtcome hconnection
    rw [h.connected, List.getElem?_cons_succ, List.getElem?_map] at hconnection
    rw [houtcomes, List.getElem?_map] at houtcome
    obtain ⟨attended, hattended, rfl⟩ := Option.map_eq_some_iff.1 hconnection
    rw [hattended] at houtcome
    obtain rfl := Option.some.inj houtcome
    exact (accounted_of_mem (List.mem_of_getElem? hattended)).failure_counted
  case rejections_counted =>
    rw [← h.counted_rejections]
    exact h.toNat_read_counters .handshakeRejections
      (by rw [h.counted_rejections]; exact h.countP_outcomes_lt _)
  -- each mean is that of a reporting worker
  case clients =>
    have hreporting : result.aggregate.reporting = result.outcomes.countP Outcome.isReporting := by
      rw [haggregate, ← countP_reports]
      exact length_means hmeans
    have hclients : (sharesOf config workload).length = config.clients :=
      RoundRobin.length_deal config.clients workload.run
    rw [hreporting, hfailed, houtcomes, ← hclients]
    exact reporting_add_failed_add_idle ..
  -- the connection in front is that of the load phase
  case load_uncounted =>
    intro connection hconnection register hregister
    rw [h.connected] at hconnection
    obtain rfl := Option.some.inj hconnection
    exact h.load_uncounted register hregister

/-- The accounts of a run that has a result agree. -/
theorem execute_reconciled (files : Files) (config : Config) (site : Site σ) (occasion : Occasion)
    (least : Severity) (result : Result)
    (h : ((execute files config site occasion).run least).2.fate = .returned (.ok result)) :
    ∃ workload setup, Ready files config workload setup ∧
      Reconciled config workload ((execute files config site occasion).run least).2.connections
        result := by
  obtain ⟨workload, setup, hready, hconcluded⟩ := execute_concluded h
  exact ⟨workload, setup, hready, hconcluded.reconciled⟩

/-- A run of three workers: the setup command of the first is rejected, the second ends in opening
its connection, and the third has nothing to replay. -/
theorem execute_reconciled_rejecting :
    let files : Files := {
      read := fun path => .ok (Text.encode
        (if path = "t/w_load" then "query(get(\"a\"))"
          else if path = "t/w_run" then "query(put(\"b\",\"VAL\"))"
          else "\x7b\"sessionKey\":\"u1\",\"default_policy\":\x7b\"objPur\":[\"ads\"]\x7d\x7d").toList)
      list := fun _ => .ok []
      write := fun _ _ => .ok () }
    let config : Config :=
      { workload := "w", traceFolder := "t", clients := 3, valueSize := 3, policy := some "p" }
    let site : Site Nat := {
      endpoint := "mock://controller"
      peer := {
        connect := fun n => (if n = 2 then .crashed "no descriptors" else .opened, n)
        send := fun _ n => (.ok (), n)
        receive := fun n => (.ok (some (if n = 1 then [] else Frame.acknowledgement)), n)
        close := fun n => (.ok (), n)
        clock := fun n => (.zero, n) }
      opening := id }
    let occasion : Occasion := ⟨"r1", ⟨0, 0⟩, .zero, .zero⟩
    let execution := ((execute files config site occasion).run .info).2
    ∃ result, execution.fate = .returned (.ok result) ∧
      (∃ workload setup, Ready files config workload setup ∧
        Reconciled config workload execution.connections result) ∧
      result.counters.workerFailures.toNat = 2 ∧ result.counters.handshakeRejections.toNat = 1 := by
  intro files config site occasion execution
  -- the run is computed in parts: the workload with the policy, then the outcomes
  let workload : Workload := ⟨"w", [⟨"get a"⟩], [⟨"put b xxx"⟩]⟩
  let setup : Command := ⟨"user_policy -sessionKey u1 -objPur ads"⟩
  have hprepared : ((prepare files config).run .info).2 =
      .returned (.ok (workload, some setup)) := by
    decide +kernel
  have hready : Ready files config workload (some setup) :=
    ⟨(prepare_eq_ok_iff.1 hprepared).2, Except.eq_ok_of_toOption (by decide +kernel)⟩
  have hexecution : execution = carriedOut config site occasion workload (some setup) :=
    execute_of_ready hready (by decide)
  have houtcomes : outcomesOf config site workload (some setup) =
      [.failed 0 "LOADGEN_HANDSHAKE_REJECTED" "controller rejected the policy handshake: \"\"",
        .failed 1 crashCode (crashReason 1 "no descriptors"), .completed ⟨2, {}⟩] := by
    decide +kernel
  have hmeasurable : Measurable (outcomesOf config site workload (some setup)) := by
    rw [houtcomes]
    exact ⟨[], none, rfl, rfl⟩
  have hfate : (loadSession site workload (some setup)).fate = .returned (.ok ⟨.zero, 1⟩) := by
    decide +kernel
  -- with the load phase done and the outcomes measured, there is a result
  have hstaged : Staged config workload (some setup) _ _ _ :=
    carriedOut_staged site occasion workload (some setup) (by decide)
  rw [← hexecution] at hstaged
  obtain ⟨result, hresult, hworkers⟩ :=
    hstaged.has_result _ hfate (by decide) (by decide) hmeasurable
  obtain ⟨found, command, hfound, hreconciled⟩ :=
    execute_reconciled files config site occasion .info result hresult
  refine ⟨result, hresult, ⟨found, command, hfound, hreconciled⟩, ?_, ?_⟩
  · rw [hreconciled.failures_counted, hreconciled.failures, hworkers, houtcomes]
    rfl
  · rw [hreconciled.rejections_counted, hworkers, houtcomes]
    decide +kernel

end PolicyReplay.Run
