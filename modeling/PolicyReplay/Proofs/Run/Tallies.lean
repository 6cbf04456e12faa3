import PolicyReplay.Proofs.Run.Result
import PolicyReplay.Proofs.Session.Counting

/-!
# What the workers of a run count

A worker counts its transfers as they happen and its outcome at its end; the failure of a worker
that crashed is counted for it afterwards. So what a worker counts can be read off its transcript
and its outcome, and the counters of a run are sums over its connections and its outcomes.

## Key results

- `attendance_accounted`: what one worker counts
- `Concluded.toNat_read_counters`: a counter of a run is a sum over its load phase and its workers
-/

namespace PolicyReplay.Run

open Transcript

variable {σ : Type}

/-- What was counted on a connection is what its steps count. -/
theorem tallies_eq (connection : Connection σ) :
    connection.tallies = tallies connection.steps := rfl

/-! ## Outcomes -/

namespace Outcome

/-- What is counted of an outcome. -/
def tally : Outcome → Tally
  | completed report => .requestsCompleted report.latency.count
  | failed _ _ _ => .workerFailed

/-- How many requests a worker reports. -/
def requests : Outcome → Nat
  | completed report => report.latency.count
  | failed _ _ _ => 0

/-- Whether the setup command of a worker was rejected. -/
def isRejected : Outcome → Bool
  | completed _ => false
  | failed _ code _ => code = "LOADGEN_HANDSHAKE_REJECTED"

/-- Whether a worker ended without a result. -/
def isCrashed : Outcome → Bool
  | completed _ => false
  | failed _ code _ => code = crashCode

/-- An outcome is counted as requests or as a failure, and as nothing else. -/
theorem total_tally (outcome : Outcome) (register : Register) :
    Tally.total [outcome.tally] register =
      match register with
      | .requestsCompleted => outcome.requests
      | .workerFailures => if outcome.isFailed then 1 else 0
      | _ => 0 := by
  cases outcome <;> cases register <;> rfl

end Outcome

/-- The requests of outcomes add up over the outcomes, as failures add none. -/
theorem requestCounts_sum (outcomes : List Outcome) :
    (requestCounts outcomes).sum = (outcomes.map Outcome.requests).sum := by
  -- by induction on the outcomes: a failure is passed over on one side and adds zero on the other
  induction outcomes with
  | nil => rfl
  | cons outcome outcomes ih =>
    rw [List.map_cons, List.sum_cons, ← ih]
    cases outcome with
    | completed report => rfl
    | failed worker code reason => exact (Nat.zero_add _).symm

/-! ## One worker -/

/-- The outcome of a worker is counted once, by itself or afterwards. -/
theorem tallies_of_end (id : Nat) (fate : Fate (Except Error Latency)) :
    closingTallies fate ++ afterwardsAfter id fate = [(outcomeAfter id fate).tally] := by
  -- the three ways in which a session ends: a crash is counted afterwards, all else at once
  cases fate with
  | crashed message => rfl
  | returned result =>
    cases result with
    | ok latency => rfl
    | error e => rfl

/-- All that is counted of a worker, by itself or afterwards. -/
def Attendance.tallies (attended : Attendance σ) : List Tally :=
  attended.connection.tallies ++ attended.afterwards

/-- What is counted of a worker agrees with its transcript and its outcome. -/
structure Accounted (attended : Attendance σ) : Prop where
  framesSent : Tally.total attended.tallies .framesSent =
    (delivered attended.connection.steps).length
  bytesSent : Tally.total attended.tallies .bytesSent =
    ((delivered attended.connection.steps).map List.length).sum
  framesReceived : Tally.total attended.tallies .framesReceived =
    (frames attended.connection.steps).length
  requests : Tally.total attended.tallies .requestsCompleted = attended.outcome.requests
  failures : Tally.total attended.tallies .workerFailures =
    if attended.outcome.isFailed then 1 else 0
  /-- A worker counts its failure itself, unless it crashed. -/
  failure_counted : Tally.total attended.connection.tallies .workerFailures =
    if attended.outcome.isFailed && !attended.outcome.isCrashed then 1 else 0
  rejections : Tally.total attended.tallies .handshakeRejections =
    if attended.outcome.isRejected then 1 else 0

/-- An error of the wire has neither the code of a rejection nor that of a crash. -/
theorem code_of_wire (cause : Wire.Error) :
    (Error.wire cause).code ≠ "LOADGEN_HANDSHAKE_REJECTED" ∧
      (Error.wire cause).code ≠ crashCode := by
  have hcodes : ∀ code ∈ ["WIRE_IO_FAILED", "WIRE_FRAME_TOO_LARGE", "WIRE_CONNECTION_CLOSED",
      "WIRE_CONNECT_FAILED", "WIRE_SPAWN_FAILED"],
      code ≠ "LOADGEN_HANDSHAKE_REJECTED" ∧ code ≠ crashCode := by decide
  -- there are five codes for errors of the wire
  cases cause with
  | io cause => exact hcodes "WIRE_IO_FAILED" (by simp)
  | frameTooLarge size => exact hcodes "WIRE_FRAME_TOO_LARGE" (by simp)
  | closed => exact hcodes "WIRE_CONNECTION_CLOSED" (by simp)
  | connect address cause => exact hcodes "WIRE_CONNECT_FAILED" (by simp)
  | spawn program cause => exact hcodes "WIRE_SPAWN_FAILED" (by simp)

/-- An error that ends a session has the code of a rejection if it is one, and never that of a
crash. -/
theorem Course.code_cases {setup : Option Command} {commands : List Command} {steps : List Step}
    {e : Error} (h : Course setup commands steps (.returned (.error e))) :
    (e.code = "LOADGEN_HANDSHAKE_REJECTED" ↔ isRejection (.returned (.error e)) = true) ∧
      e.code ≠ crashCode := by
  have hfatal := h.isFatal_eq_false
  -- a session ends with an error of the wire or with a rejection
  cases e with
  | wire cause =>
    obtain ⟨hrejected, hcrashed⟩ := code_of_wire cause
    exact ⟨⟨fun hcode => absurd hcode hrejected, fun hrejection => Bool.noConfusion hrejection⟩,
      hcrashed⟩
  | handshakeRejected response =>
    have hcrashed : "LOADGEN_HANDSHAKE_REJECTED" ≠ crashCode := by decide
    exact ⟨⟨fun _ => rfl, fun _ => rfl⟩, hcrashed⟩
  | _ => exact Bool.noConfusion hfatal

/-- An outcome shows whether its session ended in a rejection. -/
theorem Course.isRejected_outcomeAfter {setup : Option Command} {commands : List Command}
    {steps : List Step} {fate : Fate (Except Error Latency)}
    (h : Course setup commands steps fate) (id : Nat) :
    (outcomeAfter id fate).isRejected = isRejection fate := by
  cases fate with
  | crashed message =>
    have hcode : crashCode ≠ "LOADGEN_HANDSHAKE_REJECTED" := by decide
    exact decide_eq_false hcode
  | returned result =>
    cases result with
    | ok latency => rfl
    -- an error shows by its code whether it is a rejection
    | error e => exact Bool.eq_iff_iff.2 (decide_eq_true_iff.trans h.code_cases.1)

/-- At its end a worker counts its failure if it has one and did not crash. -/
theorem Course.total_closingTallies {setup : Option Command} {commands : List Command}
    {steps : List Step} {fate : Fate (Except Error Latency)}
    (h : Course setup commands steps fate) (id : Nat) :
    Tally.total (closingTallies fate) .workerFailures =
      if (outcomeAfter id fate).isFailed && !(outcomeAfter id fate).isCrashed then 1 else 0 := by
  cases fate with
  | crashed message => simp [outcomeAfter, Fate.map, outcomeOf, Outcome.isCrashed, closingTallies]
  | returned result =>
    cases result with
    | ok latency => rfl
    | error e =>
      -- what a session ends with is not the code of a crash
      have hcode : (outcomeAfter id (.returned (.error e))).isCrashed = false :=
        decide_eq_false h.code_cases.2
      rw [hcode]
      rfl

/-- What one worker counts agrees with what it did and what came of it. -/
theorem attendance_accounted (site : Site σ) (setup : Option Command) (share : List Command)
    (id : Nat) : Accounted (attendance site setup share id) := by
  obtain ⟨steps, fate, hcourse, hsteps, houtcome, hafterwards⟩ :=
    attendance_course site setup share id
  generalize attendance site setup share id = attended at hsteps houtcome hafterwards ⊢
  have htransfers := hcourse.countsTransfers
  have htallies : attended.tallies = tallies steps ++ [attended.outcome.tally] := by
    rw [Attendance.tallies, tallies_eq, hsteps, tallies_append, tallies_map_counted,
      List.append_assoc, hafterwards, tallies_of_end, houtcome]
  have hdelivered : delivered attended.connection.steps = delivered steps := by
    rw [hsteps, delivered_append, delivered_map_counted, List.append_nil]
  have hframes : frames attended.connection.steps = frames steps := by
    rw [hsteps, frames_append, frames_map_counted, List.append_nil]
  -- the session counts the transfers, and beside them there is the outcome
  have htotal : ∀ register, Tally.total attended.tallies register =
      Tally.total (tallies steps) register + Tally.total [attended.outcome.tally] register := by
    intro register
    rw [htallies, Tally.total_append]
  constructor
  case framesSent =>
    rw [htotal, htransfers.framesSent, hdelivered, Outcome.total_tally, Nat.add_zero]
  case bytesSent =>
    rw [htotal, htransfers.bytesSent, hdelivered, Outcome.total_tally, Nat.add_zero]
  case framesReceived =>
    rw [htotal, htransfers.framesReceived, hframes, Outcome.total_tally, Nat.add_zero]
  case requests => rw [htotal, htransfers.requestsCompleted, Outcome.total_tally, Nat.zero_add]
  case failures => rw [htotal, htransfers.workerFailures, Outcome.total_tally, Nat.zero_add]
  case failure_counted =>
    rw [tallies_eq, hsteps, tallies_append, tallies_map_counted, Tally.total_append,
      htransfers.workerFailures, hcourse.total_closingTallies id, houtcome, Nat.zero_add]
  case rejections =>
    rw [htotal, hcourse.total_handshakeRejections, Outcome.total_tally, Nat.add_zero, houtcome,
      hcourse.isRejected_outcomeAfter]

/-! ## The counters of a run -/

/-- How much a run adds to a counter: on the connection of its load phase, and for each worker. -/
def countedIn (config : Config) (site : Site σ) (workload : Workload) (setup : Option Command)
    (register : Register) : Nat :=
  Tally.total (tallies (loadSession site workload setup).steps) register +
    ((attendancesOf config site workload setup).map fun attended =>
      Tally.total attended.tallies register).sum

/-- What is counted on the connections of workers and what is counted afterwards are what each
worker counts. -/
theorem total_workers (attended : List (Attendance σ)) (register : Register) :
    Tally.total ((attended.map (·.connection)).flatMap Connection.tallies) register +
        Tally.total (attended.flatMap (·.afterwards)) register =
      Tally.total (attended.flatMap Attendance.tallies) register := by
  -- by induction on the workers, each of which adds on both sides what it counts
  induction attended with
  | nil => rfl
  | cons first rest ih =>
    have hfirst : Tally.total first.tallies register =
        Tally.total first.connection.tallies register + Tally.total first.afterwards register :=
      Tally.total_append ..
    simp only [List.map_cons, List.flatMap_cons, Tally.total_append, hfirst]
    omega

variable {config : Config} {site : Site σ} {occasion : Occasion} {workload : Workload}
  {setup : Option Command} {execution : Execution σ} {result : Result}

/-- A counter of a run is a sum over its load phase and its workers, unless the sum does not fit. -/
theorem Concluded.toNat_read_counters
    (h : Concluded config site occasion workload setup execution result) (register : Register)
    (hfits : countedIn config site workload setup register < UInt64.size) :
    (result.counters.read register).toNat = countedIn config site workload setup register := by
  have htotal : Tally.total (execution.connections.flatMap Connection.tallies ++
      (attendancesOf config site workload setup).flatMap (·.afterwards)) register =
        -- the counts of the load phase and of the workers are put in one row
        countedIn config site workload setup register := by
    rw [h.connected, List.flatMap_cons, Tally.total_append, Tally.total_append, Nat.add_assoc,
      total_workers, Tally.total_flatMap]
    rfl
  rw [h.counters_eq, Counters.toNat_read_ofTallies (htotal ▸ hfits), htotal]

/-- Every worker of a run is accounted for. -/
theorem accounted_of_mem {attended : Attendance σ}
    (h : attended ∈ attendancesOf config site workload setup) : Accounted attended := by
  obtain ⟨⟨share, id⟩, -, rfl⟩ := List.mem_map.1 h
  exact attendance_accounted site setup share id

end PolicyReplay.Run
