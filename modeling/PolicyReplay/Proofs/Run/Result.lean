import PolicyReplay.Proofs.Run.Gating

/-!
# Runs that have a result

A run has a result only if all of its stages succeeded, so its result tells what came of every
worker, and its connections are that of the load phase and one for each worker.

## Key results

- `attendance_course`: a worker is a session, its outcome is that of the session
- `connections_cases`: which connections a run makes
- `execute_concluded`: what there is to know of a run that has a result
- `ofOutcomes_eq_ok_iff`: what the aggregate of outcomes says of them
-/

namespace PolicyReplay.Run

open Transcript

variable {σ : Type}

/-! ## The workers of a run -/

/-- What comes of the workers of a run, each with its share of the run trace. -/
def attendancesOf (config : Config) (site : Site σ) (workload : Workload)
    (setup : Option Command) : List (Attendance σ) :=
  attendances site setup 0 (sharesOf config workload)

/-- The worker with a number has the share with that number. -/
theorem getElem?_attendances (site : Site σ) (setup : Option Command)
    (shares : List (List Command)) (id : Nat) :
    (attendances site setup 0 shares)[id]? =
      shares[id]?.map fun share => attendance site setup share id := by
  rw [attendances, List.getElem?_map, List.getElem?_zipIdx, Option.map_map]
  simp only [Nat.zero_add]
  rfl

/-- A list says of each worker alone what it says in its place. -/
theorem map_eq_map_attendances {α β : Type} {site : Site σ} {setup : Option Command}
    {shares : List (List Command)} {items : List α} {f : α → β} {g : Attendance σ → β}
    (hlength : items.length = shares.length)
    (h : ∀ id share, shares[id]? = some share →
      ∃ item, items[id]? = some item ∧ f item = g (attendance site setup share id)) :
    items.map f = (attendances site setup 0 shares).map g := by
  refine List.ext_getElem? fun id => ?_
  rw [List.getElem?_map, List.getElem?_map, getElem?_attendances]
  -- the two lists are as long as the shares, so they are compared place by place
  cases hshare : shares[id]? with
  | none =>
    have hnone : items[id]? = none := by
      rw [List.getElem?_eq_none_iff, hlength]
      exact List.getElem?_eq_none_iff.1 hshare
    rw [hnone]
    rfl
  | some share =>
    obtain ⟨item, hitem, heq⟩ := h id share hshare
    rw [hitem]
    exact congrArg some heq

/-- There are as many attendances as clients. -/
theorem length_attendancesOf (config : Config) (site : Site σ) (workload : Workload)
    (setup : Option Command) :
    (attendancesOf config site workload setup).length = config.clients := by
  rw [attendancesOf, length_attendances, sharesOf, RoundRobin.length_deal]

/-- What comes of a worker whose session ended so. -/
def outcomeAfter (id : Nat) (fate : Fate (Except Error Latency)) : Outcome :=
  outcomeOf id (fate.map fun result => result.map fun latency => ⟨id, latency⟩)

/-- What is counted for a worker whose session ended so. -/
def afterwardsAfter (id : Nat) (fate : Fate (Except Error Latency)) : List Tally :=
  afterwardsOf (fate.map fun result => result.map fun latency => (⟨id, latency⟩ : WorkerReport))

/-- A worker is a session, its outcome is that of the session, and after the session nothing is done
but counting. -/
theorem attendance_course (site : Site σ) (setup : Option Command) (share : List Command)
    (id : Nat) :
    ∃ steps fate, Course setup share steps fate ∧
      (attendance site setup share id).connection.steps =
        steps ++ (closingTallies fate).map .counted ∧
      (attendance site setup share id).outcome = outcomeAfter id fate ∧
      (attendance site setup share id).afterwards = afterwardsAfter id fate := by
  simp only [attendance, Connection.ofAccount, worker_account]
  exact ⟨_, _, session_course .., rfl, rfl, rfl⟩

variable {files : Files} {config : Config} {site : Site σ} {occasion : Occasion}
  {workload : Workload} {setup : Option Command} {least : Severity} {result : Result}

/-! ## Connections -/

/-- The session of the load phase takes a course. -/
theorem course_loadSession (site : Site σ) (workload : Workload) (setup : Option Command) :
    Course setup workload.load (loadSession site workload setup).steps
      (loadSession site workload setup).fate :=
  session_course ..

/-- A run makes the connection of the load phase only, or those of its workers too. -/
theorem connections_cases (config : Config) (site : Site σ) (occasion : Occasion)
    (workload : Workload) (setup : Option Command) :
    (carriedOut config site occasion workload setup).connections =
        [.ofAccount (loadSession site workload setup)] ∨
      (carriedOut config site occasion workload setup).connections =
        .ofAccount (loadSession site workload setup) ::
          (attendancesOf config site workload setup).map (·.connection) := by
  simp only [carriedOut]
  -- the cases are the ends of a run, and only the last of them has workers
  split
  · exact .inl rfl
  · exact .inl rfl
  · split
    · exact .inl rfl
    · rename_i shares hshares
      obtain ⟨-, rfl⟩ := Capacity.reserve_eq_returned_iff.1 hshares
      exact .inr rfl

/-- A run makes no connection if it lacks room for a value, and else it is carried out. -/
theorem execute_of_ready_cases (site : Site σ) (occasion : Occasion) (least : Severity)
    (hready : Ready files config workload setup) :
    ((execute files config site occasion).run least).2 =
        carriedOut config site occasion workload setup ∨
      Unstarted ((execute files config site occasion).run least).2 := by
  by_cases hroom : config.valueSize ≤ Capacity.maxOctets
  · exact .inl (execute_of_ready hready hroom)
  · exact .inr (execute_of_not_ready fun _ _ _ => hroom)

/-- A connection of a run after the first is that of a worker with its share. -/
theorem share_of_connection (hready : Ready files config workload setup) {id : Nat}
    {connection : Connection σ}
    (h : ((execute files config site occasion).run least).2.connections[id + 1]? =
      some connection) :
    ∃ share, (sharesOf config workload)[id]? = some share ∧
      (attendance site setup share id).connection = connection := by
  -- a run without workers has no connection behind that of the load phase
  have hworker : ((attendancesOf config site workload setup).map (·.connection))[id]? =
      some connection := by
    rcases execute_of_ready_cases site occasion least hready with hexecution | hunstarted
    · rw [hexecution] at h
      rcases connections_cases config site occasion workload setup with hone | hall
      · rw [hone] at h
        cases h
      · rwa [hall, List.getElem?_cons_succ] at h
    · rw [hunstarted.no_connections] at h
      cases h
  rwa [List.getElem?_map, attendancesOf, getElem?_attendances, Option.map_map,
    Option.map_eq_some_iff] at hworker

/-! ## What a result tells -/

/-- What there is to know of a run that has a result: that its load phase succeeded, what came of
its workers, and which connections it made. -/
structure Concluded (config : Config) (site : Site σ) (occasion : Occasion) (workload : Workload)
    (setup : Option Command) (execution : Execution σ) (result : Result) : Prop where
  room : config.clients * RoundRobin.handSize ≤ Capacity.maxOctets
  loaded : ∃ latency, (loadSession site workload setup).fate = .returned (.ok latency)
  aggregated : Aggregate.ofOutcomes result.outcomes occasion.runElapsed = .ok result.aggregate
  told : result = resultOf site occasion workload (.ofAccount (loadSession site workload setup))
    (attendancesOf config site workload setup) result.aggregate
  connected : execution.connections = .ofAccount (loadSession site workload setup) ::
    (attendancesOf config site workload setup).map (·.connection)

/-- A run that is carried out has a result only if it is brought to its end. -/
theorem concluded_of_carriedOut
    (h : (carriedOut config site occasion workload setup).fate = .returned (.ok result)) :
    Concluded config site occasion workload setup
      (carriedOut config site occasion workload setup) result := by
  -- the load phase has to succeed, the hands to be laid out and the aggregate to be made
  cases hload : (loadSession site workload setup).fate with
  | crashed message =>
    simp only [carriedOut, hload] at h
    cases h
  | returned loaded =>
    cases loaded with
    | error cause =>
      simp only [carriedOut, hload] at h
      cases h
    | ok latency =>
      cases hshares : RoundRobin.layOut config.clients workload.run with
      | crashed message =>
        simp only [carriedOut, hload, hshares] at h
        cases h
      | returned shares =>
        obtain ⟨hroom, rfl⟩ := Capacity.reserve_eq_returned_iff.1 hshares
        have hconcluded : carriedOut config site occasion workload setup =
            concluded site occasion workload (.ofAccount (loadSession site workload setup))
              (attendancesOf config site workload setup) := by
          simp only [carriedOut, hload, hshares]
          rfl
        rw [hconcluded] at h ⊢
        simp only [concluded] at h
        split at h
        · cases h
        · -- the result is made of what came of the workers
          rename_i aggregate haggregate
          obtain rfl := Except.ok.inj (Fate.returned.inj h)
          exact ⟨hroom, ⟨latency, hload⟩, haggregate, rfl, rfl⟩

/-- A run that has a result had all its parts and was brought to its end. -/
theorem execute_concluded
    (h : ((execute files config site occasion).run least).2.fate = .returned (.ok result)) :
    ∃ workload setup, Ready files config workload setup ∧
      Concluded config site occasion workload setup
        ((execute files config site occasion).run least).2 result := by
  rcases execute_cases files config site occasion least with
    hunstarted | ⟨workload, setup, hready, hexecution⟩
  · exact absurd h (hunstarted.no_result result)
  · rw [hexecution] at h ⊢
    exact ⟨workload, setup, hready, concluded_of_carriedOut h⟩

/-- The parts of a run are determined by what it is asked to do. -/
theorem Concluded.of_ready (hready : Ready files config workload setup)
    (h : ((execute files config site occasion).run least).2.fate = .returned (.ok result)) :
    Concluded config site occasion workload setup
      ((execute files config site occasion).run least).2 result := by
  rcases execute_of_ready_cases site occasion least hready with hexecution | hunstarted
  · rw [hexecution] at h ⊢
    exact concluded_of_carriedOut h
  · exact absurd h (hunstarted.no_result result)

section Concluded

variable {execution : Execution σ}
  (h : Concluded config site occasion workload setup execution result)

include h

/-- The outcomes of a result are those of its workers. -/
theorem Concluded.outcomes_eq :
    result.outcomes = (attendancesOf config site workload setup).map (·.outcome) := by
  rw [h.told]
  rfl

/-- The counters of a result are what was counted on its connections and afterwards. -/
theorem Concluded.counters_eq :
    result.counters = .ofTallies (execution.connections.flatMap Connection.tallies ++
      (attendancesOf config site workload setup).flatMap (·.afterwards)) := by
  rw [h.told, h.connected]
  rfl

/-- If no outcome is a failure, no worker failed. -/
theorem Concluded.isFailed_eq_false
    (hcompleted : ∀ outcome ∈ result.outcomes, outcome.isFailed = false) :
    ∀ attended ∈ attendancesOf config site workload setup, attended.outcome.isFailed = false := by
  intro attended hattended
  refine hcompleted attended.outcome ?_
  rw [h.outcomes_eq]
  exact List.mem_map_of_mem hattended

/-- There are as many outcomes as clients. -/
theorem Concluded.length_outcomes : result.outcomes.length = config.clients := by
  rw [h.outcomes_eq, List.length_map, length_attendancesOf]

end Concluded

/-! ## The aggregate -/

/-- There is a mean latency of each worker that measured any. -/
theorem length_means {reports : List WorkerReport} {means : List Duration}
    (h : Aggregate.means reports = .ok means) :
    means.length = reports.countP fun report => report.latency.count ≠ 0 := by
  obtain ⟨all, hall, hmeans⟩ := Except.bind_eq_ok_iff.1 h
  obtain rfl := Except.ok.inj hmeans
  rw [Except.mapM_eq_ok_iff] at hall
  clear h hmeans
  -- by induction on the reports and their means
  induction hall with
  | nil => rfl
  | @cons report mean reports all hmean hall ih =>
    rw [List.countP_cons]
    by_cases hcount : report.latency.count = 0
    · -- nothing was measured, so there is no mean
      obtain rfl : none = mean := by simpa [Latency.mean, hcount] using hmean
      simpa [hcount] using ih
    · obtain ⟨d, rfl⟩ : ∃ d, mean = some d := by
        simp only [Latency.mean, hcount, ↓reduceIte] at hmean
        cases hd : Duration.ofSeconds
            (report.latency.sum.toSeconds / (UInt64.ofNat report.latency.count).toFloat) with
        | error overflow => rw [hd] at hmean; exact nomatch hmean
        | ok d => rw [hd] at hmean; exact ⟨d, (Except.ok.inj hmean).symm⟩
      simpa [hcount] using ih

/-- What the aggregate of outcomes says of them, if there is one. -/
theorem ofOutcomes_eq_ok_iff {outcomes : List Outcome} {elapsed : Duration}
    {aggregate : Aggregate} :
    Aggregate.ofOutcomes outcomes elapsed = .ok aggregate ↔
      ∃ means mean, Aggregate.means (outcomes.filterMap Outcome.report?) = .ok means ∧
        Aggregate.meanOf means = .ok mean ∧
        (requestCounts outcomes).sum < Latency.countBound ∧
        aggregate = ⟨mean, elapsed, means.length, outcomes.countP Outcome.isFailed,
          (requestCounts outcomes).sum⟩ := by
  -- the sum of the requests is taken with a check that it fits
  have htotal : ∀ n, Aggregate.total (requestCounts outcomes) = .ok n ↔
      (requestCounts outcomes).sum < Latency.countBound ∧ (requestCounts outcomes).sum = n := by
    intro n
    rw [Aggregate.total, ← List.sum_eq_foldl_nat]
    by_cases hfits : (requestCounts outcomes).sum < Latency.countBound
    · simp [hfits]
    · simp [hfits]
  simp only [Aggregate.ofOutcomes, Except.bind_eq_ok_iff]
  constructor
  · rintro ⟨means, hmeans, mean, hmean, requests, hrequests, haggregate⟩
    obtain ⟨hfits, rfl⟩ := (htotal requests).1 hrequests
    exact ⟨means, mean, hmeans, hmean, hfits, (Except.ok.inj haggregate).symm⟩
  · rintro ⟨means, mean, hmeans, hmean, hfits, rfl⟩
    exact ⟨means, hmeans, mean, hmean, _, (htotal _).2 ⟨hfits, rfl⟩, rfl⟩

end PolicyReplay.Run
