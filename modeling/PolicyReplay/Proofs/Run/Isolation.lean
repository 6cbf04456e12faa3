import PolicyReplay.Proofs.Run.Interleaving

/-!
# Workers that do not notice each other

In whatever order the workers of a run move, each of them does what it does alone, and the run comes
to the same outcomes, up to the durations measured, and to the same counters. So a worker whose
connection behaves in another way changes its own outcome and what it counts itself, and nothing
else.

## Key results

- `settled_interleaved`: what an interleaving of the workers of a run comes to
- `Concluded.settles`: a run that has a result comes to that too
- `execute_isolates`: the workers of a run are isolated from each other
-/

namespace PolicyReplay.Run

open Transcript

variable {σ : Type}

/-! ## Sites -/

/-- The clock of a site does not go back. -/
def Site.Steady (site : Site σ) : Prop := ∃ passed, site.SteadyWith passed

/-- So it is where no time passes, as with the stand-ins for a controller. -/
theorem Site.steady_of_still {site : Site σ} (h : ∀ s, (site.peer.clock s).1 = .zero) :
    site.Steady :=
  ⟨_, Peer.steady_of_still h, fun _ => rfl⟩

/-- A site on which one worker finds another connection. -/
def Site.withWorker (site : Site σ) (id : Nat) (s : σ) : Site σ :=
  { site with opening := fun n => if n = id + 1 then s else site.opening n }

/-- Another connection of one worker makes no difference to the load phase. -/
theorem loadSession_withWorker (site : Site σ) (id : Nat) (s : σ) (workload : Workload)
    (setup : Option Command) :
    loadSession (site.withWorker id s) workload setup = loadSession site workload setup := rfl

/-- Another connection of one worker makes no difference to another worker. -/
theorem attendance_withWorker {site : Site σ} {id other : Nat} (hother : other ≠ id) (s : σ)
    (setup : Option Command) (share : List Command) :
    attendance (site.withWorker id s) setup share other = attendance site setup share other := by
  have hopening : (site.withWorker id s).opening (other + 1) = site.opening (other + 1) :=
    if_neg fun h => hother (Nat.succ.inj h)
  simp only [attendance, hopening]
  rfl

/-- Another connection of one worker makes no difference to what comes of the others. -/
theorem eraseIdx_attendances_withWorker (site : Site σ) (id : Nat) (s : σ)
    (setup : Option Command) (shares : List (List Command)) :
    (attendances (site.withWorker id s) setup 0 shares).eraseIdx id =
      (attendances site setup 0 shares).eraseIdx id := by
  have hsame : ∀ other, other ≠ id → (attendances (site.withWorker id s) setup 0 shares)[other]? =
      (attendances site setup 0 shares)[other]? := by
    intro other hother
    rw [getElem?_attendances, getElem?_attendances]
    exact Option.map_congr fun share _ => attendance_withWorker hother s setup share
  -- behind the place of the worker all places move up by one
  refine List.ext_getElem? fun index => ?_
  rw [List.getElem?_eraseIdx, List.getElem?_eraseIdx]
  split
  · exact hsame index (by omega)
  · exact hsame (index + 1) (by omega)

/-! ## Contributions to the counters -/

/-- What the workers count is what one of them counts and what the others count. -/
theorem total_eraseIdx {attended : List (Attendance σ)} {id : Nat} {one : Attendance σ}
    (h : attended[id]? = some one) (register : Register) :
    Tally.total (attended.flatMap Attendance.tallies) register =
      Tally.total ((attended.eraseIdx id).flatMap Attendance.tallies) register +
        Tally.total one.tallies register := by
  -- by induction on the workers in front of the one that is taken out
  induction attended generalizing id with
  | nil => simp at h
  | cons first rest ih =>
    cases id with
    | zero =>
      obtain rfl := Option.some.inj h
      rw [List.eraseIdx_cons_zero, List.flatMap_cons, Tally.total_append, Nat.add_comm]
    | succ id =>
      rw [List.eraseIdx_cons_succ, List.flatMap_cons, List.flatMap_cons, Tally.total_append,
        Tally.total_append, ih h, Nat.add_assoc]

/-- What one worker counts can be added after what the others count. -/
theorem foldl_add_eraseIdx {attended : List (Attendance σ)} {id : Nat} {one : Attendance σ}
    (h : attended[id]? = some one) (before : Counters) :
    (attended.flatMap Attendance.tallies).foldl Counters.add before =
      one.tallies.foldl Counters.add
        (((attended.eraseIdx id).flatMap Attendance.tallies).foldl Counters.add before) := by
  -- counters are sums, so their order does not matter
  refine Counters.ext_read fun register => ?_
  rw [Counters.read_foldl_add, Counters.read_foldl_add, Counters.read_foldl_add,
    total_eraseIdx h, UInt64.ofNat_add, UInt64.add_assoc]

/-! ## Interleavings of a run -/

variable {config : Config} {site : Site σ} {workload : Workload} {setup : Option Command}

/-- The counters after the load phase of a run. -/
def loadCounters (site : Site σ) (workload : Workload) (setup : Option Command) : Counters :=
  .ofTallies (tallies (loadSession site workload setup).steps)

/-- The workers of a run after its load phase and what happened then. -/
def interleaved (config : Config) (site : Site σ) (workload : Workload) (setup : Option Command)
    (moves : List Move) : Crew σ :=
  (Crew.start site setup (sharesOf config workload) (loadCounters site workload setup)).run
    site.peer moves

/-- What an interleaving of the workers of a run comes to. -/
theorem settled_interleaved (hsteady : site.Steady) {moves : List Move}
    (hfinished : (interleaved config site workload setup moves).Finished) :
    Settled site setup (sharesOf config workload) (loadCounters site workload setup)
      (interleaved config site workload setup moves) := by
  -- the workers follow what they do alone, from the start on
  obtain ⟨passed, hpassed⟩ := hsteady
  exact ((sound_start hpassed).run hpassed moves).settled hfinished

/-- Every interleaving of the workers of a run can be brought to its end. -/
theorem exists_interleaved_finished (hsteady : site.Steady) (moves : List Move) :
    ∃ more, (interleaved config site workload setup (moves ++ more)).Finished := by
  obtain ⟨passed, hpassed⟩ := hsteady
  obtain ⟨more, hmore⟩ := Crew.exists_run_finished site.peer
    ((sound_start hpassed).run hpassed moves).joined_le
  refine ⟨more, ?_⟩
  rw [interleaved, Crew.run_append]
  exact hmore

/-- The outcomes of an interleaving are those of its workers alone, up to durations. -/
theorem Settled.untimed_joined {before : Counters} {shares : List (List Command)} {crew : Crew σ}
    (h : Settled site setup shares before crew) :
    crew.joined.map Outcome.untimed =
      (attendances site setup 0 shares).map fun attended => attended.outcome.untimed := by
  refine map_eq_map_attendances h.length fun id share hshare => ?_
  obtain ⟨outcome, task, houtcome, -, -, huntimed, -⟩ := h.alone id share hshare
  exact ⟨outcome, houtcome, huntimed⟩

/-- A run that has a result comes to what every interleaving of its workers comes to. -/
theorem Concluded.settles {occasion : Occasion} {execution : Execution σ} {result : Result}
    {crew : Crew σ} (h : Concluded config site occasion workload setup execution result)
    (hcrew : Settled site setup (sharesOf config workload) (loadCounters site workload setup)
      crew) :
    result.outcomes.map Outcome.untimed = crew.joined.map Outcome.untimed ∧
      result.counters = crew.counters := by
  constructor
  · rw [h.outcomes_eq, hcrew.untimed_joined, List.map_map, attendancesOf]
    rfl
  · rw [h.counters_eq, hcrew.counters, h.connected, loadCounters, Counters.ofTallies,
      Counters.ofTallies, ← List.foldl_append]
    -- the counters are sums over the load phase and the workers, however these are put together
    refine Counters.ext_read fun register => ?_
    rw [Counters.read_foldl_add, Counters.read_foldl_add, List.flatMap_cons, Tally.total_append,
      Tally.total_append, Tally.total_append, Nat.add_assoc, total_workers, attendancesOf]
    rfl

/-! ## Isolation -/

/-- What a worker leaves that is alone on its connection. -/
def solo (site : Site σ) (setup : Option Command) (share : List Command) (id : Nat)
    (least : Severity) : Attendance σ :=
  ((attend site id setup share (site.opening (id + 1))).run least).2

/-- What every interleaving of the workers of a run comes to. -/
structure Isolated (config : Config) (site : Site σ) (workload : Workload)
    (setup : Option Command) (least : Severity) (crew : Crew σ) : Prop where
  length : crew.joined.length = config.clients
  /-- In the place of each worker there is an outcome with its number, which is that of the worker
  alone, up to durations. -/
  outcomes : ∀ id share, (RoundRobin.deal config.clients workload.run)[id]? = some share →
    ∃ outcome, crew.joined[id]? = some outcome ∧ outcome.worker = id ∧
      outcome.untimed = (solo site setup share id least).outcome.untimed
  /-- The counters do not depend on the interleaving. -/
  counters : ∀ moves, (interleaved config site workload setup moves).Finished →
    (interleaved config site workload setup moves).counters = crew.counters
  /-- If the run has a result, it tells of these outcomes and counters. -/
  result : ∀ files occasion result, Ready files config workload setup →
    ((execute files config site occasion).run least).2.fate = .returned (.ok result) →
      result.outcomes.map Outcome.untimed = crew.joined.map Outcome.untimed ∧
        result.counters = crew.counters

/-- What is different if one worker finds another connection: its own outcome, and what it counts
itself. -/
structure ChangedOnly (site : Site σ) (setup : Option Command) (share : List Command) (id : Nat)
    (s : σ) (least : Severity) (crew changed : Crew σ) : Prop where
  outcomes : ∀ other, other ≠ id →
    changed.joined[other]?.map Outcome.untimed = crew.joined[other]?.map Outcome.untimed
  counters : ∃ common : Counters,
    crew.counters = (solo site setup share id least).tallies.foldl Counters.add common ∧
    changed.counters =
      (solo (site.withWorker id s) setup share id least).tallies.foldl Counters.add common

/-- Settled interleavings on two sites differ in the one worker only. -/
theorem Settled.changedOnly {before : Counters} {shares : List (List Command)} {id : Nat}
    {share : List Command} {s : σ} {crew changed : Crew σ} (least : Severity)
    (hshare : shares[id]? = some share) (hcrew : Settled site setup shares before crew)
    (hchanged : Settled (site.withWorker id s) setup shares before changed) :
    ChangedOnly site setup share id s least crew changed where
  outcomes := by
    intro other hother
    rw [← List.getElem?_map, ← List.getElem?_map, hcrew.untimed_joined, hchanged.untimed_joined,
      List.getElem?_map, List.getElem?_map, getElem?_attendances, getElem?_attendances,
      Option.map_map, Option.map_map]
    refine Option.map_congr fun share _ => ?_
    simp only [Function.comp_apply, attendance_withWorker hother]
  counters := by
    -- alone, the worker comes to what it comes to at its place among the others
    have hattended : ∀ site : Site σ, (attendances site setup 0 shares)[id]? =
        some (solo site setup share id least) := by
      intro site
      rw [getElem?_attendances, hshare, solo, run_attend]
      rfl
    -- what the others count is the same on both sites
    refine ⟨(((attendances site setup 0 shares).eraseIdx id).flatMap
      Attendance.tallies).foldl Counters.add before, ?_, ?_⟩
    · rw [hcrew.counters]
      exact foldl_add_eraseIdx (hattended site) before
    · rw [hchanged.counters, ← eraseIdx_attendances_withWorker site id s]
      exact foldl_add_eraseIdx (hattended (site.withWorker id s)) before

/-- The workers of a run are isolated from each other. Every interleaving of their moves can be
brought to its end, and comes to the same as every other one: to what each worker does alone. If one
worker finds another connection, nothing is different but its own outcome and what it counts
itself. -/
theorem execute_isolates (config : Config) (site : Site σ) (workload : Workload)
    (setup : Option Command) (least : Severity) (hsteady : site.Steady) :
    let crew := interleaved config site workload setup
    (∀ moves, ∃ more, (crew (moves ++ more)).Finished) ∧
    (∀ moves, (crew moves).Finished → Isolated config site workload setup least (crew moves)) ∧
    ∀ id share s, (RoundRobin.deal config.clients workload.run)[id]? = some share →
      (site.withWorker id s).Steady →
        let changed := interleaved config (site.withWorker id s) workload setup
        ∀ moves others, (crew moves).Finished → (changed others).Finished →
          ChangedOnly site setup share id s least (crew moves) (changed others) := by
  intro crew
  refine ⟨exists_interleaved_finished hsteady, fun moves hfinished => ?_, ?_⟩
  · have hsettled := settled_interleaved hsteady hfinished
    constructor
    case length => rw [hsettled.length, sharesOf, RoundRobin.length_deal]
    case outcomes =>
      intro id share hshare
      obtain ⟨outcome, task, houtcome, -, hworker, huntimed, -⟩ := hsettled.alone id share hshare
      refine ⟨outcome, houtcome, hworker, ?_⟩
      rw [solo, run_attend]
      exact huntimed
    case counters =>
      intro others hothers
      rw [hsettled.counters, (settled_interleaved hsteady hothers).counters]
    case result =>
      intro files occasion result hready hresult
      exact (Concluded.of_ready hready hresult).settles hsettled
  · intro id share s hshare hsteady' changed moves others hfinished hfinished'
    have hchanged := settled_interleaved hsteady' hfinished'
    -- the load phase is the same on both sites
    rw [loadCounters, loadSession_withWorker, ← loadCounters] at hchanged
    exact (settled_interleaved hsteady hfinished).changedOnly least hshare hchanged

/-- Two workers that take turns, and the same two where the first one ends in opening its connection
after the second is through. -/
theorem execute_isolates_crashing :
    let config : Config := { workload := "w", traceFolder := "t", clients := 2, valueSize := 3 }
    let workload : Workload := ⟨"w", [⟨"get a"⟩], [⟨"get b"⟩, ⟨"get c"⟩]⟩
    let site : Site Nat := {
      endpoint := "mock://controller"
      peer := {
        connect := fun n => (if n = 9 then .crashed "no descriptors" else .opened, n)
        send := fun _ n => (.ok (), n)
        receive := fun n => (.ok (some []), n)
        close := fun n => (.ok (), n)
        clock := fun n => (.zero, n) }
      opening := id }
    let crew := interleaved config site workload none
      ((List.replicate 24 [.work 0, .work 1]).flatten ++ [.join, .join])
    let changed := interleaved config (site.withWorker 0 9) workload none
      (List.replicate 24 (.work 1) ++ [.work 0, .join, .join])
    site.Steady ∧ (site.withWorker 0 9).Steady ∧ crew.Finished ∧ changed.Finished ∧
      Isolated config site workload none .info crew ∧
      ChangedOnly site none [⟨"get b"⟩] 0 9 .info crew changed ∧
      crew.joined = [.completed ⟨0, ⟨.zero, 1⟩⟩, .completed ⟨1, ⟨.zero, 1⟩⟩] ∧
      changed.joined =
        [.failed 0 crashCode (crashReason 0 "no descriptors"), .completed ⟨1, ⟨.zero, 1⟩⟩] := by
  intro config workload site crew changed
  have hsteady : site.Steady := Site.steady_of_still fun _ => rfl
  have hsteady' : (site.withWorker 0 9).Steady := Site.steady_of_still fun _ => rfl
  have hfinished : crew.Finished := by decide +kernel
  have hfinished' : changed.Finished := by decide +kernel
  have hisolates := execute_isolates config site workload none .info hsteady
  refine ⟨hsteady, hsteady', hfinished, hfinished', hisolates.2.1 _ hfinished, ?_, ?_, ?_⟩
  · exact hisolates.2.2 0 [⟨"get b"⟩] 9 rfl hsteady' _ _ hfinished hfinished'
  · decide +kernel
  · decide +kernel

end PolicyReplay.Run
