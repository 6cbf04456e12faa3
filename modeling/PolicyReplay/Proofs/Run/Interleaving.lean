import PolicyReplay.Proofs.Run.Tallies
import PolicyReplay.Proofs.Session.Timing
import PolicyReplay.Proofs.Task

/-!
# Workers side by side

The workers of a run go on side by side, and nothing is said of the order of their moves. They share
the clock and the counters. To the counters they only add, each addition being a move of its own, so
no worker is told anything of another. The run waits for its workers in the order of their numbers,
and counts the failure of one that crashed when it comes to that one.

## Key results

- `Sound.run`: what holds throughout every interleaving
- `Sound.settled`: what an interleaving comes to, by what its workers do alone
- `exists_run_finished`: every interleaving can be brought to its end
-/

namespace PolicyReplay.Run

open Transcript

variable {σ : Type}

/-- The workers of a run side by side. -/
structure Crew (σ : Type) where
  /-- What the clock shows. -/
  time : Duration
  /-- The workers, in the order of their numbers. -/
  tasks : List (Task σ (Except Error WorkerReport))
  /-- What came of the workers that the run has waited for so far. -/
  joined : List Outcome
  counters : Counters

/-- What may happen next. -/
inductive Move where
  /-- Time passes until then, unless it is later already. -/
  | tick (time : Duration)
  /-- A worker makes a move. -/
  | work (worker : Nat)
  /-- The run takes note of the next worker, if that has ended. -/
  | join
  deriving Repr

namespace Crew

/-- Workers that are about to begin, each with its share. -/
def start (site : Site σ) (setup : Option Command) (shares : List (List Command))
    (before : Counters) : Crew σ where
  time := .zero
  tasks := shares.zipIdx.map fun (share, id) =>
    .start (worker site.endpoint id setup share) (site.opening (id + 1))
  joined := []
  counters := before

/-- Let one thing happen. Where it cannot, nothing does. -/
def move (peer : Peer σ) (crew : Crew σ) : Move → Crew σ
  | .tick time => { crew with time := if crew.time.nanos ≤ time.nanos then time else crew.time }
  | .work id =>
    match crew.tasks[id]? with
    | none => crew
    | some task =>
      let (task, increment) := task.work peer crew.time
      { crew with
        tasks := crew.tasks.set id task
        counters := increment.toList.foldl Counters.bump crew.counters }
  | .join =>
    match crew.tasks[crew.joined.length]?.bind Task.fate? with
    | none => crew
    | some fate =>
      { crew with
        joined := crew.joined ++ [outcomeOf crew.joined.length fate]
        counters := (afterwardsOf fate).foldl Counters.add crew.counters }

/-- Let things happen one after the other. -/
def run (peer : Peer σ) (crew : Crew σ) (moves : List Move) : Crew σ := moves.foldl (move peer) crew

/-- The run has waited for all of its workers. -/
def Finished (crew : Crew σ) : Prop := crew.joined.length = crew.tasks.length

instance (crew : Crew σ) : Decidable crew.Finished := inferInstanceAs (Decidable (_ = _))

/-- The first thing happens before the others. -/
theorem run_cons (peer : Peer σ) (crew : Crew σ) (next : Move) (moves : List Move) :
    crew.run peer (next :: moves) = (crew.move peer next).run peer moves := rfl

/-- What happens in two parts happens in one, one after the other. -/
theorem run_append (peer : Peer σ) (crew : Crew σ) (first rest : List Move) :
    crew.run peer (first ++ rest) = (crew.run peer first).run peer rest :=
  List.foldl_append

end Crew

/-! ## Outcomes up to durations -/

/-- The number of the worker that an outcome is of. -/
def Outcome.worker : Outcome → Nat
  | completed report => report.worker
  | failed worker _ _ => worker

/-- An outcome without the durations measured. -/
def Outcome.untimed : Outcome → Outcome
  | completed report => completed ⟨report.worker, ⟨.zero, report.latency.count⟩⟩
  | failed worker code reason => failed worker code reason

/-- Leaving the durations out leaves the number of the worker. -/
@[simp] theorem Outcome.worker_untimed (outcome : Outcome) :
    outcome.untimed.worker = outcome.worker := by
  cases outcome <;> rfl

/-- What comes of workers that end in the same way is the same up to durations. -/
theorem untimed_outcomeOf {fate fate' : Fate (Except Error WorkerReport)}
    (h : Fate.Alike SameReport fate fate') (id : Nat) :
    (outcomeOf id fate).untimed = (outcomeOf id fate').untimed := by
  -- workers end alike by crashing alike, with the same error, or with reports of the same count
  cases h with
  | crashed message => rfl
  | @returned result result' hresult =>
    cases result with
    | error e =>
      cases result' with
      | error e' => rw [Except.error.inj hresult]
      | ok report' => cases hresult
    | ok report =>
      cases result' with
      | error e' => cases hresult
      | ok report' =>
        obtain ⟨hworker, hcount⟩ := Prod.mk.inj (Except.ok.inj hresult)
        simp only [outcomeOf, Outcome.untimed, hworker, hcount]

/-- What is counted for workers that end in the same way is the same. -/
theorem afterwardsOf_eq {fate fate' : Fate (Except Error WorkerReport)}
    (h : Fate.Alike SameReport fate fate') : afterwardsOf fate = afterwardsOf fate' := by
  cases h with
  | crashed message => rfl
  | returned hresult => rfl

/-- The outcome of a worker carries its number. -/
theorem worker_attendance (site : Site σ) (setup : Option Command) (share : List Command)
    (id : Nat) : (attendance site setup share id).outcome.worker = id := by
  obtain ⟨steps, fate, -, -, houtcome, -⟩ := attendance_course site setup share id
  rw [houtcome]
  -- however the session ended, the number of the worker is put in
  cases fate with
  | crashed message => rfl
  | returned result =>
    cases result with
    | error e => rfl
    | ok latency => rfl

/-! ## What holds throughout -/

/-- The account of a worker that is alone. -/
def workerAccount (site : Site σ) (setup : Option Command) (share : List Command) (id : Nat) :
    Account σ (Except Error WorkerReport) :=
  (worker site.endpoint id setup share).account site.peer (site.opening (id + 1))

/-- The clock of a site does not go back, on whichever connection it is looked at. -/
def Site.SteadyWith (site : Site σ) (passed : σ → Nat → Prop) : Prop :=
  site.peer.Steady passed ∧ ∀ n, passed (site.opening n) 0

/-- What holds of the workers of a run at any time. -/
structure Sound (site : Site σ) (passed : σ → Nat → Prop) (setup : Option Command)
    (shares : List (List Command)) (before : Counters) (crew : Crew σ) : Prop where
  length : crew.tasks.length = shares.length
  /-- Each worker does what it does alone. -/
  follows : ∀ id share task, shares[id]? = some share → crew.tasks[id]? = some task →
    Task.Follows site.peer passed SameReport (workerAccount site setup share id)
      crew.time.nanos task
  /-- The workers that were waited for have ended. -/
  joined : ∀ id outcome, crew.joined[id]? = some outcome →
    ∃ task fate, crew.tasks[id]? = some task ∧ task.fate? = some fate ∧ outcome = outcomeOf id fate
  /-- What was added to the counters is what the workers counted and what was counted for them, but
  for what they have still to add. -/
  counted : ∃ made : List Increment, crew.counters = made.foldl Counters.bump before ∧
    ∀ register, Increment.total made register +
        (crew.tasks.map fun task => Increment.total task.pending register).sum =
      (crew.tasks.map fun task => Tally.total (tallies task.steps) register).sum +
        Tally.total (((attendances site setup 0 shares).take crew.joined.length).flatMap
          (·.afterwards)) register

/-- Nothing but zeros adds up to nothing. -/
theorem sum_map_eq_zero {α : Type} {f : α → Nat} {items : List α} (h : ∀ item ∈ items, f item = 0) :
    (items.map f).sum = 0 := by
  refine List.sum_eq_zero_iff_forall_eq_nat.2 fun n hn => ?_
  obtain ⟨item, hitem, rfl⟩ := List.mem_map.1 hn
  exact h item hitem

/-- A sum changes with one of its terms. -/
theorem sum_map_set {α : Type} (f : α → Nat) {items : List α} {i : Nat} {item : α}
    (h : items[i]? = some item) (new : α) :
    ((items.set i new).map f).sum + f item = (items.map f).sum + f new := by
  induction items generalizing i with
  | nil => simp at h
  -- by induction on the terms in front of the one that changes
  | cons first rest ih =>
    cases i with
    | zero =>
      obtain rfl := Option.some.inj h
      simp only [List.set_cons_zero, List.map_cons, List.sum_cons]
      omega
    | succ i =>
      have hrest := ih (i := i) h
      simp only [List.set_cons_succ, List.map_cons, List.sum_cons]
      omega

section Sound

variable {site : Site σ} {passed : σ → Nat → Prop} {setup : Option Command}
  {shares : List (List Command)} {before : Counters} {crew : Crew σ}

/-- Workers that are about to begin have done nothing yet. -/
theorem sound_start (hsteady : site.SteadyWith passed) :
    Sound site passed setup shares before (Crew.start site setup shares before) := by
  have hidle : ∀ task ∈ (Crew.start site setup shares before).tasks,
      task.pending = [] ∧ task.steps = [] := by
    intro task htask
    obtain ⟨⟨share, id⟩, -, rfl⟩ := List.mem_map.1 htask
    exact ⟨rfl, rfl⟩
  -- so each of them follows what it does alone, and nothing has been counted or noted
  constructor
  case length => simp [Crew.start]
  case follows =>
    intro id share task hshare htask
    have hstart : (Crew.start site setup shares before).tasks[id]? =
        some (.start (worker site.endpoint id setup share) (site.opening (id + 1))) := by
      simp [Crew.start, hshare]
    obtain rfl := Option.some.inj (hstart.symm.trans htask)
    exact .start (worker_alike ..) (hsteady.2 _)
  case joined =>
    intro id outcome houtcome
    exact absurd houtcome (by simp [Crew.start])
  case counted =>
    refine ⟨[], rfl, fun register => ?_⟩
    rw [sum_map_eq_zero fun task htask => by rw [(hidle task htask).1, Increment.total_nil],
      sum_map_eq_zero fun task htask => by rw [(hidle task htask).2, tallies_nil, Tally.total_nil]]
    rfl

/-- Every worker has a share. -/
theorem Sound.exists_share (h : Sound site passed setup shares before crew) {id : Nat}
    {task : Task σ (Except Error WorkerReport)} (htask : crew.tasks[id]? = some task) :
    ∃ share, shares[id]? = some share := by
  have hlt := (List.getElem?_eq_some_iff.1 htask).1
  rw [h.length] at hlt
  exact ⟨_, List.getElem?_eq_getElem hlt⟩

/-- Time passes. -/
theorem Sound.tick (h : Sound site passed setup shares before crew) (time : Duration) :
    Sound site passed setup shares before (crew.move site.peer (.tick time)) where
  length := h.length
  follows := by
    intro id share task hshare htask
    -- the clock only goes forward, and a worker that follows its dialogue by then follows it later
    refine (h.follows id share task hshare htask).mono ?_
    simp only [Crew.move]
    split
    · assumption
    · exact Nat.le_refl _
  joined := h.joined
  counted := h.counted

/-- A worker makes a move. -/
theorem Sound.work (h : Sound site passed setup shares before crew)
    (hsteady : site.SteadyWith passed) (id : Nat) :
    Sound site passed setup shares before (crew.move site.peer (.work id)) := by
  cases htask : crew.tasks[id]? with
  | none => simpa only [Crew.move, htask] using h
  | some task =>
    simp only [Crew.move, htask]
    -- of the tasks only the one that moves is another than before
    have hlookup : ∀ other, (crew.tasks.set id (task.work site.peer crew.time).1)[other]? =
        if id = other then some (task.work site.peer crew.time).1 else crew.tasks[other]? := by
      intro other
      have hlt : id < crew.tasks.length := (List.getElem?_eq_some_iff.1 htask).1
      rw [List.getElem?_set, if_pos hlt]
    constructor
    case length => rw [List.length_set, h.length]
    case follows =>
      intro other share found hshare hfound
      rw [hlookup] at hfound
      split at hfound
      · rename_i heq
        subst heq
        obtain rfl := Option.some.inj hfound
        exact (h.follows id share task hshare htask).work hsteady.1
      · exact h.follows other share found hshare hfound
    case joined =>
      intro other outcome houtcome
      obtain ⟨found, fate, hfound, hfate, houtcome⟩ := h.joined other outcome houtcome
      refine ⟨found, fate, ?_, hfate, houtcome⟩
      rw [hlookup]
      split
      · -- a worker that has ended does not move
        rename_i heq
        subst heq
        obtain rfl := Option.some.inj (htask.symm.trans hfound)
        rw [Task.work_of_ended hfate]
      · exact hfound
    case counted =>
      obtain ⟨made, hcounters, hbalance⟩ := h.counted
      refine ⟨made ++ (task.work site.peer crew.time).2.toList, ?_, fun register => ?_⟩
      · rw [List.foldl_append, ← hcounters]
      -- what the worker adds now is what it had to add, or what its step counted
      · have hpending := sum_map_set (fun task => Increment.total task.pending register) htask
          (task.work site.peer crew.time).1
        have hsteps := sum_map_set (fun task => Tally.total (tallies task.steps) register) htask
          (task.work site.peer crew.time).1
        have hwork := Task.total_work site.peer crew.time task register
        have hall := hbalance register
        dsimp only
        rw [Increment.total_append]
        omega

/-- The run takes note of a worker. -/
theorem Sound.join (h : Sound site passed setup shares before crew) :
    Sound site passed setup shares before (crew.move site.peer .join) := by
  cases hended : crew.tasks[crew.joined.length]?.bind Task.fate? with
  | none => simpa only [Crew.move, hended] using h
  | some fate =>
    obtain ⟨task, htask, hfate⟩ := Option.bind_eq_some_iff.1 hended
    simp only [Crew.move, hended]
    constructor
    case length => exact h.length
    case follows => exact h.follows
    case joined =>
      intro id outcome houtcome
      -- those noted before stand as they did, and the one noted now has ended
      rcases Nat.lt_or_ge id crew.joined.length with hid | hid
      · rw [List.getElem?_append_left hid] at houtcome
        exact h.joined id outcome houtcome
      · rw [List.getElem?_append_right hid] at houtcome
        rw [List.getElem?_singleton] at houtcome
        split at houtcome
        · obtain rfl : id = crew.joined.length := by omega
          exact ⟨task, fate, htask, hfate, (Option.some.inj houtcome).symm⟩
        · exact nomatch houtcome
    case counted =>
      obtain ⟨made, hcounters, hbalance⟩ := h.counted
      obtain ⟨share, hshare⟩ := h.exists_share htask
      -- what is counted for a worker that is alone is counted for this one
      have hattended : (attendances site setup 0 shares)[crew.joined.length]? =
          some (attendance site setup share crew.joined.length) := by
        rw [getElem?_attendances, hshare]
        rfl
      have hafterwards : (attendance site setup share crew.joined.length).afterwards =
          afterwardsOf fate :=
        (afterwardsOf_eq ((h.follows _ share task hshare htask).ended hfate).2.2).symm
      refine ⟨made ++ (afterwardsOf fate).flatMap Tally.increments, ?_, fun register => ?_⟩
      · rw [List.foldl_append, ← hcounters, Counters.foldl_bump_flatMap]
      · have hall := hbalance register
        dsimp only
        rw [Increment.total_append, Tally.total_increments, List.length_append,
          List.length_singleton, List.take_add_one, hattended, Option.toList_some,
          List.flatMap_append, Tally.total_append, List.flatMap_singleton, hafterwards]
        omega

/-- What holds of the workers holds throughout. -/
theorem Sound.run (h : Sound site passed setup shares before crew)
    (hsteady : site.SteadyWith passed) (moves : List Move) :
    Sound site passed setup shares before (crew.run site.peer moves) := by
  -- by induction on the moves, each of which keeps what holds
  induction moves generalizing crew with
  | nil => exact h
  | cons next moves ih =>
    refine ih ?_
    cases next with
    | tick time => exact h.tick time
    | work id => exact h.work hsteady id
    | join => exact h.join

/-! ## What an interleaving comes to -/

/-- What workers leave that have all ended is what each of them leaves alone, up to durations: its
outcome in the place with its number, what was done on its connection, and what it counted. -/
structure Settled (site : Site σ) (setup : Option Command) (shares : List (List Command))
    (before : Counters) (crew : Crew σ) : Prop where
  length : crew.joined.length = shares.length
  alone : ∀ id share, shares[id]? = some share → ∃ outcome task,
    crew.joined[id]? = some outcome ∧ crew.tasks[id]? = some task ∧ outcome.worker = id ∧
      outcome.untimed = (attendance site setup share id).outcome.untimed ∧
      task.steps = (attendance site setup share id).connection.steps
  counters : crew.counters =
    ((attendances site setup 0 shares).flatMap Attendance.tallies).foldl Counters.add before

/-- At the end all workers have ended. -/
theorem Sound.ended (h : Sound site passed setup shares before crew) (hfinished : crew.Finished)
    {id : Nat} {share : List Command} (hshare : shares[id]? = some share) :
    ∃ task fate, crew.tasks[id]? = some task ∧ task.fate? = some fate ∧
      crew.joined[id]? = some (outcomeOf id fate) := by
  have hlt : id < crew.joined.length := by
    rw [show crew.joined.length = _ from hfinished, h.length]
    exact (List.getElem?_eq_some_iff.1 hshare).1
  have houtcome := List.getElem?_eq_getElem hlt
  -- an outcome was noted, and it was noted of a worker that had ended
  obtain ⟨task, fate, htask, hfate, heq⟩ := h.joined id _ houtcome
  exact ⟨task, fate, htask, hfate, by rw [houtcome, heq]⟩

/-- At the end each worker has done on its connection what it does there alone. -/
theorem Sound.steps_eq (h : Sound site passed setup shares before crew)
    (hfinished : crew.Finished) :
    crew.tasks.map (·.steps) =
      (attendances site setup 0 shares).map (·.connection.steps) := by
  refine map_eq_map_attendances h.length fun id share hshare => ?_
  obtain ⟨task, fate, htask, hfate, -⟩ := h.ended hfinished hshare
  exact ⟨task, htask, ((h.follows id share task hshare htask).ended hfate).1.symm⟩

/-- At the end no worker has anything to add. -/
theorem Sound.pending_eq_nil (h : Sound site passed setup shares before crew)
    (hfinished : crew.Finished) : ∀ task ∈ crew.tasks, task.pending = [] := by
  intro task htask
  obtain ⟨id, hid⟩ := List.mem_iff_getElem?.1 htask
  obtain ⟨share, hshare⟩ := h.exists_share hid
  obtain ⟨found, fate, hfound, hfate, -⟩ := h.ended hfinished hshare
  obtain rfl := Option.some.inj (hid.symm.trans hfound)
  exact (Task.fate?_eq_some_iff.1 hfate).1

/-- At the end the counters are what they were before, and what each worker counts alone. -/
theorem Sound.counters_eq (h : Sound site passed setup shares before crew)
    (hfinished : crew.Finished) :
    crew.counters =
      ((attendances site setup 0 shares).flatMap Attendance.tallies).foldl Counters.add before := by
  obtain ⟨made, hcounters, hbalance⟩ := h.counted
  -- each counter is the sum of what was added to it, in whatever order that was
  refine Counters.ext_read fun register => ?_
  -- nobody has anything left to add, so what was added is what was counted
  have hpending : (crew.tasks.map fun task => Increment.total task.pending register).sum = 0 :=
    sum_map_eq_zero fun task htask => by
      rw [h.pending_eq_nil hfinished task htask, Increment.total_nil]
  have hsteps : (crew.tasks.map fun task => Tally.total (tallies task.steps) register).sum =
      Tally.total (((attendances site setup 0 shares).map (·.connection)).flatMap
        Connection.tallies) register := by
    have hmap := congrArg (List.map fun steps => Tally.total (tallies steps) register)
      (h.steps_eq hfinished)
    rw [List.map_map, List.map_map] at hmap
    rw [Tally.total_flatMap, List.map_map]
    exact congrArg List.sum hmap
  have hlength : (attendances site setup 0 shares).length = crew.joined.length := by
    rw [length_attendances, show crew.joined.length = _ from hfinished, h.length]
  have hall := hbalance register
  rw [hpending, hsteps, ← hlength, List.take_length, total_workers, Nat.add_zero] at hall
  rw [hcounters, Counters.read_foldl_bump, Counters.read_foldl_add, hall]

/-- What an interleaving comes to, by what its workers do alone. -/
theorem Sound.settled (h : Sound site passed setup shares before crew)
    (hfinished : crew.Finished) : Settled site setup shares before crew where
  length := by rw [show crew.joined.length = _ from hfinished, h.length]
  alone := by
    intro id share hshare
    obtain ⟨task, fate, htask, hfate, houtcome⟩ := h.ended hfinished hshare
    obtain ⟨hsteps, -, halike⟩ := (h.follows id share task hshare htask).ended hfate
    have huntimed : (outcomeOf id fate).untimed =
        (attendance site setup share id).outcome.untimed := untimed_outcomeOf halike id
    refine ⟨_, task, houtcome, htask, ?_, huntimed, hsteps.symm⟩
    rw [← Outcome.worker_untimed, huntimed, Outcome.worker_untimed, worker_attendance]
  counters := h.counters_eq hfinished

end Sound

/-! ## Coming to an end -/

/-- A worker may go on for some time while nothing else happens. -/
theorem Crew.run_replicate_work (peer : Peer σ) (n : Nat) {crew : Crew σ} {id : Nat}
    {task : Task σ (Except Error WorkerReport)} (h : crew.tasks[id]? = some task) :
    (crew.run peer (List.replicate n (.work id))).tasks =
        crew.tasks.set id ((Task.advance peer crew.time)^[n] task) ∧
      (crew.run peer (List.replicate n (.work id))).joined = crew.joined := by
  -- by induction on the moves, all of them of the same worker at the same time
  induction n generalizing crew task with
  | zero =>
    refine ⟨?_, rfl⟩
    obtain ⟨hlt, rfl⟩ := List.getElem?_eq_some_iff.1 h
    exact (List.set_getElem_self hlt).symm
  | succ n ih =>
    have hlt := (List.getElem?_eq_some_iff.1 h).1
    rw [List.replicate_succ, Crew.run_cons]
    simp only [Crew.move, h]
    have hrest := @ih { crew with
      tasks := crew.tasks.set id (task.work peer crew.time).1
      counters := (task.work peer crew.time).2.toList.foldl Counters.bump crew.counters }
      (task.work peer crew.time).1 (List.getElem?_set_self hlt)
    rw [hrest.1, hrest.2, List.set_set]
    exact ⟨rfl, rfl⟩

/-- Every interleaving can be brought to its end: the workers that the run has not waited for go on
one after the other, and the run takes note of each. -/
theorem Crew.exists_run_finished (peer : Peer σ) {crew : Crew σ}
    (h : crew.joined.length ≤ crew.tasks.length) :
    ∃ moves, (crew.run peer moves).Finished := by
  obtain ⟨left, hleft⟩ := Nat.exists_eq_add_of_le h
  -- induction on the number of workers that are left
  induction left generalizing crew with
  | zero => exact ⟨[], hleft.symm⟩
  | succ left ih =>
    have hlt : crew.joined.length < crew.tasks.length := by omega
    obtain ⟨n, fate, hfate⟩ :=
      crew.tasks[crew.joined.length].exists_advance_ended peer crew.time
    obtain ⟨htasks, hjoined⟩ :=
      crew.run_replicate_work peer n (List.getElem?_eq_getElem hlt)
    generalize hbefore : crew.run peer (List.replicate n (.work crew.joined.length)) = before
      at htasks hjoined
    have hended : before.tasks[before.joined.length]?.bind Task.fate? = some fate := by
      rw [htasks, hjoined, List.getElem?_set_self hlt]
      exact hfate
    have hlength : (before.move peer .join).tasks.length =
        (before.move peer .join).joined.length + left := by
      simp only [move, hended, List.length_append, List.length_singleton]
      rw [htasks, hjoined, List.length_set]
      omega
    obtain ⟨moves, hmoves⟩ := ih (by omega) hlength
    refine ⟨List.replicate n (.work crew.joined.length) ++ .join :: moves, ?_⟩
    rw [run_append, hbefore, run_cons]
    exact hmoves

/-- The run waits for no more workers than there are. -/
theorem Sound.joined_le {site : Site σ} {passed : σ → Nat → Prop} {setup : Option Command}
    {shares : List (List Command)} {before : Counters} {crew : Crew σ}
    (h : Sound site passed setup shares before crew) :
    crew.joined.length ≤ crew.tasks.length := by
  by_contra hlt
  obtain ⟨task, fate, htask, -⟩ :=
    -- a note is taken of a worker that is there
    h.joined crew.tasks.length _ (List.getElem?_eq_getElem (Nat.lt_of_not_le hlt))
  exact absurd (List.getElem?_eq_some_iff.1 htask).1 (Nat.lt_irrefl _)

end PolicyReplay.Run
