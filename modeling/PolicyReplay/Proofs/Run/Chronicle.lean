import PolicyReplay.Proofs.Run.Schedule

/-!
# What is logged of the workers

The workers of a run log side by side, and every entry names the worker that it is about. So the log
of the run phase can be taken apart again: the entries about one worker are what its dialogue logs,
and behind these the note that the run takes if the worker crashed, in whatever order the workers
move.

## Key results

- `Task.Tells.work`: what a task has logged after one more move
- `Chronicled.extend`: what happens to one worker changes nothing for the others
- `Chronicled.follow`: what holds of the log throughout every schedule
- `attended_attendAlong`: what is logged of workers that attend along a schedule
-/

namespace PolicyReplay

open Dialogue (Unfolds)

variable {σ α : Type}

/-! ## Tasks -/

namespace Task

variable {d : Dialogue α} {task : Task σ α} {told : List Log.Entry} {peer : Peer σ}

/-- This is what a task has logged so far: however it goes on, that is how its dialogue unfolds. -/
def Tells (d : Dialogue α) (task : Task σ α) (told : List Log.Entry) : Prop :=
  ∀ steps entries fate, Unfolds task.rest steps entries fate →
    Unfolds d (task.steps ++ steps) (told ++ entries) fate

/-- At its beginning a task has logged nothing. -/
theorem Tells.start (d : Dialogue α) (s : σ) : Tells d (.start d s) [] := fun _ _ _ h => h

/-- A task that goes on logs the entry that it has come to, if it has come to one. -/
theorem Tells.proceed (h : Tells d task told) (hpending : task.pending = []) (time : Duration) :
    Tells d (task.proceed peer time) (told ++ task.due?.toList) := by
  obtain ⟨pending, rest, s, steps⟩ := task
  obtain rfl : pending = [] := hpending
  intro later entries fate hlater
  -- the task does what is at the root of its dialogue, which is one step of the unfolding
  cases rest with
  | done value => simpa [Task.proceed, due?] using h later entries fate hlater
  | crash message => simpa [Task.proceed, due?] using h later entries fate hlater
  | connect next =>
    simp only [Task.proceed] at hlater
    simp only [Task.proceed, due?]
    rcases hconnect : peer.connect s with ⟨_ | e | message, s'⟩
    · rw [hconnect] at hlater
      simpa [hconnect] using h _ _ _ (.opened hlater)
    · rw [hconnect] at hlater
      simpa [hconnect] using h _ _ _ (.refused e hlater)
    · rw [hconnect] at hlater
      -- nothing comes behind a crash
      cases hlater
      simpa [hconnect] using h _ _ _ (.crashed message)
  | send payload next => simpa [Task.proceed, due?] using h _ _ _ (.sent payload _ hlater)
  | receive next => simpa [Task.proceed, due?] using h _ _ _ (.received _ hlater)
  | close next => simpa [Task.proceed, due?] using h _ _ _ (.closed _ hlater)
  | clock next => simpa [Task.proceed, due?] using h _ _ _ (.told time hlater)
  | log entry next => simpa [Task.proceed, due?] using h _ _ _ (.logged entry hlater)
  | count tally next => simpa [Task.proceed, due?] using h _ _ _ (.counted tally hlater)

/-- A task that moves logs the entry that it has come to, if it has come to one. -/
theorem Tells.work (h : Tells d task told) (peer : Peer σ) (time : Duration) :
    Tells d (task.work peer time).1 (told ++ task.due?.toList) := by
  -- a task that has counts to make does those first, and none of them is logged
  cases hpending : task.pending with
  | nil =>
    simp only [Task.work, hpending]
    exact h.proceed hpending time
  | cons increment pending =>
    have hentry : task.due? = none := by simp only [due?, hpending]
    simp only [Task.work, hpending, hentry, Option.toList_none, List.append_nil]
    exact h

/-- What a task has come to is part of what its dialogue logs. -/
theorem Tells.exists_mem (h : Tells d task told) {entry : Log.Entry}
    (hentry : task.due? = some entry) :
    ∃ steps entries fate, Unfolds d steps entries fate ∧ entry ∈ entries := by
  obtain ⟨pending, rest, s, steps⟩ := task
  unfold due? at hentry
  split at hentry
  · rename_i found next _ hrest
    obtain rfl : found = entry := Option.some.inj hentry
    -- the dialogue may go on in any way, so the entry is logged in one of them
    obtain ⟨later, entries, fate, hlater⟩ := Dialogue.exists_unfolds next
    have hrest : rest = .log found next := hrest
    refine ⟨_, _, fate, h later (found :: entries) fate ?_, by simp⟩
    rw [hrest]
    exact .logged found hlater
  · exact nomatch hentry

/-- A task that has ended has logged all that its dialogue logs. -/
theorem Tells.ended (h : Tells d task told) {fate : Fate α} (hfate : task.fate? = some fate) :
    Unfolds d task.steps told fate := by
  have hrest : Unfolds task.rest [] [] fate := by
    rcases (fate?_eq_some_iff.mp hfate).2 with ⟨value, hrest, rfl⟩ | ⟨message, hrest, rfl⟩
    · rw [hrest]
      exact .done value
    · rw [hrest]
      exact .crash message
  simpa using h [] [] fate hrest

/-- A task that has ended is about to log nothing. -/
theorem due?_of_ended {fate : Fate α} (hfate : task.fate? = some fate) : task.due? = none := by
  obtain ⟨hpending, ⟨value, hrest, -⟩ | ⟨message, hrest, -⟩⟩ := fate?_eq_some_iff.mp hfate
  · simp only [due?, hpending, hrest]
  · simp only [due?, hpending, hrest]

end Task

namespace Run

open Log (atLeast)

/-! ## Entries about a worker -/

/-- The entries about the worker with a number. -/
def about (id : Nat) (log : List Log.Entry) : List Log.Entry :=
  log.filter fun entry => entry.client? = some (toString id)

/-- The entries about a worker in one log behind another. -/
theorem about_append (id : Nat) (log more : List Log.Entry) :
    about id (log ++ more) = about id log ++ about id more :=
  List.filter_append ..

/-- A log about one worker is all about it. -/
theorem about_eq_self {id : Nat} {log : List Log.Entry}
    (h : ∀ entry ∈ log, entry.client? = some (toString id)) : about id log = log :=
  List.filter_eq_self.mpr fun entry hentry => decide_eq_true (h entry hentry)

/-- A number is known by how it is written. -/
theorem eq_of_toString_eq {m n : Nat} (h : toString m = toString n) : m = n := by
  -- the digits of a number are read as the number
  have hread (n : Nat) : Nat.ofDigitChars 10 (toString n).toList 0 = n := by
    show Nat.ofDigitChars 10 n.repr.toList 0 = n
    rw [Nat.repr_eq_ofList_toDigits, String.toList_ofList, Nat.ofDigitChars_ten_toDigits]
  rw [← hread m, h, hread n]

/-- A log about one worker holds nothing about another. -/
theorem about_eq_nil {id other : Nat} {log : List Log.Entry} (hne : id ≠ other)
    (h : ∀ entry ∈ log, entry.client? = some (toString other)) : about id log = [] := by
  refine List.filter_eq_nil_iff.mpr fun entry hentry => ?_
  rw [h entry hentry, decide_eq_true_eq, Option.some.injEq]
  exact fun heq => hne (eq_of_toString_eq heq).symm

/-- Lists of entries about one worker each, one behind the other, are taken apart again. -/
theorem about_flatMap_zipIdx {β : Type} {items : List β} (f : β → Nat → List Log.Entry)
    (start : Nat)
    (h : ∀ k item, items[k]? = some item →
      ∀ entry ∈ f item (start + k), entry.client? = some (toString (start + k)))
    {k : Nat} {item : β} (hitem : items[k]? = some item) :
    about (start + k) ((items.zipIdx start).flatMap fun placed => f placed.1 placed.2) =
      f item (start + k) := by
  -- by induction on the items: the first list is about the first worker, and the others are not
  induction items generalizing start k with
  | nil => simp at hitem
  | cons first rest ih =>
    have hrest : ∀ k item, rest[k]? = some item →
        ∀ entry ∈ f item (start + 1 + k), entry.client? = some (toString (start + 1 + k)) := by
      intro k item hitem
      have hplace : start + 1 + k = start + (k + 1) := by omega
      rw [hplace]
      exact h (k + 1) item hitem
    rw [List.zipIdx_cons, List.flatMap_cons, about_append]
    cases k with
    | zero =>
      obtain rfl : first = item := Option.some.inj hitem
      -- what is behind the first list is about the workers behind the first one
      have hothers : about start
          ((rest.zipIdx (start + 1)).flatMap fun placed => f placed.1 placed.2) = [] := by
        refine List.filter_eq_nil_iff.mpr fun entry hentry => ?_
        obtain ⟨⟨item, id⟩, hmem, hentry⟩ := List.mem_flatMap.mp hentry
        obtain ⟨hle, hitem⟩ := List.mem_zipIdx_iff_le_and_getElem?_sub.mp hmem
        have hplace : start + 1 + (id - (start + 1)) = id := by
          have : start + 1 ≤ id := hle
          omega
        have hclient := hrest _ item hitem entry (by rw [hplace]; exact hentry)
        rw [hclient, decide_eq_true_eq, Option.some.injEq]
        intro heq
        have hsame := eq_of_toString_eq heq
        omega
      have hfirst : about start (f first start) = f first start := about_eq_self (h 0 first rfl)
      rw [Nat.add_zero, hfirst, hothers, List.append_nil]
    | succ k =>
      have hplace : start + (k + 1) = start + 1 + k := by omega
      have hfirst : about (start + (k + 1)) (f first start) = [] :=
        about_eq_nil (by omega) (h 0 first rfl)
      rw [hfirst, List.nil_append, hplace]
      exact ih (start + 1) hrest hitem

/-- The entry of an outcome names its worker. -/
theorem Outcome.client?_entry (outcome : Outcome) :
    outcome.entry.client? = some (toString outcome.worker) := by
  cases outcome with
  | completed report => rfl
  | failed worker code reason => rfl

/-- All that is logged of a worker names it. -/
theorem Reported.client? {endpoint : String} {id : Nat} {outcome : Outcome} {steps : List Step}
    {entries : List Log.Entry} (h : Reported endpoint id outcome steps entries) :
    ∀ entry ∈ entries, entry.client? = some (toString id) := by
  obtain ⟨hworker, talk, rfl, hnamed⟩ := h
  -- a session names its worker in every entry, and so does what came of it
  refine List.forall_mem_append.mpr ⟨fun entry hentry => (hnamed.quiet entry hentry).2, ?_⟩
  rw [List.forall_mem_singleton, outcome.client?_entry, hworker]

/-! ## Workers that move -/

/-- What is logged of a worker at some time: what its task has logged, and the note of its end if
the run has taken that. -/
inductive Standing (d : Dialogue (Except Error WorkerReport)) (id : Nat)
    (task : Task σ (Except Error WorkerReport)) (noted : Nat) (entries : List Log.Entry) : Prop
  | going (hnoted : noted ≤ id) (htold : task.Tells d entries)
  | noted (told : List Log.Entry) (fate : Fate (Except Error WorkerReport)) (hnoted : id < noted)
    (htold : task.Tells d told) (hfate : task.fate? = some fate)
    (hentries : entries = told ++ notesOf id fate)

/-- What holds of the log of the workers of a run at any time. -/
structure Chronicled (site : Site σ) (setup : Option Command) (shares : List (List Command))
    (crew : Crew σ) (log : List Log.Entry) : Prop where
  length : crew.tasks.length = shares.length
  owned : ∀ entry ∈ log, ∃ id < shares.length, entry.client? = some (toString id)
  stands : ∀ id share task, shares[id]? = some share → crew.tasks[id]? = some task →
    Standing (worker site.endpoint id setup share) id task crew.joined.length (about id log)

section Chronicled

variable {site : Site σ} {setup : Option Command} {shares : List (List Command)} {crew : Crew σ}
  {log : List Log.Entry}

/-- The entries that a worker logs are about it. -/
theorem client?_of_due? {id : Nat} {share : List Command}
    {task : Task σ (Except Error WorkerReport)} {told : List Log.Entry} {entry : Log.Entry}
    (htold : task.Tells (worker site.endpoint id setup share) told)
    (hentry : task.due? = some entry) : entry.client? = some (toString id) := by
  obtain ⟨steps, entries, fate, hunfolds, hmem⟩ := htold.exists_mem hentry
  exact (worker_unfolds hunfolds).client? entry (List.mem_append_left _ hmem)

/-- Workers that are about to begin have logged nothing yet. -/
theorem chronicled_start (before : Counters) :
    Chronicled site setup shares (Crew.start site setup shares before) [] := by
  constructor
  case length => simp [Crew.start]
  case owned => exact fun _ hentry => absurd hentry List.not_mem_nil
  case stands =>
    intro id share task hshare htask
    have hstart : (Crew.start site setup shares before).tasks[id]? =
        some (.start (worker site.endpoint id setup share) (site.opening (id + 1))) := by
      simp [Crew.start, hshare]
    obtain rfl := Option.some.inj (hstart.symm.trans htask)
    exact .going (Nat.zero_le id) (.start _ _)

/-- Every worker has a share. -/
theorem Chronicled.exists_share (h : Chronicled site setup shares crew log) {id : Nat}
    {task : Task σ (Except Error WorkerReport)} (htask : crew.tasks[id]? = some task) :
    ∃ share, shares[id]? = some share := by
  -- there are as many workers as shares
  have hlt := (List.getElem?_eq_some_iff.1 htask).1
  rw [h.length] at hlt
  exact ⟨_, List.getElem?_eq_getElem hlt⟩

/-- For a worker it matters whether note has been taken of it, and not of how many others. -/
theorem Standing.of_iff {d : Dialogue (Except Error WorkerReport)} {id : Nat}
    {task : Task σ (Except Error WorkerReport)} {noted noted' : Nat} {entries : List Log.Entry}
    (h : Standing d id task noted entries) (hiff : id < noted' ↔ id < noted) :
    Standing d id task noted' entries := by
  cases h with
  | going hnoted htold => exact .going (by omega) htold
  | noted told fate hnoted htold hfate hentries =>
    exact .noted told fate (hiff.mpr hnoted) htold hfate hentries

/-- When something happens to one worker, what is logged is about it, and the others stand as they
did. -/
theorem Chronicled.extend (h : Chronicled site setup shares crew log) {crew' : Crew σ}
    {more : List Log.Entry} {id : Nat} (hlt : id < shares.length)
    (howned : ∀ entry ∈ more, entry.client? = some (toString id))
    (hlength : crew'.tasks.length = crew.tasks.length)
    (htasks : ∀ other, other ≠ id → crew'.tasks[other]? = crew.tasks[other]?)
    (hnoted : ∀ other, other ≠ id → (other < crew'.joined.length ↔ other < crew.joined.length))
    (hstands : ∀ share task, shares[id]? = some share → crew'.tasks[id]? = some task →
      Standing (worker site.endpoint id setup share) id task crew'.joined.length
        (about id log ++ more)) :
    Chronicled site setup shares crew' (log ++ more) := by
  constructor
  case length => rw [hlength, h.length]
  case owned =>
    intro entry hentry
    rcases List.mem_append.mp hentry with hentry | hentry
    · exact h.owned entry hentry
    · exact ⟨id, hlt, howned entry hentry⟩
  case stands =>
    intro other share task hshare htask
    rw [about_append]
    -- what is logged is about the worker to which something happened, and about no other
    by_cases hother : other = id
    · subst hother
      rw [about_eq_self howned]
      exact hstands share task hshare htask
    · rw [about_eq_nil hother howned, List.append_nil]
      rw [htasks other hother] at htask
      exact (h.stands other share task hshare htask).of_iff (hnoted other hother)

/-- A worker makes a move. -/
theorem Chronicled.work (h : Chronicled site setup shares crew log) (id : Nat) :
    Chronicled site setup shares (crew.move site.peer (.work id))
      (log ++ ((crew.log (.work id)).run .trace).1) := by
  -- a worker that is not there makes no move
  cases htask : crew.tasks[id]? with
  | none => simpa only [Crew.move, Crew.log, htask, Option.bind_none, Logging.run_pure,
      List.append_nil] using h
  | some task =>
    obtain ⟨share, hshare⟩ := h.exists_share htask
    have hlt : id < shares.length := (List.getElem?_eq_some_iff.1 hshare).1
    -- what is logged is the entry that the worker has come to
    have hlogged : ((crew.log (.work id)).run .trace).1 = task.due?.toList := by
      simp only [Crew.log, htask, Option.bind_some]
      cases task.due? with
      | none => rfl
      | some entry => simp only [Logging.run_write_trace, Option.toList_some]
    have hstanding := h.stands id share task hshare htask
    have howned : ∀ entry ∈ task.due?.toList, entry.client? = some (toString id) := by
      intro entry hentry
      have hentry := Option.mem_toList.mp hentry
      cases hstanding with
      | going _ htold => exact client?_of_due? htold hentry
      | noted told fate _ htold => exact client?_of_due? htold hentry
    rw [hlogged]
    simp only [Crew.move, htask]
    refine h.extend hlt howned List.length_set (fun other hother => ?_) (fun _ _ => Iff.rfl) ?_
    · exact List.getElem?_set_ne (Ne.symm hother)
    · intro share' found hshare' hfound
      obtain rfl := Option.some.inj (hshare.symm.trans hshare')
      rw [List.getElem?_set_self (by rw [h.length]; exact hlt)] at hfound
      obtain rfl := Option.some.inj hfound
      cases hstanding with
      | going hnoted htold => exact .going hnoted (htold.work site.peer crew.time)
      | noted told fate hnoted htold hfate hentries =>
        -- a worker that has ended neither moves nor logs
        rw [Task.work_of_ended hfate, Task.due?_of_ended hfate]
        exact .noted told fate hnoted htold hfate ((List.append_nil _).trans hentries)

/-- The run takes note of a worker. -/
theorem Chronicled.join (h : Chronicled site setup shares crew log) :
    Chronicled site setup shares (crew.move site.peer .join)
      (log ++ ((crew.log .join).run .trace).1) := by
  -- nothing is noted unless the next worker has ended
  cases hended : crew.tasks[crew.joined.length]?.bind Task.fate? with
  | none => simpa only [Crew.move, Crew.log, hended, Logging.run_pure, List.append_nil] using h
  | some fate =>
    obtain ⟨task, htask, hfate⟩ := Option.bind_eq_some_iff.1 hended
    obtain ⟨share, hshare⟩ := h.exists_share htask
    have hlt : crew.joined.length < shares.length := (List.getElem?_eq_some_iff.1 hshare).1
    have hlogged : ((crew.log .join).run .trace).1 = notesOf crew.joined.length fate := by
      simp only [Crew.log, hended]
      rfl
    -- no note has been taken of it, so the entries about it are those of its dialogue
    have htold : task.Tells (worker site.endpoint crew.joined.length setup share)
        (about crew.joined.length log) := by
      cases h.stands _ share task hshare htask with
      | going _ htold => exact htold
      | noted _ _ hnoted => exact absurd hnoted (Nat.lt_irrefl _)
    have howned : ∀ entry ∈ notesOf crew.joined.length fate,
        entry.client? = some (toString crew.joined.length) := fun entry hentry =>
      (worker_unfolds (htold.ended hfate)).client? entry (List.mem_append_right _ hentry)
    rw [hlogged]
    simp only [Crew.move, hended]
    refine h.extend hlt howned rfl (fun _ _ => rfl) (fun other hother => ?_) ?_
    · -- note has been taken of one worker more
      rw [List.length_append, List.length_singleton]
      omega
    · intro share' found hshare' hfound
      obtain rfl := Option.some.inj (hshare.symm.trans hshare')
      obtain rfl := Option.some.inj (htask.symm.trans hfound)
      exact .noted _ fate (by simp) htold hfate rfl

/-- What holds of the log holds throughout. -/
theorem Chronicled.follow (h : Chronicled site setup shares crew log) (moves : List Move) :
    Chronicled site setup shares (crew.run site.peer moves)
      (log ++ ((crew.follow site.peer moves).run .trace).1) := by
  -- by the schedule: every move keeps what holds, for the log with what is logged at that move
  induction moves generalizing crew log with
  | nil => simpa [Crew.follow, Crew.run] using h
  | cons next moves ih =>
    have hnext : Chronicled site setup shares (crew.move site.peer next)
        (log ++ ((crew.log next).run .trace).1) := by
      cases next with
      | tick time =>
        rw [show ((crew.log (.tick time)).run .trace).1 = [] from rfl, List.append_nil]
        exact ⟨h.length, h.owned, h.stands⟩
      | work id => exact h.work id
      | join => exact h.join
    have hrest := ih hnext
    rw [List.append_assoc] at hrest
    exact hrest

end Chronicled

/-! ## Workers that attend -/

/-- What is logged of workers that have all ended: every entry is about one of them, and of each of
them there is its session and then what came of it. -/
structure Attended (endpoint : String) (clients : Nat) (attended : List (Attendance σ))
    (log : List Log.Entry) : Prop where
  length : attended.length = clients
  owned : ∀ entry ∈ log, ∃ id < clients, entry.client? = some (toString id)
  reported : ∀ id one, attended[id]? = some one →
    Reported endpoint id one.outcome one.connection.steps (about id log)

/-- A worker that goes on to its end logs what is still to log of it. -/
theorem Standing.reported {site : Site σ} {setup : Option Command} {share : List Command} {id : Nat}
    {task : Task σ (Except Error WorkerReport)} {noted : Nat} {entries : List Log.Entry}
    (h : Standing (worker site.endpoint id setup share) id task noted entries) :
    Reported site.endpoint id
      ((attendRest site.peer id (id < noted) task).run .trace).2.outcome
      ((attendRest site.peer id (id < noted) task).run .trace).2.connection.steps
      (entries ++ ((attendRest site.peer id (id < noted) task).run .trace).1) := by
  cases h with
  | going hnoted htold =>
    have hunfolds := htold _ _ _ (Dialogue.unfolds_conduct site.peer task.rest task.state)
    have hreported := worker_unfolds hunfolds
    rw [decide_eq_false (Nat.not_lt.mpr hnoted)]
    simp only [attendRest, Bool.false_eq_true, if_false, Logging.run_bind, Logging.run_pure,
      run_join, Dialogue.run_conduct_snd, List.append_nil]
    rw [List.append_assoc] at hreported
    exact hreported
  | noted told fate hnoted htold hfate hentries =>
    have hreported := worker_unfolds (htold.ended hfate)
    -- nothing is left of its dialogue
    have hrest : (task.rest.conduct site.peer task.state).run .trace =
        ([], ⟨[], task.state, fate⟩) := by
      rcases (Task.fate?_eq_some_iff.mp hfate).2 with ⟨value, hrest, rfl⟩ | ⟨message, hrest, rfl⟩
      · rw [hrest]
        rfl
      · rw [hrest]
        rfl
    rw [decide_eq_true hnoted]
    simp only [attendRest, if_true, Logging.run_bind, Logging.run_pure, hrest, List.append_nil]
    rw [hentries]
    exact hreported

/-- Workers that go on to their ends one after the other. -/
theorem run_attendRests (peer : Peer σ) (noted id : Nat)
    (tasks : List (Task σ (Except Error WorkerReport))) :
    (attendRests peer noted id tasks).run .trace =
      ((tasks.zipIdx id).flatMap fun placed =>
          ((attendRest peer placed.2 (placed.2 < noted) placed.1).run .trace).1,
        (tasks.zipIdx id).map fun placed =>
          ((attendRest peer placed.2 (placed.2 < noted) placed.1).run .trace).2) := by
  -- by induction on the workers that are left, of which none looks at another
  induction tasks generalizing id with
  | nil => rfl
  | cons task rest ih =>
    simp only [attendRests, Logging.run_bind, Logging.run_pure, ih, List.append_nil,
      List.zipIdx_cons, List.flatMap_cons, List.map_cons]

/-- What is logged of workers that attend along a schedule. -/
theorem attended_attendAlong (site : Site σ) (setup : Option Command) (before : Counters)
    (shares : List (List Command)) (moves : List Move) :
    Attended site.endpoint shares.length
      ((attendAlong site setup before shares moves).run .trace).2
      ((attendAlong site setup before shares moves).run .trace).1 := by
  have hstart : Chronicled site setup shares (Crew.start site setup shares before) [] :=
    chronicled_start before
  have hchronicled := hstart.follow moves
  rw [List.nil_append] at hchronicled
  -- behind the schedule, each worker goes on from where it stands
  simp only [attendAlong, Logging.run_bind, Crew.run_follow_snd, run_attendRests]
  generalize (Crew.start site setup shares before).run site.peer moves = crew at hchronicled ⊢
  generalize (((Crew.start site setup shares before).follow site.peer moves).run .trace).1 = log
    at hchronicled ⊢
  have hreported : ∀ id task, crew.tasks[id]? = some task → Reported site.endpoint id
      ((attendRest site.peer id (id < crew.joined.length) task).run .trace).2.outcome
      ((attendRest site.peer id (id < crew.joined.length) task).run .trace).2.connection.steps
      (about id log ++
        ((attendRest site.peer id (id < crew.joined.length) task).run .trace).1) := by
    -- a worker that goes on to its end completes what is told of it
    intro id task htask
    obtain ⟨share, hshare⟩ := hchronicled.exists_share htask
    exact (hchronicled.stands id share task hshare htask).reported
  have howned : ∀ id task, crew.tasks[id]? = some task →
      ∀ entry ∈ ((attendRest site.peer id (id < crew.joined.length) task).run .trace).1,
        entry.client? = some (toString id) := fun id task htask entry hentry =>
    (hreported id task htask).client? entry (List.mem_append_right _ hentry)
  constructor
  case length => rw [List.length_map, List.length_zipIdx, hchronicled.length]
  case owned =>
    intro entry hentry
    -- what is logged behind the schedule is logged by a worker that goes on to its end
    rcases List.mem_append.mp hentry with hentry | hentry
    · exact hchronicled.owned entry hentry
    · obtain ⟨⟨task, id⟩, hmem, hentry⟩ := List.mem_flatMap.mp hentry
      have htask : crew.tasks[id]? = some task := List.mem_zipIdx_iff_getElem?.mp hmem
      have hlt := (List.getElem?_eq_some_iff.1 htask).1
      rw [hchronicled.length] at hlt
      exact ⟨id, hlt, howned id task htask entry hentry⟩
  case reported =>
    intro id one hone
    rw [List.getElem?_map, List.getElem?_zipIdx, Option.map_map] at hone
    obtain ⟨task, htask, rfl⟩ := Option.map_eq_some_iff.mp hone
    -- the entries about one worker are picked out of those of all workers
    have hrest := about_flatMap_zipIdx
      (fun task id => ((attendRest site.peer id (id < crew.joined.length) task).run .trace).1) 0
      (fun k task htask => by rw [Nat.zero_add]; exact howned k task htask) htask
    rw [Nat.zero_add] at hrest
    rw [about_append, hrest]
    simpa using hreported id task htask

end Run
end PolicyReplay
