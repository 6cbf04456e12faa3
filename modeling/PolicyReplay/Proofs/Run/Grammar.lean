import PolicyReplay.Proofs.Run.Chronicle

/-!
# The grammar of a log

The log of a run begins where the run begins, every phase that is begun in it is ended, and of each
worker there is one entry for what came of it, while the run phase lasts. All of this is in entries
of at least `INFO`, so it can be seen in every log that holds these.

## Key results

- `narrates_executeAlong`: what is logged of a run, by how it ends
- `Narrates.atLeast`: which is still there when the less grave entries are not written
- `Narrates.grammatical`: the grammar of a log
- `execute_grammatical`: the log of every run keeps to it, along every schedule
-/

namespace PolicyReplay

variable {σ α β : Type}

/-! ## Entries -/

namespace Log.Entry

/-- What came of a worker is told in an entry with one of these names. -/
def endNames : List String := ["WORKER_COMPLETE", "WORKER_FAILED"]

/-- An entry tells what came of a worker. -/
def IsEnd (entry : Entry) : Prop := entry.event ∈ endNames

/-- The names of the entries between which the phases of a run lie. -/
def phaseNames : List String :=
  ["LOAD_PHASE_BEGIN", "LOAD_PHASE_COMPLETE", "RUN_PHASE_BEGIN", "RUN_PHASE_COMPLETE",
    "RUN_COMPLETE"]

/-- The name of an entry begins like that. -/
def HasPrefix (start : String) (entry : Entry) : Prop := start.toList <+: entry.event.toList

/-- The name of an entry ends like that. -/
def HasSuffix (ending : String) (entry : Entry) : Prop := ending.toList <:+ entry.event.toList

/-- An entry is about what happens within a phase. -/
def Within (entry : Entry) : Prop := entry.event ∈ quietNames ++ endNames

/-- What is said on the way happens within a phase. -/
theorem Quiet.within {entry : Entry} (h : entry.Quiet) : entry.Within :=
  List.mem_append_left _ h

/-- What came of a worker is told within a phase. -/
theorem IsEnd.within {entry : Entry} (h : entry.IsEnd) : entry.Within :=
  List.mem_append_right _ h

/-- What is said on the way does not tell what came of a worker. -/
theorem Quiet.not_isEnd {entry : Entry} (h : entry.Quiet) : ¬ entry.IsEnd := by
  have hall : ∀ name ∈ quietNames, name ∉ endNames := by decide
  exact hall entry.event h

/-- The names of what happens within a phase are not those of the phases. -/
theorem Within.not_mem_phaseNames {entry : Entry} (h : entry.Within) :
    entry.event ∉ phaseNames := by
  have hall : ∀ name ∈ quietNames ++ endNames, name ∉ phaseNames := by decide
  exact hall entry.event h

end Log.Entry

/-! ## What is said of a log -/

namespace Run

open Log (atLeast)

/-- What came of a worker is told once, behind the name of its connection if that was opened. -/
structure EndsOnce (endpoint : String) (id : Nat) (outcome : Outcome) (opened : Prop)
    (log : List Log.Entry) : Prop where
  worker : outcome.worker = id
  once : ∃ earlier later, log = earlier ++ outcome.entry :: later ∧
    (∀ entry ∈ earlier ++ later, entry.client? = some (toString id) → ¬ entry.IsEnd) ∧
    (opened → connectedEntry endpoint (toString id) ∈ earlier)

/-- The log of a run that has a result. -/
structure Conclusive (endpoint : String) (clients : Nat) (connections : List (Connection σ))
    (result : Result) (log : List Log.Entry) : Prop where
  /-- The phases begin and end once each, one behind the other. -/
  phases : (log.map (·.event)).filter (· ∈ Log.Entry.phaseNames) = Log.Entry.phaseNames
  last : ∃ entry, log.getLast? = some entry ∧ entry.event = "RUN_COMPLETE"
  /-- Between the beginning and the end of the run phase, each worker ends once, and elsewhere none
  does. -/
  workers : ∃ before begun middle completed after,
    log = before ++ begun :: (middle ++ completed :: after) ∧
    begun.event = "RUN_PHASE_BEGIN" ∧ completed.event = "RUN_PHASE_COMPLETE" ∧
    (∀ entry ∈ before ++ after, ¬ entry.IsEnd) ∧
    (∀ entry ∈ middle, entry.IsEnd → ∃ id < clients, entry.client? = some (toString id)) ∧
    ∀ id < clients, ∃ outcome, result.outcomes[id]? = some outcome ∧
      EndsOnce endpoint id outcome
        (∃ connection, connections[id + 1]? = some connection ∧ connection.wasOpened = true) middle

/-- The grammar of the log of a run. -/
structure Grammatical (config : Config) (site : Site σ) (execution : Execution σ)
    (log : List Log.Entry) : Prop where
  silent : ∀ e, config.validate = .error e → log = []
  first : config.validate = .ok () → ∃ entry, log.head? = some entry ∧ entry.event = "RUN_START"
  result : ∀ result, execution.fate = .returned (.ok result) →
    Conclusive site.endpoint config.clients execution.connections result log
  /-- A run that ends with an error has no run phase, and a load phase that failed. -/
  error : ∀ e, execution.fate = .returned (.error e) →
    (∀ entry ∈ log, ¬ entry.HasPrefix "RUN_PHASE_" ∧ entry.event ≠ "RUN_COMPLETE") ∧
    ((∃ entry ∈ log, entry.event = "LOAD_PHASE_BEGIN") →
      ∃ entry, log.getLast? = some entry ∧ entry.event = "LOAD_PHASE_FAILED")
  /-- No phase is left without an end unless the run itself crashed. -/
  complete : (∀ message, execution.fate ≠ .crashed message) →
    ∀ entry ∈ log, ¬ entry.HasSuffix "_INCOMPLETE"

/-! ## What is logged of a run -/

/-- What is logged of a run, by how it ends. -/
inductive Narrates (config : Config) (site : Site σ) : Execution σ → List Log.Entry → Prop
  | invalid {e : Error} (hvalid : config.validate = .error e) :
    Narrates config site ⟨.returned (.error e), []⟩ []
  | crashed {message : String} {connections : List (Connection σ)}
    (hvalid : config.validate = .ok ()) (start : Log.Fields) (rest : List Log.Entry) :
    Narrates config site ⟨.crashed message, connections⟩ (Log.Event.runStart.entry start :: rest)
  | unprepared {e : Error} {connections : List (Connection σ)} (hvalid : config.validate = .ok ())
    (start : Log.Fields) (ahead : List Log.Entry) (hahead : ∀ entry ∈ ahead, entry.Quiet) :
    Narrates config site ⟨.returned (.error e), connections⟩
      (Log.Event.runStart.entry start :: ahead)
  | unloaded {e : Error} {connections : List (Connection σ)} (hvalid : config.validate = .ok ())
    (start : Log.Fields) (ahead : List Log.Entry) (hahead : ∀ entry ∈ ahead, entry.Quiet)
    (commands : List Command) (talk : List Log.Entry) (htalk : ∀ entry ∈ talk, entry.Quiet)
    (reason : String) :
    Narrates config site ⟨.returned (.error e), connections⟩
      (Log.Event.runStart.entry start :: (ahead ++
        (loadScope site.endpoint commands).opened :: (talk ++
          [(loadScope site.endpoint commands).failed reason])))
  | concluded {result : Result} {connection : Connection σ} {attended : List (Attendance σ)}
    (hvalid : config.validate = .ok ())
    (start : Log.Fields) (ahead : List Log.Entry) (hahead : ∀ entry ∈ ahead, entry.Quiet)
    (loads : List Command) (talk : List Log.Entry) (htalk : ∀ entry ∈ talk, entry.Quiet)
    (runs : List Command) (middle : List Log.Entry)
    (hmiddle : Attended site.endpoint config.clients attended middle) (elapsed elapsed' : Nat)
    (extra finish : Log.Fields) (houtcomes : result.outcomes = attended.map (·.outcome)) :
    Narrates config site ⟨.returned (.ok result), connection :: attended.map (·.connection)⟩
      (Log.Event.runStart.entry start :: (ahead ++
        (loadScope site.endpoint loads).opened :: (talk ++
          (loadScope site.endpoint loads).completed elapsed [] ::
            (runScope config runs).opened :: (middle ++
              [(runScope config runs).completed elapsed' extra,
                Log.Event.runComplete.entry finish]))))

/-- A trace that is laid out has a share for each client. -/
theorem length_of_layOut {hands : Nat} {items : List α} {shares : List (List α)}
    (h : RoundRobin.layOut hands items = .returned shares) : shares.length = hands := by
  obtain ⟨-, rfl⟩ := Capacity.reserve_eq_returned_iff.mp h
  exact RoundRobin.length_deal hands items

/-- Behind a load phase that came to its end, the run phase begins, and it ends when its workers
have. -/
theorem narrates_phaseWith {config : Config} (site : Site σ) (occasion : Occasion)
    (workload : Workload) (connection : Connection σ) {attending : Logging (List (Attendance σ))}
    (hattended : Attended site.endpoint config.clients (attending.run .trace).2
      (attending.run .trace).1)
    (hvalid : config.validate = .ok ()) (start : Log.Fields) {ahead talk : List Log.Entry}
    (hahead : ∀ entry ∈ ahead, entry.Quiet) (htalk : ∀ entry ∈ talk, entry.Quiet) (elapsed : Nat) :
    Narrates config site
      ((phaseWith config site occasion workload connection attending).run .trace).2
      (Log.Event.runStart.entry start :: (ahead ++
        ((loadScope site.endpoint workload.load).opened ::
            (talk ++ [(loadScope site.endpoint workload.load).completed elapsed []]) ++
          ((phaseWith config site occasion workload connection attending).run .trace).1))) := by
  simp only [phaseWith, Logging.run_bind, Logging.run_write_trace]
  generalize attending.run .trace = run at hattended ⊢
  obtain ⟨middle, attended⟩ := run
  cases Aggregate.ofOutcomes (attended.map (·.outcome)) occasion.runElapsed with
  -- the aggregate overflows, so the run crashes behind its phase
  | error overflow => exact .crashed hvalid _ _
  | ok aggregate =>
    simp only [Logging.event, Logging.run_bind, Logging.run_pure, Logging.run_write_trace,
      List.append_assoc, List.cons_append, List.nil_append]
    exact .concluded hvalid _ ahead hahead workload.load talk htalk workload.run middle hattended
      elapsed _ _ _ rfl

/-- What is logged of a run along a schedule, by how it ends. -/
theorem narrates_executeAlong (files : Files) (config : Config) (site : Site σ)
    (occasion : Occasion) (moves : List Move) :
    Narrates config site ((executeAlong files config site occasion moves).run .trace).2
      ((executeAlong files config site occasion moves).run .trace).1 := by
  unfold executeAlong
  cases hvalid : config.validate with
  | error e => exact .invalid hvalid
  | ok _ =>
    -- the entries of the preparation are all quiet, whatever comes of it
    have hahead := (filtered_prepare files config).kind
    simp only [Logging.run_bind]
    generalize (prepare files config).run .trace = prepared at hahead ⊢
    obtain ⟨ahead, prepared⟩ := prepared
    cases prepared with
    | crashed message => exact .crashed hvalid _ _
    | returned prepared =>
      cases prepared with
      | error e =>
        simp only [Logging.run_pure, List.append_nil]
        exact .unprepared hvalid _ ahead hahead
      | ok parts =>
        obtain ⟨workload, setup⟩ := parts
        -- all is compiled, and the load phase begins
        have htold := loadPhase_unfolds (Dialogue.unfolds_conduct site.peer
          (loadPhase site.endpoint occasion.loadElapsed setup workload.load) (site.opening 0))
        simp only [Logging.run_bind, Dialogue.run_conduct_snd]
        generalize ((loadPhase site.endpoint occasion.loadElapsed setup workload.load).conduct
          site.peer (site.opening 0)).run .trace = loaded at htold ⊢
        generalize (loadPhase site.endpoint occasion.loadElapsed setup workload.load).account
          site.peer (site.opening 0) = account at htold ⊢
        obtain ⟨steps, s, fate⟩ := account
        cases fate with
        -- a crash of the load phase is one of the run, which has begun by then
        | crashed message => exact .crashed hvalid _ _
        | returned result =>
          cases result with
          | error e =>
            obtain ⟨talk, reason, htalk, hload⟩ := htold
            simp only [hload, Logging.run_pure, List.append_nil]
            exact .unloaded hvalid _ ahead hahead workload.load talk htalk reason
          | ok _ =>
            -- the store is loaded, and the workers begin
            obtain ⟨talk, elapsed, htalk, hload⟩ := htold
            cases hshares : RoundRobin.layOut config.clients workload.run with
            | crashed message => exact .crashed hvalid _ _
            | returned shares =>
              -- the workers log as they are attended, along whatever moves
              have hattended := attended_attendAlong site setup
                (.ofTallies (Connection.tallies ⟨steps, s⟩)) shares moves
              rw [length_of_layOut hshares] at hattended
              rw [hload]
              exact narrates_phaseWith site occasion workload _ hattended hvalid _ hahead htalk
                elapsed

/-! ## Logs without the less grave entries -/

section AtLeast

variable {config : Config} {site : Site σ} {execution : Execution σ} {log : List Log.Entry}
  {least : Severity}

/-- An entry is written that is at least as grave as `INFO`. -/
theorem atLeast_cons (hleast : least ≤ .info) {entry : Log.Entry} (h : .info ≤ entry.severity)
    (rest : List Log.Entry) : atLeast least (entry :: rest) = entry :: atLeast least rest :=
  Log.atLeast_cons_of_le (Nat.le_trans hleast h) rest

/-- What came of a worker is told with `INFO` or `WARN`. -/
theorem Outcome.info_le_entry (outcome : Outcome) : .info ≤ outcome.entry.severity := by
  cases outcome with
  | completed report => exact (by decide : Severity.info ≤ .info)
  | failed worker code reason => exact (by decide : Severity.info ≤ .warn)

/-- What is told of a worker without the less grave entries. -/
theorem Reported.atLeast (hleast : least ≤ .info) {endpoint : String} {id : Nat}
    {outcome : Outcome} {steps : List Step} (h : Reported endpoint id outcome steps log) :
    Reported endpoint id outcome steps (atLeast least log) := by
  obtain ⟨hworker, talk, rfl, hquiet, hconnected⟩ := h
  refine ⟨hworker, Log.atLeast least talk, ?_, ?_, fun hopened => ?_⟩
  · rw [Log.atLeast_append, atLeast_cons hleast outcome.info_le_entry, Log.atLeast_nil]
  -- an entry that is left has been there, so it is quiet as before
  · exact fun entry hentry => hquiet entry (Log.mem_of_mem_atLeast hentry)
  · -- the name of the connection is grave enough
    exact List.mem_filter.mpr ⟨hconnected hopened, decide_eq_true hleast⟩

/-- What attended workers log without the less grave entries. -/
theorem Attended.atLeast (hleast : least ≤ .info) {endpoint : String} {clients : Nat}
    {attended : List (Attendance σ)} (h : Attended endpoint clients attended log) :
    Attended endpoint clients attended (atLeast least log) where
  length := h.length
  owned entry hentry := h.owned entry (Log.mem_of_mem_atLeast hentry)
  reported id one hone := by
    -- leaving out by severity and choosing by client can change places
    have hcomm : about id (Log.atLeast least log) = Log.atLeast least (about id log) := by
      rw [about, Log.atLeast, List.filter_filter, about, Log.atLeast, List.filter_filter]
      simp only [Bool.and_comm]
    rw [hcomm]
    exact (h.reported id one hone).atLeast hleast

/-- A log tells of its run without the entries below `INFO`. -/
theorem Narrates.atLeast (hleast : least ≤ .info) (h : Narrates config site execution log) :
    Narrates config site execution (atLeast least log) := by
  have hkept {P : Log.Entry → Prop} {entries : List Log.Entry} (h : ∀ entry ∈ entries, P entry) :
      ∀ entry ∈ Log.atLeast least entries, P entry := fun entry hentry =>
    h entry (Log.mem_of_mem_atLeast hentry)
  have hinfo : Severity.info ≤ .info := by decide
  -- the entries that the phases begin and end with are grave enough to stay
  cases h with
  | invalid hvalid => exact .invalid hvalid
  | crashed hvalid start rest =>
    rw [atLeast_cons hleast hinfo]
    exact .crashed hvalid start _
  | unprepared hvalid start ahead hahead =>
    rw [atLeast_cons hleast hinfo]
    exact .unprepared hvalid start _ (hkept hahead)
  | unloaded hvalid start ahead hahead commands talk htalk reason =>
    rw [atLeast_cons hleast hinfo, Log.atLeast_append, atLeast_cons hleast hinfo,
      Log.atLeast_append, atLeast_cons hleast (by decide : Severity.info ≤ .error), Log.atLeast_nil]
    exact .unloaded hvalid start _ (hkept hahead) commands _ (hkept htalk) reason
  | concluded hvalid start ahead hahead loads talk htalk runs middle hmiddle elapsed elapsed' extra
      finish houtcomes =>
    rw [atLeast_cons hleast hinfo, Log.atLeast_append, atLeast_cons hleast hinfo,
      Log.atLeast_append, atLeast_cons hleast hinfo, atLeast_cons hleast hinfo, Log.atLeast_append,
      atLeast_cons hleast hinfo, atLeast_cons hleast hinfo, Log.atLeast_nil]
    exact .concluded hvalid start _ (hkept hahead) loads _ (hkept htalk) runs _
      (hmiddle.atLeast hleast) elapsed elapsed' extra finish houtcomes

end AtLeast

/-! ## The grammar -/

section Grammar

open Log.Entry (phaseNames)

variable {endpoint : String} {clients : Nat} {attended : List (Attendance σ)}
  {log : List Log.Entry}

/-- What happens within a phase hides no beginning and no end of one. -/
theorem filter_phaseNames (h : ∀ entry ∈ log, entry.Within) :
    (log.map (·.event)).filter (· ∈ phaseNames) = [] := by
  refine List.filter_eq_nil_iff.mpr (List.forall_mem_map.mpr fun entry hentry => ?_)
  rw [decide_eq_true_eq]
  exact (h entry hentry).not_mem_phaseNames

/-- What came of a worker is told in an entry with such a name. -/
theorem Outcome.isEnd_entry (outcome : Outcome) : outcome.entry.IsEnd := by
  cases outcome with
  | completed report => exact List.mem_cons_self
  | failed worker code reason => exact List.mem_cons_of_mem _ List.mem_cons_self

/-- Workers log what happens within a phase. -/
theorem Attended.within (h : Attended endpoint clients attended log) :
    ∀ entry ∈ log, entry.Within := by
  -- by the worker that the entry is about: it is of its talk, or the last one about it
  intro entry hentry
  obtain ⟨id, hid, hclient⟩ := h.owned entry hentry
  have hlt : id < attended.length := by rwa [h.length]
  obtain ⟨-, talk, htalk, hnamed⟩ := h.reported id attended[id] (List.getElem?_eq_getElem hlt)
  have hmem : entry ∈ about id log := List.mem_filter.mpr ⟨hentry, decide_eq_true hclient⟩
  rw [htalk, List.mem_append, List.mem_singleton] at hmem
  rcases hmem with hmem | rfl
  · exact (hnamed.quiet entry hmem).1.within
  · exact (Outcome.isEnd_entry _).within

/-- Each worker ends once. -/
theorem Attended.endsOnce (h : Attended endpoint clients attended log) {id : Nat}
    {one : Attendance σ} (hone : attended[id]? = some one) :
    EndsOnce endpoint id one.outcome (.connected .opened ∈ one.connection.steps) log := by
  obtain ⟨hworker, talk, htalk, hnamed⟩ := h.reported id one hone
  refine ⟨hworker, ?_⟩
  -- the entries about this worker are the last of them and those before it
  obtain ⟨first, last, rfl, hfirst, hlast⟩ := List.filter_eq_append_iff.mp htalk
  obtain ⟨others, later, rfl, hothers, -, hlater⟩ := List.filter_eq_cons_iff.mp hlast
  refine ⟨first ++ others, later, by rw [List.append_assoc], fun entry hentry hclient => ?_,
    fun hopened => ?_⟩
  -- an entry before or behind that is about this worker stands in its talk
  · have hchosen : decide (entry.client? = some (toString id)) = true := decide_eq_true hclient
    rcases List.mem_append.mp hentry with hentry | hentry
    · rcases List.mem_append.mp hentry with hentry | hentry
      · have hmem : entry ∈ talk := hfirst ▸ List.mem_filter.mpr ⟨hentry, hchosen⟩
        exact (hnamed.quiet entry hmem).1.not_isEnd
      · exact absurd hchosen (hothers entry hentry)
    · exact absurd hchosen (List.filter_eq_nil_iff.mp hlater entry hentry)
  · have hmem : connectedEntry endpoint (toString id) ∈ talk := hnamed.connected hopened
    rw [← hfirst] at hmem
    exact List.mem_append_left _ (List.mem_filter.mp hmem).1

/-- A connection that was opened has a step that opened it. -/
theorem Connection.mem_of_wasOpened {connection : Connection σ}
    (h : connection.wasOpened = true) : .connected .opened ∈ connection.steps := by
  obtain ⟨step, hstep, hopened⟩ := List.any_eq_true.mp h
  split at hopened
  · exact hstep
  · exact absurd hopened (by decide)

/-- That a connection was opened can be told by anything that implies it. -/
theorem EndsOnce.imp {id : Nat} {outcome : Outcome} {opened opened' : Prop}
    (h : EndsOnce endpoint id outcome opened log) (himp : opened' → opened) :
    EndsOnce endpoint id outcome opened' log := by
  obtain ⟨earlier, later, hlog, hends, hconnected⟩ := h.once
  exact ⟨h.worker, earlier, later, hlog, hends, fun hopened => hconnected (himp hopened)⟩

/-- Each worker of a run has an outcome and ends with it. Its connection is behind that of the load
phase. -/
theorem Attended.exists_outcome (h : Attended endpoint clients attended log)
    (loading : Connection σ) {id : Nat} (hid : id < clients) :
    ∃ outcome, (attended.map (·.outcome))[id]? = some outcome ∧
      EndsOnce endpoint id outcome
        (∃ connection, (loading :: attended.map (·.connection))[id + 1]? = some connection ∧
          connection.wasOpened = true) log := by
  have hlt : id < attended.length := by rwa [h.length]
  -- the worker is the one that was attended at that place
  have hone : attended[id]? = some attended[id] := List.getElem?_eq_getElem hlt
  refine ⟨attended[id].outcome, by rw [List.getElem?_map, hone]; rfl, (h.endsOnce hone).imp ?_⟩
  rintro ⟨found, hfound, hopened⟩
  rw [List.getElem?_cons_succ, List.getElem?_map, hone] at hfound
  obtain rfl := Option.some.inj hfound
  exact Connection.mem_of_wasOpened hopened

end Grammar

variable {config : Config} {site : Site σ} {execution : Execution σ} {log : List Log.Entry}

/-- The names of the entries of a run that ends with an error. -/
def failureNames : List String :=
  "RUN_START" :: "LOAD_PHASE_BEGIN" :: "LOAD_PHASE_FAILED" :: Log.Entry.quietNames

/-- The names of the entries of a run that has a result. -/
def successNames : List String :=
  "RUN_START" :: (Log.Entry.phaseNames ++ (Log.Entry.quietNames ++ Log.Entry.endNames))

/-- A run that ends with an error logs no run phase, and its load phase is not begun, or it fails in
the end. -/
theorem Narrates.error (h : Narrates config site execution log) {e : Error}
    (hfate : execution.fate = .returned (.error e)) :
    (∀ entry ∈ log, entry.event ∈ failureNames) ∧
      ((∃ entry ∈ log, entry.event = "LOAD_PHASE_BEGIN") →
        ∃ entry, log.getLast? = some entry ∧ entry.event = "LOAD_PHASE_FAILED") := by
  -- the names of quiet entries are among those of a failing run
  have hquiet {entry : Log.Entry} (h : entry.Quiet) : entry.event ∈ failureNames :=
    List.mem_cons_of_mem _ (List.mem_cons_of_mem _ (List.mem_cons_of_mem _ h))
  cases h with
  | invalid hvalid =>
    refine ⟨fun _ hentry => (nomatch hentry), ?_⟩
    rintro ⟨entry, hentry, -⟩
    exact nomatch hentry
  | crashed hvalid start rest => exact nomatch hfate
  | unprepared hvalid start ahead hahead =>
    refine ⟨List.forall_mem_cons.mpr ⟨List.mem_cons_self, fun entry hentry =>
      hquiet (hahead entry hentry)⟩, ?_⟩
    rintro ⟨entry, hentry, hbegun⟩
    -- none of the entries of this log begins a load phase
    rcases List.mem_cons.mp hentry with rfl | hentry
    · exact absurd hbegun (by decide : "RUN_START" ≠ "LOAD_PHASE_BEGIN")
    · exact absurd (hbegun ▸ hahead entry hentry)
        (by decide : "LOAD_PHASE_BEGIN" ∉ Log.Entry.quietNames)
  | unloaded hvalid start ahead hahead commands talk htalk reason =>
    constructor
    · simp only [List.forall_mem_cons, List.forall_mem_append]
      refine ⟨List.mem_cons_self, fun entry hentry => hquiet (hahead entry hentry),
        (by decide : "LOAD_PHASE_BEGIN" ∈ failureNames), fun entry hentry =>
        hquiet (htalk entry hentry), (by decide : "LOAD_PHASE_FAILED" ∈ failureNames), ?_⟩
      exact fun _ hentry => nomatch hentry
    -- the end of the load phase is the last entry
    · intro _
      refine ⟨(loadScope site.endpoint commands).failed reason, ?_, rfl⟩
      refine List.getLast?_eq_some_iff.mpr ⟨Log.Event.runStart.entry start ::
        (ahead ++ (loadScope site.endpoint commands).opened :: talk), ?_⟩
      simp
  | concluded => exact nomatch hfate

/-- A run that has a result logs each of its phases with its beginning and its end, and each of its
workers within the run phase. -/
theorem Narrates.conclusive (h : Narrates config site execution log) {result : Result}
    (hfate : execution.fate = .returned (.ok result)) :
    (∀ entry ∈ log, entry.event ∈ successNames) ∧
      Conclusive site.endpoint config.clients execution.connections result log := by
  cases h with
  | invalid hvalid => exact nomatch hfate
  | crashed hvalid start rest => exact nomatch hfate
  | unprepared hvalid start ahead hahead => exact nomatch hfate
  | unloaded hvalid start ahead hahead commands talk htalk reason => exact nomatch hfate
  | @concluded found connection attended hvalid start ahead hahead loads talk htalk runs middle
      hmiddle elapsed elapsed' extra finish houtcomes =>
    -- the result is that of the attended workers
    obtain rfl : found = result := Except.ok.inj (Fate.returned.inj hfate)
    have hwithin {entry : Log.Entry} (h : entry.Within) : entry.event ∈ successNames :=
      List.mem_cons_of_mem _ (List.mem_append_right _ h)
    constructor
    · simp only [List.forall_mem_cons, List.forall_mem_append]
      refine ⟨List.mem_cons_self, fun entry hentry => hwithin (hahead entry hentry).within,
        (by decide : "LOAD_PHASE_BEGIN" ∈ successNames), fun entry hentry =>
        hwithin (htalk entry hentry).within, (by decide : "LOAD_PHASE_COMPLETE" ∈ successNames),
        (by decide : "RUN_PHASE_BEGIN" ∈ successNames), fun entry hentry =>
        hwithin (hmiddle.within entry hentry), (by decide : "RUN_PHASE_COMPLETE" ∈ successNames),
        (by decide : "RUN_COMPLETE" ∈ successNames), ?_⟩
      exact fun _ hentry => nomatch hentry
    constructor
    case phases =>
      -- only the entries that begin and end the phases are left, in this order
      have hahead' := filter_phaseNames fun entry hentry => (hahead entry hentry).within
      have htalk' := filter_phaseNames fun entry hentry => (htalk entry hentry).within
      have hmiddle' := filter_phaseNames hmiddle.within
      simp only [List.map_cons, List.map_append, List.filter_cons, List.filter_append, hahead',
        htalk', hmiddle', List.map_nil, List.filter_nil, List.nil_append]
      rfl
    case last =>
      refine ⟨Log.Event.runComplete.entry finish, ?_, rfl⟩
      simp [List.getLast?_cons, List.getLast?_append]
    case workers =>
      -- what came of the workers stands between the beginning and the end of the run phase
      refine ⟨Log.Event.runStart.entry start :: (ahead ++ (loadScope site.endpoint loads).opened ::
          (talk ++ [(loadScope site.endpoint loads).completed elapsed []])),
        (runScope config runs).opened, middle, (runScope config runs).completed elapsed' extra,
        [Log.Event.runComplete.entry finish], by simp, rfl, rfl, ?_,
        fun entry hentry _ => hmiddle.owned entry hentry, fun id hid => ?_⟩
      · simp only [List.forall_mem_cons, List.forall_mem_append]
        refine ⟨⟨(by decide : "RUN_START" ∉ Log.Entry.endNames), fun entry hentry =>
          (hahead entry hentry).not_isEnd, (by decide : "LOAD_PHASE_BEGIN" ∉ Log.Entry.endNames),
          fun entry hentry => (htalk entry hentry).not_isEnd,
          (by decide : "LOAD_PHASE_COMPLETE" ∉ Log.Entry.endNames), fun _ hentry => nomatch hentry⟩,
          (by decide : "RUN_COMPLETE" ∉ Log.Entry.endNames), fun _ hentry => nomatch hentry⟩
      · rw [houtcomes]
        exact hmiddle.exists_outcome connection hid

/-- What is logged of a run keeps to the grammar. -/
theorem Narrates.grammatical (h : Narrates config site execution log) :
    Grammatical config site execution log where
  silent e hinvalid := by
    cases h with
    | invalid hvalid => rfl
    | crashed hvalid | unprepared hvalid | unloaded hvalid | concluded hvalid =>
      rw [hvalid] at hinvalid
      exact nomatch hinvalid
  first hok := by
    cases h with
    | invalid hvalid =>
      rw [hvalid] at hok
      exact nomatch hok
    | crashed | unprepared | unloaded | concluded => exact ⟨_, rfl, rfl⟩
  result result hfate := (h.conclusive hfate).2
  error e hfate := by
    -- what the names must not be is checked for each name that there is
    obtain ⟨hnames, hlast⟩ := h.error hfate
    have hall : ∀ name ∈ failureNames,
        ¬ "RUN_PHASE_".toList <+: name.toList ∧ name ≠ "RUN_COMPLETE" := by
      decide +kernel
    exact ⟨fun entry hentry => hall entry.event (hnames entry hentry), hlast⟩
  complete hreturned entry hentry := by
    have hall : ∀ name ∈ failureNames ++ successNames,
        ¬ "_INCOMPLETE".toList <:+ name.toList := by
      decide +kernel
    refine hall entry.event (List.mem_append.mpr ?_)
    cases hfate : execution.fate with
    | crashed message => exact absurd hfate (hreturned message)
    | returned result =>
      cases result with
      | error e => exact .inl ((h.error hfate).1 entry hentry)
      | ok result => exact .inr ((h.conclusive hfate).1 entry hentry)

/-- The log of a run in which nothing from `INFO` on is left out keeps to the grammar: whatever is in
the files, whatever the peer answers, and in whatever order the workers move. -/
theorem execute_grammatical (files : Files) (config : Config) (site : Site σ) (occasion : Occasion)
    (least : Severity) (hleast : least ≤ .info) :
    (∀ moves, Grammatical config site
      ((executeAlong files config site occasion moves).run least).2
      ((executeAlong files config site occasion moves).run least).1) ∧
    Grammatical config site ((execute files config site occasion).run least).2
      ((execute files config site occasion).run least).1 := by
  have halong : ∀ moves, Grammatical config site
      ((executeAlong files config site occasion moves).run least).2
      ((executeAlong files config site occasion moves).run least).1 := by
    intro moves
    have hfiltered := filtered_executeAlong files config site occasion moves
    have hnarrates := narrates_executeAlong files config site occasion moves
    -- the log at this level is the one at the lowest level without the less grave entries
    rw [hfiltered.entries least, hfiltered.result least]
    exact (hnarrates.atLeast hleast).grammatical
  refine ⟨halong, ?_⟩
  have hexecute := halong []
  rwa [executeAlong_nil] at hexecute

/-- The second of two workers ends in opening its connection before the first one begins. The run
takes note of that when the first one is through. -/
theorem execute_grammatical_crashing :
    let files : Files := {
      read := fun path => .ok (Text.encode
        (if path = "t/w_load" then "query(get(\"a\"))" else "query(get(\"b\"))").toList)
      list := fun _ => .ok []
      write := fun _ _ => .ok () }
    let config : Config := { workload := "w", traceFolder := "t", clients := 2, valueSize := 3 }
    let site : Site Nat := {
      endpoint := "mock://controller"
      peer := {
        connect := fun n => (if n = 2 then .crashed "no descriptors" else .opened, n)
        send := fun _ n => (.ok (), n)
        receive := fun n => (.ok (some []), n)
        close := fun n => (.ok (), n)
        clock := fun n => (.zero, n) }
      opening := id }
    let run := (executeAlong files config site ⟨"r1", ⟨0, 0⟩, .zero, .zero⟩
      [.work 1, .work 0, .work 0]).run .info
    Severity.info ≤ .info ∧ Grammatical config site run.2 run.1 ∧
      run.1.map (·.event) =
        ["RUN_START", "WORKLOAD_COMPILED", "LOAD_PHASE_BEGIN", "WORKER_CONNECTED",
          "LOAD_PHASE_COMPLETE", "RUN_PHASE_BEGIN", "WORKER_CONNECTED", "WORKER_COMPLETE",
          "WORKER_FAILED", "RUN_PHASE_COMPLETE", "RUN_COMPLETE"] := by
  intro files config site run
  have hleast : Severity.info ≤ .info := by decide
  have hgrammatical := execute_grammatical files config site ⟨"r1", ⟨0, 0⟩, .zero, .zero⟩ .info hleast
  exact ⟨hleast, hgrammatical.1 [.work 1, .work 0, .work 0], by decide +kernel⟩

end Run
end PolicyReplay
