import PolicyReplay.CommandLine.Perform
import PolicyReplay.Proofs.Run.Distribution
import PolicyReplay.Proofs.Run.Records

/-!
# How a run ends for its user

A run that is executed prints its summary and writes its report before it is judged, so neither is
lost when the report cannot be written or nothing was measured. It succeeds if its report is
written, should there be one, and some worker completed with a command that was answered. A run that
is not executed prints nothing.

## Key results

- `exists_report`: a run with a result has a report
- `hasData_iff_answered`: what there is to measure
- `performRun_judged`: how a run ends, and what it leaves
-/

namespace PolicyReplay.Run

variable {σ : Type} {files : Files} {config : Config} {site : Site σ} {occasion : Occasion}
  {least : Severity} {result : Result}

/-! ## Reports -/

/-- The aggregate of a result is that of its outcomes. -/
theorem exists_agreed
    (h : ((execute files config site occasion).run least).2.fate = .returned (.ok result)) :
    ∃ records, result.outcomes.mapM Outcome.record = .ok records ∧
      Agreed result.outcomes records result.aggregate := by
  -- the run was concluded with its outcomes, so their means can be told
  obtain ⟨workload, setup, -, hconcluded⟩ := execute_concluded h
  obtain ⟨means, mean, hmeans, -⟩ := ofOutcomes_eq_ok_iff.mp hconcluded.aggregated
  obtain ⟨records, hrecords⟩ := exists_records hmeans
  exact ⟨records, hrecords, agreed_of_ofOutcomes hconcluded.aggregated hrecords⟩

/-- A run with a result has a report: no mean is told in it that was not already needed. -/
theorem exists_report
    (h : ((execute files config site occasion).run least).2.fate = .returned (.ok result)) :
    ∃ text, reportText config result = .ok text := by
  obtain ⟨records, hrecords, -⟩ := exists_agreed h
  rw [reportText, report, hrecords]
  exact ⟨_, rfl⟩

/-! ## Data -/

/-- A worker replayed the whole of its share, which has a command, and each of its commands was
answered. -/
def Answered (files : Files) (config : Config) (execution : Execution σ) (result : Result) : Prop :=
  ∃ workload setup id share connection report, Ready files config workload setup ∧
    (sharesOf config workload)[id]? = some share ∧ share ≠ [] ∧
    execution.connections[id + 1]? = some connection ∧
    result.outcomes[id]? = some (.completed report) ∧
    Served setup share connection.steps report

/-- There are data exactly if some command of a worker that completed was answered. -/
theorem hasData_iff_answered
    (h : ((execute files config site occasion).run least).2.fate = .returned (.ok result)) :
    result.aggregate.hasData = true ↔
      Answered files config ((execute files config site occasion).run least).2 result := by
  obtain ⟨records, -, hagreed⟩ := exists_agreed h
  obtain ⟨workload, setup, hready, hconcluded⟩ := execute_concluded h
  rw [hagreed.hasData_iff, hagreed.reporting_outcomes, List.countP_pos_iff]
  constructor
  -- a worker that reports answers for its own share, under the number that both have
  · rintro ⟨outcome, houtcome, hreporting⟩
    obtain ⟨id, hid⟩ := List.mem_iff_getElem?.mp houtcome
    have hworker := hid
    rw [hconcluded.outcomes_eq, List.getElem?_map, attendancesOf, getElem?_attendances,
      Option.map_map] at hworker
    obtain ⟨share, hshare, rfl⟩ := Option.map_eq_some_iff.mp hworker
    have hconnection : ((execute files config site occasion).run least).2.connections[id + 1]? =
        some (attendance site setup share id).connection := by
      -- the connections begin with that of the load phase, so a worker's is one further
      rw [hconcluded.connected, List.getElem?_cons_succ, List.getElem?_map, attendancesOf,
        getElem?_attendances, hshare]
      rfl
    -- only a worker that completed reports
    cases hcompleted : (attendance site setup share id).outcome with
    | failed worker code reason =>
      rw [Function.comp_apply, hcompleted] at hreporting
      cases hreporting
    | completed report =>
      rw [Function.comp_apply, hcompleted] at hreporting hid
      -- a command that the farewell would end is in no share
      have hserved := served_of_completed (fun command hcommand =>
        ne_farewell_of_mem_shares hready command
          (List.mem_flatten_of_mem (List.mem_of_getElem? hshare) hcommand)) hcompleted
      refine ⟨workload, setup, id, share, _, report, hready, hshare, ?_, hconnection, hid, hserved⟩
      -- a worker with nothing to do completes, but does not report
      rintro rfl
      simp [Outcome.isReporting, hserved.counted] at hreporting
  -- and each answered command of a share is counted in the report of its worker
  · rintro ⟨workload, setup, id, share, connection, report, -, -, hshare, -, houtcome, hserved⟩
    refine ⟨_, List.mem_of_getElem? houtcome, ?_⟩
    have hcount : report.latency.count ≠ 0 := by
      rw [hserved.counted]
      simpa using hshare
    simpa [Outcome.isReporting] using hcount

end PolicyReplay.Run

namespace PolicyReplay.CommandLine

variable {σ : Type} {world : World σ} {flags : Flags} {levelGiven : Bool} {least level : Severity}
  {files : Files} {settings : Settings} {result : Run.Result} {text : String}

/-! ## What is done with the result of a run -/

/-- How a run ends that is not kept from it by its report. -/
def verdict (result : Run.Result) : Ending :=
  if result.aggregate.hasData then .succeeded else .failed (.run .noData)

/-- A run succeeds by its data if they are there. -/
theorem verdict_eq_succeeded_iff :
    verdict result = .succeeded ↔ result.aggregate.hasData = true := by
  unfold verdict
  split <;> simp [*]

/-- Without a report the run ends by its data. -/
theorem conclude_of_no_report (h : settings.report = none) :
    conclude files settings result =
      { output := result.aggregate.summary, ending := verdict result } := by
  rw [conclude, h]
  rfl

/-- A report that is written does not change how the run ends. -/
theorem conclude_of_written {path : String} (h : settings.report = some path)
    (htext : Run.reportText settings.config result = .ok text)
    (hwrite : files.write path (Text.encode text.toList) = .ok ()) :
    conclude files settings result =
      { output := result.aggregate.summary, written := some (path, text),
        ending := verdict result } := by
  simp only [conclude, h, htext, Run.writeReport, hwrite]
  rfl

/-- A report that cannot be written is told before it is seen whether there is any data. -/
theorem conclude_of_unwritten {path : String} {cause : SystemError}
    (h : settings.report = some path) (htext : Run.reportText settings.config result = .ok text)
    (hwrite : files.write path (Text.encode text.toList) = .error cause) :
    conclude files settings result =
      { output := result.aggregate.summary, written := some (path, text),
        ending := .failed (.run (.reportUnwritten path cause)) } := by
  simp only [conclude, h, htext, Run.writeReport, hwrite]
  rfl

/-- The report is written, if there is to be one. -/
def ReportWritten (files : Files) (settings : Settings) (result : Run.Result) : Prop :=
  ∀ path, settings.report = some path → ∃ text, Run.reportText settings.config result = .ok text ∧
    files.write path (Text.encode text.toList) = .ok ()

/-- A report that is not in the way leaves the end of a run to its data. -/
theorem conclude_ending_of_reportWritten (h : ReportWritten files settings result) :
    (conclude files settings result).ending = verdict result := by
  cases hreport : settings.report with
  | none => rw [conclude_of_no_report hreport]
  | some path =>
    obtain ⟨text, htext, hwrite⟩ := h path hreport
    rw [conclude_of_written hreport htext hwrite]

/-- A run ends well if it has its report and has data. -/
theorem conclude_ending_eq_succeeded_iff
    (htext : ∃ text, Run.reportText settings.config result = .ok text) :
    (conclude files settings result).ending = .succeeded ↔
      ReportWritten files settings result ∧ result.aggregate.hasData = true := by
  by_cases hwritten : ReportWritten files settings result
  · rw [conclude_ending_of_reportWritten hwritten, verdict_eq_succeeded_iff]
    exact ⟨fun h => ⟨hwritten, h⟩, And.right⟩
  -- the report is missing: then there is to be one, and it cannot be written
  · refine iff_of_false ?_ fun h => hwritten h.1
    obtain ⟨text, htext⟩ := htext
    cases hreport : settings.report with
    | none => exact absurd (fun path h => nomatch hreport.symm.trans h) hwritten
    | some path =>
      cases hwrite : files.write path (Text.encode text.toList) with
      | ok _ =>
        refine absurd (fun path' h => ?_) hwritten
        obtain rfl := Option.some.inj (hreport.symm.trans h)
        exact ⟨text, htext, hwrite⟩
      | error cause =>
        rw [conclude_of_unwritten hreport htext hwrite]
        exact nofun

/-- However a run ends, its summary is printed and its report attempted. -/
theorem conclude_output (files : Files)
    (htext : ∃ text, Run.reportText settings.config result = .ok text) :
    (conclude files settings result).output = result.aggregate.summary ∧
      ∀ path, settings.report = some path → ∃ text,
        Run.reportText settings.config result = .ok text ∧
        (conclude files settings result).written = some (path, text) := by
  obtain ⟨text, htext⟩ := htext
  cases hreport : settings.report with
  | none =>
    rw [conclude_of_no_report hreport]
    exact ⟨rfl, nofun⟩
  | some path =>
    -- the summary is printed and the report is on its way before it is seen whether it is written
    have hboth : (conclude files settings result).output = result.aggregate.summary ∧
        (conclude files settings result).written = some (path, text) := by
      cases hwrite : files.write path (Text.encode text.toList) with
      | ok _ =>
        rw [conclude_of_written hreport htext hwrite]
        exact ⟨rfl, rfl⟩
      | error cause =>
        rw [conclude_of_unwritten hreport htext hwrite]
        exact ⟨rfl, rfl⟩
    refine ⟨hboth.1, fun path' h => ⟨text, htext, ?_⟩⟩
    rw [← Option.some.inj h, hboth.2]

/-! ## What is done with a run -/

/-- The run that is executed with settled settings. Unless the arguments name a log level, that of
the settings holds. -/
def executionOf (world : World σ) (settings : Settings) (levelGiven : Bool)
    (least level : Severity) : Run.Execution σ :=
  ((Run.execute world.files settings.config (world.site settings.endpoint) world.occasion).run
    (if levelGiven then least else level)).2

/-- What comes of a request by what comes of the run. -/
def performanceOf (files : Files) (settings : Settings) :
    Fate (Except Run.Error Run.Result) → Performance
  | .crashed message => { ending := .crashed message }
  | .returned (.error e) => .failed (.run e)
  | .returned (.ok result) => conclude files settings result

/-- With settled settings only the fate of the run matters. -/
theorem run_performSettled (world : World σ) (settings : Settings) (least : Severity) :
    ((performSettled world settings).run least).2 = performanceOf world.files settings
      ((Run.execute world.files settings.config (world.site settings.endpoint)
        world.occasion).run least).2.fate := by
  rw [performSettled, Logging.run_bind]
  -- what is executed is logged as well, which decides nothing here
  generalize (Run.execute world.files settings.config (world.site settings.endpoint)
    world.occasion).run least = executed
  obtain ⟨entries, fate, connections⟩ := executed
  cases fate with
  | crashed message => rfl
  | returned returned =>
    cases returned with
    | error e => rfl
    | ok result => rfl

/-- Behind settled settings there is the run at the level that holds then. -/
theorem performRun_of_resolved
    (h : ((Settings.resolve world.files flags).run least).2 = .ok (settings, level)) :
    ((performRun world flags levelGiven).run least).2 = performanceOf world.files settings
      (executionOf world settings levelGiven least level).fate := by
  rw [performRun, Logging.run_bind, h]
  -- a level among the arguments is the one that held already
  cases levelGiven with
  | true => exact run_performSettled world settings least
  | false => exact run_performSettled world settings level

/-- A fault in the settings is all that is told. -/
theorem performRun_of_fault {fault : Settings.Fault}
    (h : ((Settings.resolve world.files flags).run least).2 = .error fault) :
    ((performRun world flags levelGiven).run least).2 = .failed (.settings fault) := by
  rw [performRun, Logging.run_bind, h]
  rfl

/-! ## The end of a run -/

/-- Settings that are resolved, and the run that is executed with them. -/
def Settled (world : World σ) (flags : Flags) (levelGiven : Bool) (least : Severity)
    (settings : Settings) (execution : Run.Execution σ) : Prop :=
  ∃ level, ((Settings.resolve world.files flags).run least).2 = .ok (settings, level) ∧
    execution = executionOf world settings levelGiven least level

/-- How a run ends and what it leaves. -/
structure Judged (world : World σ) (flags : Flags) (levelGiven : Bool) (least : Severity)
    (performance : Performance) : Prop where
  /-- A run succeeds if its settings are settled, it is executed, its report is written, if there is
  to be one, and some worker completed with a command that was answered. -/
  succeeded_iff : performance.ending = .succeeded ↔ ∃ settings execution result,
    Settled world flags levelGiven least settings execution ∧
    execution.fate = .returned (.ok result) ∧ ReportWritten world.files settings result ∧
    Run.Answered world.files settings.config execution result
  /-- A run that is executed prints its summary, in two lines, and attempts its report, however it
  ends. -/
  executed : ∀ settings execution result,
    Settled world flags levelGiven least settings execution →
    execution.fate = .returned (.ok result) →
      performance.output = result.aggregate.summary ∧
      (∃ first second : String, performance.output = first ++ "\n" ++ second ++ "\n" ∧
        '\n' ∉ first.toList ∧ '\n' ∉ second.toList) ∧
      ∀ path, settings.report = some path → ∃ text,
        Run.reportText settings.config result = .ok text ∧
        performance.written = some (path, text)
  /-- A report that cannot be written is told first. -/
  unwritten : ∀ settings execution result path text cause,
    Settled world flags levelGiven least settings execution →
    execution.fate = .returned (.ok result) → settings.report = some path →
    Run.reportText settings.config result = .ok text →
    world.files.write path (Text.encode text.toList) = .error cause →
      performance.ending = .failed (.run (.reportUnwritten path cause))
  /-- A run in which nothing was measured fails for that if nothing else is told. -/
  no_data : ∀ settings execution result,
    Settled world flags levelGiven least settings execution →
    execution.fate = .returned (.ok result) → ReportWritten world.files settings result →
    ¬ Run.Answered world.files settings.config execution result →
      performance.ending = .failed (.run .noData)
  /-- Without settled settings nothing is printed, and nothing is written. -/
  unresolved : ∀ fault, ((Settings.resolve world.files flags).run least).2 = .error fault →
    performance = { output := "", written := none, ending := .failed (.settings fault) }
  /-- A run that fails prints nothing and writes nothing. -/
  unexecuted : ∀ settings execution e, Settled world flags levelGiven least settings execution →
    execution.fate = .returned (.error e) →
      performance = { output := "", written := none, ending := .failed (.run e) }
  crashed : ∀ settings execution message,
    Settled world flags levelGiven least settings execution →
    execution.fate = .crashed message →
      performance = { output := "", written := none, ending := .crashed message }

section Settled

variable {execution : Run.Execution σ}
  (h : Settled world flags levelGiven least settings execution)

include h

/-- What comes of a request is what comes of its run. -/
theorem Settled.performed : ((performRun world flags levelGiven).run least).2 =
    performanceOf world.files settings execution.fate := by
  obtain ⟨level, hresolved, rfl⟩ := h
  exact performRun_of_resolved hresolved

variable (hfate : execution.fate = .returned (.ok result))

include hfate

/-- A run with a result is concluded with it. -/
theorem Settled.concluded : ((performRun world flags levelGiven).run least).2 =
    conclude world.files settings result := by
  rw [h.performed, hfate]
  rfl

/-- A run with a result has a text to report. -/
theorem Settled.exists_text : ∃ text, Run.reportText settings.config result = .ok text := by
  obtain ⟨level, -, rfl⟩ := h
  exact Run.exists_report hfate

/-- A run with a result has data if a command of a completed worker was answered. -/
theorem Settled.hasData_iff : result.aggregate.hasData = true ↔
    Run.Answered world.files settings.config execution result := by
  obtain ⟨level, -, rfl⟩ := h
  exact Run.hasData_iff_answered hfate

end Settled

/-- A run that succeeds has been executed. -/
theorem exists_result_of_succeeded
    (h : ((performRun world flags levelGiven).run least).2.ending = .succeeded) :
    ∃ settings execution result, Settled world flags levelGiven least settings execution ∧
      execution.fate = .returned (.ok result) := by
  -- by what can go wrong before the end, stage by stage: none of it ends well
  cases hresolved : ((Settings.resolve world.files flags).run least).2 with
  | error fault =>
    rw [performRun_of_fault hresolved] at h
    exact nomatch h
  | ok settled =>
    obtain ⟨settings, level⟩ := settled
    rw [performRun_of_resolved hresolved] at h
    cases hfate : (executionOf world settings levelGiven least level).fate with
    | crashed message =>
      rw [hfate] at h
      exact nomatch h
    | returned returned =>
      cases returned with
      | error e =>
        rw [hfate] at h
        exact nomatch h
      | ok result => exact ⟨settings, _, result, ⟨level, hresolved, rfl⟩, hfate⟩

/-- How every run ends, and what it leaves. -/
theorem performRun_judged (world : World σ) (flags : Flags) (levelGiven : Bool)
    (least : Severity) :
    Judged world flags levelGiven least ((performRun world flags levelGiven).run least).2 := by
  -- the end of a run with a result, which two of the parts are about
  have hended : ∀ settings execution result,
      Settled world flags levelGiven least settings execution →
      execution.fate = .returned (.ok result) →
        (((performRun world flags levelGiven).run least).2.ending = .succeeded ↔
          ReportWritten world.files settings result ∧
            Run.Answered world.files settings.config execution result) := by
    intro settings execution result hrun hfate
    rw [hrun.concluded hfate, conclude_ending_eq_succeeded_iff (hrun.exists_text hfate),
      hrun.hasData_iff hfate]
  constructor
  case succeeded_iff =>
    constructor
    · intro hsucceeded
      obtain ⟨settings, execution, result, hrun, hfate⟩ := exists_result_of_succeeded hsucceeded
      exact ⟨settings, execution, result, hrun, hfate,
        (hended settings execution result hrun hfate).mp hsucceeded⟩
    · rintro ⟨settings, execution, result, hrun, hfate, hboth⟩
      exact (hended settings execution result hrun hfate).mpr hboth
  case executed =>
    intro settings execution result hrun hfate
    obtain ⟨houtput, hwritten⟩ := conclude_output world.files (hrun.exists_text hfate)
    rw [hrun.concluded hfate, houtput]
    exact ⟨rfl, Run.summary_lines _, hwritten⟩
  case unwritten =>
    intro settings execution result path text cause hrun hfate hreport htext hwrite
    rw [hrun.concluded hfate, conclude_of_unwritten hreport htext hwrite]
  case no_data =>
    intro settings execution result hrun hfate hwritten hanswered
    rw [hrun.concluded hfate, conclude_ending_of_reportWritten hwritten, verdict,
      if_neg fun h => hanswered ((hrun.hasData_iff hfate).mp h)]
  case unresolved =>
    intro fault hfault
    rw [performRun_of_fault hfault]
    rfl
  case unexecuted =>
    intro settings execution e hrun hfate
    rw [hrun.performed, hfate]
    rfl
  case crashed =>
    intro settings execution message hrun hfate
    rw [hrun.performed, hfate]
    rfl

/-- A run whose only worker is not let in: its summary is printed and its report is written before
it fails. -/
example :
    let world : World Nat := {
      files := {
        read := fun path => .ok (Text.encode
          (if path = "p" then
            "\x7b\"sessionKey\":\"u1\",\"default_policy\":\x7b\"objPur\":[\"ads\"]\x7d\x7d"
          else "query(get(\"a\"))").toList)
        list := fun _ => .ok []
        write := fun _ _ => .ok () }
      standardInput := []
      site := fun endpoint => {
        endpoint := endpoint.text
        peer := {
          connect := fun n => (.opened, n)
          send := fun _ n => (.ok (), n)
          receive := fun n => (.ok (some (if n = 0 then Frame.acknowledgement else [])), n)
          close := fun n => (.ok (), n)
          clock := fun n => (.zero, n) }
        opening := id }
      occasion := ⟨"r1", ⟨0, 0⟩, .zero, .zero⟩ }
    let performance := ((performRun world
      { workload := some "w", policy := some "p", report := some "r.json" } true).run .info).2
    performance.ending = .failed (.run .noData) ∧
      performance.output = "Did not gather latency statistics --- experiment failed.\n" ++
        "Elapsed time: 0.000 seconds\n" ∧
      performance.written.isSome = true := by
  decide +kernel

end PolicyReplay.CommandLine
