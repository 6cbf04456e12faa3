import PolicyReplay.CommandLine.Perform
import PolicyReplay.Proofs.Command.Provenance
import PolicyReplay.Proofs.Run.Preparation
import PolicyReplay.Proofs.Text.Lines

/-!
# A trace is compiled line by line

Each query line of a text gives a command, and the first line that gives none decides the error.
Which lines are query lines is said by `HoldsAt` without the functions that cut a text: comments and
blank lines are passed over, and they count for the numbers of the lines behind them.

## Key results

- `queryLines_spec`: the query lines of a text, with their numbers, in order
- `compiled_compileLinesWith`: one command for each query line, or the error of the first that fails
- `printed_performCompile`: what is printed of a text
- `opensBoth_assemble`: both traces of a workload have to compile, the load trace first
- `compiles_line_by_line`: all of this, on the command line and for workloads
-/

namespace PolicyReplay.Trace

variable {text : String} {prepare : String → String} {lines : List Line} {line : Line}

/-! ## What is said of a text -/

/-- A text holds this query line: it is the line of the text with this number, it is no comment, and
it is not blank. -/
structure HoldsAt (text : String) (line : Line) : Prop where
  place : Text.LineAt line.number text.toList line.text.toList
  query : line.text.toList.head? ≠ some '#'
  unblank : ∃ c ∈ line.text.toList, Text.isBlank c = false

/-- The query lines of a text, in the order in which they stand. -/
structure QueryLines (text : String) (lines : List Line) : Prop where
  mem_iff : ∀ line, line ∈ lines ↔ HoldsAt text line
  ordered : lines.Pairwise (·.number < ·.number)

/-- A line gives a command after `prepare` has been applied to it. -/
def Line.Compiles (prepare : String → String) (line : Line) : Prop :=
  ∃ command, Command.ofLine (prepare line.text) = .ok command

/-- What comes of query lines that are compiled after `prepare` has been applied to each. -/
structure Compiled (prepare : String → String) (lines : List Line)
    (outcome : Except LineError (List Command)) : Prop where
  /-- There are commands exactly if every query line gives one. -/
  succeeds : (∃ commands, outcome = .ok commands) ↔ ∀ line ∈ lines, line.Compiles prepare
  /-- They are the commands of the lines, one for each and in order. -/
  commands : ∀ commands, outcome = .ok commands →
    List.Forall₂ (fun line command => Command.ofLine (prepare line.text) = .ok command)
      lines commands
  /-- Each of them stays on its line. -/
  unbroken : ∀ commands, outcome = .ok commands →
    ∀ command ∈ commands, '\n' ∉ command.text.toList
  /-- An error is that of the first line that gives no command, and it has the number of that
  line. -/
  first : ∀ e, outcome = .error e → ∃ line ∈ lines, line.number = e.number ∧
    Command.ofLine (prepare line.text) = .error e.cause ∧
    ∀ other ∈ lines, other.number < line.number → other.Compiles prepare

/-- What a request amounts to that prints the commands of query lines. -/
structure Printed (lines : List Line) (outcome : Except LineError (List Command))
    (performance : CommandLine.Performance) : Prop where
  unwritten : performance.written = none
  /-- As many lines are printed as there are query lines, and each is a command. -/
  commands : ∀ commands, outcome = .ok commands → performance.ending = .succeeded ∧
    performance.output.toList = commands.flatMap (·.text.toList ++ ['\n']) ∧
    (Text.lines performance.output.toList).length = lines.length
  /-- With an error, nothing is printed. -/
  error : ∀ e, outcome = .error e →
    performance.ending = .failed (.badLine e) ∧ performance.output = ""

/-! ## Query lines and their numbers -/

/-- A line is a query line exactly if it is no comment and not blank. -/
theorem holdsQuery_iff {s : List Char} :
    holdsQuery s = true ↔ s.head? ≠ some '#' ∧ ∃ c ∈ s, Text.isBlank c = false := by
  have hblank : Text.isBlankText s = false ↔ ∃ c ∈ s, Text.isBlank c = false := by
    rw [Text.isBlankText, List.all_eq_false]
    simp
  rw [holdsQuery, Bool.and_eq_true, Bool.not_eq_true', hblank, decide_eq_true_iff]

/-- The numbered lines of a text are its lines, each with its own number. -/
theorem mem_numberedLines_iff :
    line ∈ numberedLines text ↔ Text.LineAt line.number text.toList line.text.toList := by
  obtain ⟨number, s⟩ := line
  have hplace : (s.toList, number) ∈ (Text.lines text.toList).zipIdx 1 ↔
      -- the place of a line in the list is one less than its number
      Text.LineAt number text.toList s.toList := by
    rw [List.mem_zipIdx_iff_le_and_getElem?_sub, Text.getElem?_lines_iff]
    constructor
    · rintro ⟨hnumber, h⟩
      have hsame : number - 1 + 1 = number := by omega
      rwa [hsame] at h
    · intro h
      -- lines are counted from 1
      have hnumber : 1 ≤ number := h.pos
      have hsame : number - 1 + 1 = number := by omega
      rw [hsame]
      exact ⟨hnumber, h⟩
  rw [← hplace, numberedLines, List.mem_map]
  constructor
  · rintro ⟨⟨other, place⟩, hmem, heq⟩
    obtain ⟨rfl, rfl⟩ := Line.mk.inj heq
    rwa [String.toList_ofList]
  · intro h
    exact ⟨_, h, by simp⟩

/-- The numbers of the lines grow. -/
theorem pairwise_numberedLines : (numberedLines text).Pairwise (·.number < ·.number) := by
  rw [numberedLines, List.pairwise_map]
  refine List.pairwise_map.mp ?_
  rw [List.zipIdx_map_snd]
  exact List.pairwise_lt_range' 1

/-- The query lines of a text, with their numbers, in order. -/
theorem queryLines_spec (text : String) : QueryLines text (queryLines text) where
  mem_iff line := by
    rw [queryLines, List.mem_filter, mem_numberedLines_iff, holdsQuery_iff]
    constructor
    · rintro ⟨hplace, hquery, hunblank⟩
      exact ⟨hplace, hquery, hunblank⟩
    · intro h
      exact ⟨h.place, h.query, h.unblank⟩
  ordered := pairwise_numberedLines.filter _

/-! ## Compiling -/

/-- Compiling a line gives the command of the text that is prepared for it. -/
theorem compileLine_eq_ok_iff {command : Command} :
    compileLine prepare line = .ok command ↔
      Command.ofLine (prepare line.text) = .ok command :=
  Except.mapError_eq_ok_iff

/-- Query lines give one command each, or the error of the first that gives none. What `prepare`
does to a line must not break it in two. -/
theorem compiled_compileLinesWith
    (hprepare : ∀ s : String, '\n' ∉ s.toList → '\n' ∉ (prepare s).toList)
    (h : QueryLines text lines) : Compiled prepare lines (compileLinesWith prepare lines) where
  succeeds := by
    simp only [compileLinesWith, Except.exists_mapM_eq_ok_iff, compileLine_eq_ok_iff, Line.Compiles]
  commands commands hcommands := by
    simpa only [compileLine_eq_ok_iff] using Except.mapM_eq_ok_iff.mp hcommands
  -- a command has no newline that its line does not have
  unbroken commands hcommands command hcommand := by
    obtain ⟨line, hline, heq⟩ := Except.exists_of_mapM_eq_ok hcommands hcommand
    have hfree : '\n' ∉ line.text.toList := ((h.mem_iff line).mp hline).place.not_mem
    exact Command.newline_not_mem_of_ofLine (compileLine_eq_ok_iff.mp heq) (hprepare _ hfree)
  first e he := by
    -- mapping stopped at this line, and all those before it had given commands
    obtain ⟨before, line, after, rfl, hbefore, hline⟩ := Except.mapM_eq_error_iff.mp he
    obtain ⟨cause, hcause, rfl⟩ := Except.mapError_eq_error_iff.mp hline
    refine ⟨line, by simp, rfl, hcause, fun other hother hnumber => ?_⟩
    -- a line with a smaller number stands before the one that fails
    have hmem : other ∈ before := by
      rcases List.mem_append.mp hother with hmem | hmem
      · exact hmem
      · have hordered := (List.pairwise_append.mp h.ordered).2.1
        rcases List.mem_cons.mp hmem with rfl | hmem
        · omega
        · have hlater := (List.pairwise_cons.mp hordered).1 other hmem
          omega
    obtain ⟨command, hcommand⟩ := hbefore other hmem
    exact ⟨command, compileLine_eq_ok_iff.mp hcommand⟩

/-- Filling a line does not break it in two. -/
theorem not_mem_expand_filler (size : Nat) {s : String} (h : '\n' ∉ s.toList) :
    '\n' ∉ (expand (filler size) s).toList := by
  rw [toList_expand, filler, String.toList_ofList]
  intro hmem
  rcases mem_or_mem_of_mem_expandChars hmem with hmem | hmem
  · exact h hmem
  · exact absurd (List.eq_of_mem_replicate hmem) (by decide)

/-! ## The command line -/

/-- What is printed of a text is a line for each of its query lines. -/
theorem printed_performCompile {world : CommandLine.World σ} {file : Option String}
    (hinput : CommandLine.inputText world file = .ok text)
    (h : Compiled prepare lines (compileText text)) :
    Printed lines (compileText text) (CommandLine.performCompile world file) := by
  have hcompile : CommandLine.inputText world file >>= CommandLine.compileText =
      CommandLine.compileText text := by
    rw [hinput]
    rfl
  cases houtcome : compileText text with
  | error e =>
    have hfailed : CommandLine.performCompile world file = .failed (.badLine e) := by
      rw [CommandLine.performCompile, hcompile, CommandLine.compileText, houtcome]
    rw [hfailed]
    refine ⟨rfl, fun commands h => (nomatch h), fun e' h => ?_⟩
    obtain rfl := Except.error.inj h
    exact ⟨rfl, rfl⟩
  | ok commands =>
    have hprinted : CommandLine.performCompile world file = .lines (commands.map (·.text)) := by
      rw [CommandLine.performCompile, hcompile, CommandLine.compileText, houtcome]
    rw [hprinted]
    refine ⟨rfl, fun commands' h' => ?_, fun e h => (nomatch h)⟩
    obtain rfl := Except.ok.inj h'
    have hcount := (h.commands commands houtcome).length_eq
    -- no command has a newline of its own, so what ends the lines is what is printed behind each
    have hfree : ∀ item ∈ commands.map (·.text.toList), '\n' ∉ item :=
      List.forall_mem_map.mpr (h.unbroken commands houtcome)
    have houtput : (CommandLine.Performance.lines (commands.map (·.text))).output.toList =
        (commands.map (·.text.toList)).flatMap (· ++ ['\n']) := by
      simp [CommandLine.Performance.lines, List.flatMap_map, String.toList_join]
    refine ⟨rfl, by rw [houtput, List.flatMap_map], ?_⟩
    rw [houtput, Text.lines_ended hfree, List.length_map, List.length_map, hcount]

end Trace

/-! ## Workloads -/

namespace Workload

open Trace (filler)

/-- Both traces of a workload have to compile, and an error of the load trace comes first. -/
structure OpensBoth (files : Files) (folder name : String) (size : Nat)
    (outcome : Fate (Except Error Workload)) : Prop where
  succeeds : (∃ workload, outcome = .returned (.ok workload)) ↔
    size ≤ Capacity.maxOctets ∧
      (∃ load, compileTrace files (loadPath folder name) (filler size) = .ok load) ∧
      ∃ run, compileTrace files (runPath folder name) (filler size) = .ok run
  traces : ∀ workload, outcome = .returned (.ok workload) → workload.name = name ∧
    compileTrace files (loadPath folder name) (filler size) = .ok workload.load ∧
    compileTrace files (runPath folder name) (filler size) = .ok workload.run
  load_first : size ≤ Capacity.maxOctets →
    ∀ e, compileTrace files (loadPath folder name) (filler size) = .error e →
      outcome = .returned (.error e)
  run_second : size ≤ Capacity.maxOctets →
    ∀ load, compileTrace files (loadPath folder name) (filler size) = .ok load →
      ∀ e, compileTrace files (runPath folder name) (filler size) = .error e →
        outcome = .returned (.error e)

variable {files : Files} {folder name : String} {size : Nat}

/-- A workload is compiled from its two traces, the load trace first. -/
theorem compile_eq (files : Files) (folder name : String) (size : Nat) :
    compile files folder name size = (do
      let load ← compileTrace files (loadPath folder name) (filler size)
      let run ← compileTrace files (runPath folder name) (filler size)
      return ⟨name, load, run⟩) := by
  have hfilled : Trace.filled size = Trace.expand (filler size) :=
    funext (Trace.filled_eq_expand size)
  rw [compile, hfilled]
  rfl

/-- If there is room for a value, a workload is assembled as far as its traces compile. -/
theorem assemble_eq (hroom : size ≤ Capacity.maxOctets) :
    assemble files folder name size = .returned (compile files folder name size) := by
  -- the room for a value is all that can be lacking before the traces are read
  rw [assemble, Capacity.reserve_eq_returned_iff, Nat.mul_one]
  exact ⟨hroom, rfl⟩

/-- A workload is opened if both of its traces compile. -/
theorem assemble_eq_ok_iff {workload : Workload} :
    assemble files folder name size = .returned (.ok workload) ↔
      size ≤ Capacity.maxOctets ∧ workload.name = name ∧
        compileTrace files (loadPath folder name) (filler size) = .ok workload.load ∧
        compileTrace files (runPath folder name) (filler size) = .ok workload.run := by
  have hfilled : Trace.expand (filler size) = Trace.filled size :=
    (funext (Trace.filled_eq_expand size)).symm
  simp only [Run.assemble_eq_ok_iff, compileTrace, hfilled, Run.compileTraceWith_eq_ok_iff]

/-- A workload is opened as its two traces compile. -/
theorem opensBoth_assemble (files : Files) (folder name : String) (size : Nat) :
    OpensBoth files folder name size (assemble files folder name size) where
  succeeds := by
    constructor
    · rintro ⟨workload, h⟩
      obtain ⟨hroom, -, hload, hrun⟩ := assemble_eq_ok_iff.mp h
      exact ⟨hroom, ⟨_, hload⟩, _, hrun⟩
    · rintro ⟨hroom, ⟨load, hload⟩, run, hrun⟩
      exact ⟨⟨name, load, run⟩, assemble_eq_ok_iff.mpr ⟨hroom, rfl, hload, hrun⟩⟩
  traces workload h := (assemble_eq_ok_iff.mp h).2
  load_first hroom e hload := by
    rw [assemble_eq hroom, compile_eq, hload]
    rfl
  run_second hroom load hload e hrun := by
    rw [assemble_eq hroom, compile_eq, hload, hrun]
    rfl

end Workload

/-! ## Everywhere -/

open Trace (filler)

/-- A text is compiled line by line, on the command line and as a trace file of a workload: with one
command for each of its query lines, or with the error of the first one that fails. A workload is
opened if both of its trace files compile, and the load trace comes first. -/
theorem Trace.compiles_line_by_line (world : CommandLine.World σ) :
    (∀ text, ∃ lines, QueryLines text lines ∧
      (∃ outcome, Compiled id lines outcome ∧
        CommandLine.compileText text = (outcome.map (·.map (·.text))).mapError .badLine ∧
        ∀ file, CommandLine.inputText world file = .ok text →
          Printed lines outcome (CommandLine.performCompile world file)) ∧
      ∀ path size, world.files.readText path = .ok text →
        ∃ outcome, Compiled (expand (filler size)) lines outcome ∧
          Workload.compileTrace world.files path (filler size) =
            outcome.mapError (.badLine path)) ∧
    (∀ path size cause, world.files.readText path = .error cause →
      Workload.compileTrace world.files path (filler size) = .error (.unreadable path cause)) ∧
    ∀ folder name size, Workload.OpensBoth world.files folder name size
      (Workload.assemble world.files folder name size) := by
  refine ⟨fun text => ?_, fun path size cause hfile => ?_, Workload.opensBoth_assemble world.files⟩
  -- the text has the same query lines on the command line and in a trace file
  · have hlines := queryLines_spec text
    have hcompiled : Compiled id (queryLines text) (compileText text) :=
      compiled_compileLinesWith (fun _ h => h) hlines
    refine ⟨queryLines text, hlines, ⟨compileText text, hcompiled, ?_, fun file hinput =>
      printed_performCompile hinput hcompiled⟩, fun path size hfile => ?_⟩
    · rw [CommandLine.compileText]
      cases compileText text with
      | ok commands => rfl
      | error e => rfl
    · have hfilled := compiled_compileLinesWith (fun _ => not_mem_expand_filler size) hlines
      have hread : Workload.readTrace world.files path = .ok (queryLines text) := by
        rw [Workload.readTrace, hfile]
      refine ⟨_, hfilled, ?_⟩
      rw [Workload.compileTrace, Workload.compileTraceWith, hread]
      rfl
  -- a file that cannot be read gives no lines
  · have hread : Workload.readTrace world.files path = .error (.unreadable path cause) := by
      rw [Workload.readTrace, hfile]
    rw [Workload.compileTrace, Workload.compileTraceWith, hread]
    rfl

/-- A comment, a blank line and a query stand before the line at fault, and the run trace cannot be
read. -/
theorem Trace.compiles_line_by_line_bad_verb :
    let text := "# VAL\r\n\r\nquery(get(VAL))\nquery(pet(VAL))"
    let world : CommandLine.World Unit := {
      files := {
        read := fun path =>
          if path = "t/w_load" then .ok (Text.encode text.toList) else .error .notFound
        list := fun _ => .ok []
        write := fun _ _ => .ok () }
      standardInput := Text.encode text.toList
      site := fun _ => {
        endpoint := "mock://controller"
        peer := {
          connect := fun s => (.opened, s)
          send := fun _ s => (.ok (), s)
          receive := fun s => (.ok none, s)
          close := fun s => (.ok (), s)
          clock := fun s => (.zero, s) }
        opening := fun _ => () }
      occasion := ⟨"r1", ⟨0, 0⟩, .zero, .zero⟩ }
    let e : LineError := ⟨4, .unsupportedVerb "pet"⟩
    CommandLine.inputText world none = .ok text ∧
      CommandLine.performCompile world none = .failed (.badLine e) ∧
      Workload.assemble world.files "t" "w" 2 = .returned (.error (.badLine "t/w_load" e)) := by
  intro text world e
  obtain ⟨hlines, -, hopens⟩ := compiles_line_by_line world
  obtain ⟨lines, -, ⟨outcome, -, houtcome, hprinted⟩, -⟩ := hlines text
  have hinput : CommandLine.inputText world none = .ok text := by decide +kernel
  have hcompiled : CommandLine.compileText text = .error (.badLine e) := by decide +kernel
  have hload : Workload.compileTrace world.files (Workload.loadPath "t" "w") (filler 2) =
      .error (.badLine "t/w_load" e) := by
    decide +kernel
  have hfailed : outcome = .error e := by
    rw [hcompiled] at houtcome
    obtain ⟨found, hfound, heq⟩ := Except.mapError_eq_error_iff.mp houtcome.symm
    obtain rfl : found = e := CommandLine.Error.badLine.inj heq
    cases outcome with
    | ok commands => exact nomatch hfound
    | error found => simpa [Except.map] using hfound
  have hpage := hprinted none hinput
  obtain ⟨hending, houtput⟩ := hpage.error e hfailed
  refine ⟨hinput, ?_, (hopens "t" "w" 2).load_first (by decide) _ hload⟩
  rw [CommandLine.Performance.failed, ← hending, ← houtput, ← hpage.unwritten]

end PolicyReplay
