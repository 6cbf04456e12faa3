import PolicyReplay.CommandLine.Perform
import PolicyReplay.Proofs.Text.Lines
import PolicyReplay.Proofs.Trace.Placeholder

/-!
# Filling a trace as a whole

A workload cuts a trace into lines, passes over comments and blank lines, and fills the lines that
are left. The same can be had by filling the whole text first: a placeholder reaches across no end
of a line, no filler makes a comment of a query or the other way round, and no line becomes blank.

## Key results

- `IsWord.lines_expandChars`: the lines of a filled text
- `IsWord.queryLines_expand`: its query lines, with the same numbers
- `compileTrace_agrees`: a workload and the command line compile the same commands
-/

namespace PolicyReplay.Trace

variable {word : List Char}

/-! ## Lines -/

/-- A carriage return at the end is dropped before filling as well as after. -/
theorem IsWord.dropReturn_expandChars (hword : IsWord word) (line : List Char) :
    Text.dropReturn (expandChars word line) = expandChars word (Text.dropReturn line) := by
  rcases Text.dropReturn_cases line with hline | ⟨hlast, hsame⟩
  · -- a placeholder does not reach across the carriage return
    have hfilled : expandChars word line = expandChars word (Text.dropReturn line) ++ ['\r'] := by
      conv_lhs => rw [hline]
      exact expandChars_append_cons (by decide) _ []
    rw [hfilled, Text.dropReturn_concat]
  · have hfree : '\r' ∉ word := Text.not_mem_of_isAlpha hword.isAlpha (by decide)
    have hfilled : (expandChars word line).getLast? ≠ some '\r' := fun h =>
      (hword.mem_getLast?_expandChars h).elim hlast hfree
    rw [hsame, Text.dropReturn_of_getLast_ne hfilled]

/-- The lines of a filled text are those of the text, each of them filled. -/
theorem IsWord.lines_expandChars (hword : IsWord word) (s : List Char) :
    Text.lines (expandChars word s) = (Text.lines s).map (expandChars word) := by
  rw [Text.lines, hword.pieces_expandChars (by decide), Text.lines]
  -- the end of the text is a line if there is anything in it, filled or not
  have hempty : ∀ piece : List Char, (expandChars word piece).isEmpty = piece.isEmpty := by
    intro piece
    rw [Bool.eq_iff_iff, List.isEmpty_iff, List.isEmpty_iff]
    exact hword.expandChars_eq_nil_iff
  generalize Text.pieces (· == '\n') s = pieces
  fun_induction Text.closeLines pieces with
  | case1 => rfl
  | case2 last hlast => simp [Text.closeLines, hempty, hlast]
  | case3 last hlast => simp [Text.closeLines, hempty, hlast]
  | case4 line rest hrest ih =>
    -- a newline ends this line, and a carriage return goes with it
    obtain ⟨next, others, rfl⟩ := List.exists_cons_of_ne_nil hrest
    rw [List.map_cons] at ih ⊢
    rw [List.map_cons, Text.closeLines, ih, hword.dropReturn_expandChars, List.map_cons]
    exact List.cons_ne_nil _ _

/-! ## Query lines -/

/-- A filled line is blank exactly if the line is. -/
theorem IsWord.isBlankText_expandChars (hword : IsWord word) (line : List Char) :
    Text.isBlankText (expandChars word line) = Text.isBlankText line := by
  rw [Bool.eq_iff_iff, ← Text.trim_eq_nil_iff, ← Text.trim_eq_nil_iff, hword.trim_expandChars]
  exact hword.expandChars_eq_nil_iff

/-- A filled line begins with the mark of a comment exactly if the line does. -/
theorem IsWord.head?_expandChars_eq_iff (hword : IsWord word) (line : List Char) :
    (expandChars word line).head? = some '#' ↔ line.head? = some '#' := by
  -- the filler brings in no mark
  have hfree : '#' ∉ word := Text.not_mem_of_isAlpha hword.isAlpha (by decide)
  constructor
  · intro h
    exact (hword.mem_head?_expandChars h).resolve_right hfree
  · intro h
    obtain ⟨rest, rfl⟩ := List.head?_eq_some_iff.mp h
    rw [expandChars_cons (by decide), List.head?_cons]

/-- A filled line is a query line exactly if the line is. -/
theorem IsWord.holdsQuery_expandChars (hword : IsWord word) (line : List Char) :
    holdsQuery (expandChars word line) = holdsQuery line := by
  have hmark : ((expandChars word line).head? ≠ some '#') = (line.head? ≠ some '#') :=
    propext (not_congr (hword.head?_expandChars_eq_iff line))
  simp only [holdsQuery, hword.isBlankText_expandChars, hmark]

/-- A query line with its text filled. -/
def Line.expand (word : String) (line : Line) : Line := ⟨line.number, Trace.expand word line.text⟩

/-- The query lines of a filled text are those of the text, each of them filled, with the same
numbers. -/
theorem IsWord.queryLines_expand {word : String} (hword : IsWord word.toList) (text : String) :
    queryLines (expand word text) = (queryLines text).map (Line.expand word) := by
  -- lines are numbered before the query lines are chosen, so the numbers are the same
  have hnumbered : numberedLines (expand word text) =
      (numberedLines text).map (Line.expand word) := by
    have hlines : Text.lines (expand word text).toList =
        (Text.lines text.toList).map (expandChars word.toList) := by
      rw [expand, String.toList_ofList, hword.lines_expandChars]
    rw [numberedLines, hlines, List.zipIdx_map, numberedLines, List.map_map, List.map_map]
    refine List.map_congr_left fun pair _ => ?_
    simp [Line.expand, expand]
  have hkept : ∀ line : Line, holdsQuery (line.expand word).text.toList =
      holdsQuery line.text.toList := by
    intro line
    rw [Line.expand, expand, String.toList_ofList, hword.holdsQuery_expandChars]
  have hfilter : (fun line : Line => holdsQuery line.text.toList) ∘ Line.expand word =
      fun line => holdsQuery line.text.toList := funext hkept
  rw [queryLines, hnumbered, List.filter_map, hfilter, queryLines]

/-! ## Compiling -/

/-- Filling each query line and filling the whole text come to the same commands, or to the same
error in the same line. -/
theorem IsWord.compileText_expand {word : String} (hword : IsWord word.toList) (text : String) :
    compileText (expand word text) = compileLinesWith (expand word) (queryLines text) := by
  -- filling does not change the number of a line, so errors are told of the same line
  have hline : compileLine id ∘ Line.expand word = compileLine (expand word) := by
    funext line
    simp only [Function.comp_apply, compileLine, Line.expand, id_eq]
  rw [compileText, hword.queryLines_expand, compileLinesWith, List.mapM_map, hline, compileLinesWith]

end Trace

open Trace (expand filler)

/-- A workload and the command line compile the same commands: a trace file with the placeholder
filled line by line comes to the commands of the text that was filled as a whole, or both fail with
the same error in the same line. -/
theorem Workload.compileTrace_agrees (files : Files) (path text : String) (size : Nat)
    (hsize : 1 ≤ size) (hfile : files.readText path = .ok text) :
    (∃ commands, compileTrace files path (filler size) = .ok commands ∧
        CommandLine.compileText (expand (filler size) text) = .ok (commands.map (·.text))) ∨
      ∃ line, compileTrace files path (filler size) = .error (.badLine path line) ∧
        CommandLine.compileText (expand (filler size) text) = .error (.badLine line) := by
  have hcompiled := (Trace.isWord_filler hsize).compileText_expand text
  -- the lines that are read from the file are the query lines of the text
  have hread : readTrace files path = .ok (Trace.queryLines text) := by rw [readTrace, hfile]
  have htrace : compileTrace files path (filler size) =
      (Trace.compileText (expand (filler size) text)).mapError (.badLine path) := by
    rw [compileTrace, compileTraceWith, hread, hcompiled]
    rfl
  rw [htrace, CommandLine.compileText]
  cases Trace.compileText (expand (filler size) text) with
  | ok commands => exact .inl ⟨commands, rfl, rfl⟩
  | error line => exact .inr ⟨line, rfl, rfl⟩

/-- A trace with a comment, ends of both kinds and a blank line. The line at fault does not begin
with the mark of its comment, and the one behind it is at fault too. -/
theorem Workload.compileTrace_agrees_bad_line :
    let text := "#VAL\nquery(get(VAL))\r\n\r\n  #VAL\nquery(putVAL"
    let files : Files := {
      read := fun _ => .ok (Text.encode text.toList)
      list := fun _ => .ok []
      write := fun _ _ => .ok () }
    let line : Trace.LineError := ⟨4, .malformed (.unbalancedSegment "#xxx")⟩
    1 ≤ 3 ∧ files.readText "t" = .ok text ∧
      compileTrace files "t" (filler 3) = .error (.badLine "t" line) ∧
      CommandLine.compileText (expand (filler 3) text) = .error (.badLine line) := by
  intro text files line
  have hfile : files.readText "t" = .ok text := by decide +kernel
  have hcompiled : CommandLine.compileText (expand (filler 3) text) = .error (.badLine line) := by
    decide +kernel
  refine ⟨by decide, hfile, ?_, hcompiled⟩
  rcases compileTrace_agrees files "t" text 3 (by decide) hfile with
    ⟨commands, -, hok⟩ | ⟨found, htrace, herror⟩
  · rw [hok] at hcompiled
    exact nomatch hcompiled
  · -- both name the same line
    rw [herror] at hcompiled
    rw [htrace, CommandLine.Error.badLine.inj (Except.error.inj hcompiled)]

end PolicyReplay
