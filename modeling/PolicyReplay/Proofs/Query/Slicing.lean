import PolicyReplay.Proofs.Query.Line
import PolicyReplay.Proofs.Text.Slice

/-!
# Lines are read by slices

A query line can be read without taking texts apart character by character: marks are searched for
among the octets of a text, and its parts are the slices between the offsets at which the marks are
found. This reading asks for slices in the order in which the line is checked, it finds each of them
there, and it ends as `parse` does, whatever characters the line holds.

## Key results

- `Segment.reads_parse`, `Call.reads_parse`: segments and calls are read by slices
- `parse_by_slices`: a line is read by slices, all of which are there
-/

namespace PolicyReplay.Query

open Text (Slice Slicing slice Reads)

/-- A reading by slices that may give an error. -/
abbrev Sliced := ExceptT Error Slicing

/-! ## Segments -/

/-- Take one segment apart by its slices. -/
def Segment.parseSliced (text : List Char) : Sliced Segment := do
  let text := Text.trim text
  if text.isEmpty then
    throw (.malformed .emptySegment)
  let some (opening, closing) := Text.enclosing? text
    | throw (.malformed (.unbalancedSegment (String.ofList text)))
  let after ← slice text (closing + 1) (Text.size text)
  unless Text.isBlankText after do
    throw (.malformed (.textAfterSegment (String.ofList text)))
  let before ← slice text 0 opening
  let (negated, name) := splitSign before
  if name.isEmpty then
    throw (.malformed (.namelessSegment (String.ofList text)))
  let name ← PredicateName.parse name
  let inside ← slice text (opening + 1) closing
  let value ← Text.unquoteSliced inside
  return ⟨name, negated, value⟩

/-- A segment is read by slices as it is read. -/
theorem Segment.reads_parse (text : List Char) :
    Reads (parseSliced text) (parse text) := by
  rw [parse_eq, parseSliced]
  -- the offsets of the outer parentheses are where the text is cut in three
  simp only [List.isEmpty_iff, Text.enclosing?_eq]
  split
  · exact (Reads.throw _).bind_error
  · cases hp : Text.parenthesized? (Text.trim text) with
    | none => exact .throw _
    | some p =>
      obtain ⟨hbefore, hinside, hafter⟩ := Text.read?_parenthesized hp
      obtain ⟨before, inside, after⟩ := p
      -- the slices are asked for in the order of the checks, the last one when all are passed
      refine (Reads.slice hafter).bind_ok ?_
      dsimp only
      split
      · refine (Reads.slice hbefore).bind_ok ?_
        dsimp only
        split
        · exact (Reads.throw _).bind_error
        · cases hname : PredicateName.parse (splitSign before).2 with
          | error e => exact (Reads.throw e).bind_error
          | ok name =>
            exact (Reads.pure name).bind_ok <|
              (Reads.slice hinside).bind_ok <|
              (Reads.unquote inside).bind_ok (.pure _)
      · exact (Reads.throw _).bind_error

/-! ## Calls -/

/-- An argument, where the quotes are removed by offsets. -/
def Call.argumentSliced? (text : List Char) : Sliced (Option String) := do
  match ← Text.unquoteSliced (Text.trim text) with
  | [] => return none
  | text => return some (String.ofList text)

/-- The arguments, one after the other. -/
def Call.argumentsSliced (text : List Char) : Sliced (Option String × Option String) := do
  match Text.splitFirst ',' text with
  | none => return (← argumentSliced? text, none)
  | some (key, value) => return (← argumentSliced? key, ← argumentSliced? value)

/-- Cut a call by its slices. -/
def Call.splitSliced (text : List Char) : Sliced (List Char × Option (List Char)) := do
  match Text.firstOffset? '(' text with
  | none => return (text, none)
  | some _ =>
    let some (opening, closing) := Text.enclosing? text
      | throw (.malformed (.unbalancedCall (String.ofList text)))
    return (← slice text 0 opening, some (← slice text (opening + 1) closing))

/-- Read a call by its slices. -/
def Call.parseSliced (text : List Char) : Sliced Call := do
  let (verb, arguments?) ← splitSliced text
  if Text.isBlankText verb then
    throw (.malformed (.noVerb (String.ofList text)))
  let verb ← Verb.parse verb
  let (key, value) ← match arguments? with
    | none => pure (none, none)
    | some arguments => argumentsSliced arguments
  return ⟨verb, key, value⟩

/-- An argument is read by slices as it is read. -/
theorem Call.reads_argument? (text : List Char) :
    Reads (argumentSliced? text) (.ok (argument? text)) := by
  refine (Reads.unquote (Text.trim text)).bind_ok ?_
  unfold argument?
  cases Text.unquote (Text.trim text) <;> exact .pure _

/-- The arguments of a call are read by slices as they are read. -/
theorem Call.reads_arguments (text : List Char) :
    Reads (argumentsSliced text) (.ok (arguments text)) := by
  unfold argumentsSliced arguments
  cases Text.splitFirst ',' text with
  | none => exact (reads_argument? text).bind_ok (.pure _)
  | some parts =>
    exact (reads_argument? parts.1).bind_ok ((reads_argument? parts.2).bind_ok (.pure _))

/-- A call is cut by slices as it is cut. -/
theorem Call.reads_split (text : List Char) : Reads (splitSliced text) (split text) := by
  rw [splitSliced, split, Text.firstOffset?_eq (by decide), Text.enclosing?_eq]
  cases hopen : Text.splitFirst '(' text with
  | none =>
    rw [if_neg (Text.splitFirst_eq_none_iff.mp hopen)]
    exact .pure _
  | some parts =>
    -- a parenthesis that was found is in the text
    have hmem : '(' ∈ text := by
      by_contra hmem
      rw [Text.splitFirst_eq_none_iff.mpr hmem] at hopen
      exact nomatch hopen
    rw [if_pos hmem]
    cases hp : Text.parenthesized? text with
    | none => exact .throw _
    | some p =>
      -- the text behind the parentheses is asked for by no slice
      obtain ⟨hbefore, hinside, -⟩ := Text.read?_parenthesized hp
      exact (Reads.slice hbefore).bind_ok ((Reads.slice hinside).bind_ok (.pure _))

/-- A call is read by slices as it is read. -/
theorem Call.reads_parse (text : List Char) : Reads (parseSliced text) (parse text) := by
  rw [parse_eq, parseSliced]
  have hsplit := reads_split text
  -- the call is cut first, and both readings go on with the parts
  cases hparts : split text with
  | error e =>
    rw [hparts] at hsplit
    exact hsplit.bind_error
  | ok parts =>
    rw [hparts] at hsplit
    refine hsplit.bind_ok ?_
    dsimp only
    split
    · exact (Reads.throw _).bind_error
    · cases Verb.parse parts.1 with
      | error e => exact (Reads.throw e).bind_error
      | ok verb =>
        refine (Reads.pure verb).bind_ok ?_
        cases parts.2 with
        | none => exact (Reads.pure _).bind_ok (.pure _)
        | some arguments => exact (reads_arguments arguments).bind_ok (.pure _)

/-! ## Lines -/

/-- Take in one segment of `line`, read by slices. -/
def Draft.addSliced (line : List Char) (draft : Draft) (text : List Char) : Sliced Draft := do
  let segment ← Segment.parseSliced text
  if segment.name = .query then
    if segment.negated then
      throw (.malformed .negatedCall)
    if draft.call.isSome then
      throw (.malformed (.secondCall (String.ofList line)))
    let call ← Call.parseSliced segment.value
    return { draft with call := some call }
  else
    let term : Term := ⟨segment.name, segment.negated, String.ofList segment.value⟩
    return { draft with filter := draft.filter ++ [term] }

/-- Read a query line by slices. -/
def parseSliced (line : String) : Sliced Query := do
  let line := Text.trim line.toList
  if line.isEmpty then
    throw (.malformed .emptyLine)
  let draft ← (Text.pieces (· == '&') line).foldlM (Draft.addSliced line) {}
  draft.finish line

/-- A segment is taken in by slices as it is taken in. -/
theorem Draft.reads_add (line : List Char) (draft : Draft) (text : List Char) :
    Reads (addSliced line draft text) (add line draft text) := by
  refine (Segment.reads_parse text).bind fun segment => ?_
  dsimp only
  -- the same faults are looked for in the same order, so both readings stop at the same one
  split
  · split
    · exact (Reads.throw _).bind_error
    · split
      · exact (Reads.throw _).bind_error
      · exact (Call.reads_parse segment.value).bind fun call => .pure _
  · exact .pure _

/-- A line is read by slices as it is read. -/
theorem reads_parse (line : String) : Reads (parseSliced line) (parse line) := by
  unfold parseSliced parse
  simp only
  split
  · exact (Reads.throw _).bind_error
  -- the segments are taken in one after the other, and each is read by slices as it is read
  · exact (Reads.foldlM (Draft.reads_add _) _ _).bind fun draft => .ofExcept _

/-- However a line is written, reading it by slices ends as reading it does, and each slice that is
asked for is there and a part of its text. So are the slices around the outer parentheses of any
text, and the one within its quotes. -/
theorem parse_by_slices (line : String) :
    (parseSliced line).run.fate = .returned (parse line) ∧
      (∀ slice ∈ (parseSliced line).run.asked, slice.IsDefined ∧
        ∃ before part after, slice =
          ⟨before ++ part ++ after, Text.size before, Text.size before + Text.size part⟩) ∧
      (∀ text opening closing, Text.enclosing? text = some (opening, closing) →
        Slice.IsDefined ⟨text, 0, opening⟩ ∧ Slice.IsDefined ⟨text, opening + 1, closing⟩ ∧
          Slice.IsDefined ⟨text, closing + 1, Text.size text⟩) ∧
      ∀ value, Text.isQuoted value = true →
        Slice.IsDefined ⟨value, 1, Text.size value - 1⟩ := by
  -- all slices that are asked for are there, as the reading by slices follows `parse`
  obtain ⟨hreturned, hdefined⟩ := reads_parse line
  refine ⟨hreturned, fun slice hslice => ?_, fun text opening closing h => ?_, fun value h => ?_⟩
  · exact ⟨hdefined slice hslice, (hdefined slice hslice).exists_parts⟩
  -- the slices around the parentheses are there whether they are asked for or not
  · rw [Text.enclosing?_eq] at h
    obtain ⟨p, hp, hoffsets⟩ := Option.map_eq_some_iff.mp h
    obtain ⟨rfl, rfl⟩ := Prod.mk.inj hoffsets
    obtain ⟨hbefore, hinside, hafter⟩ := Text.read?_parenthesized hp
    exact ⟨Slice.isDefined_of_read? hbefore, Slice.isDefined_of_read? hinside,
      Slice.isDefined_of_read? hafter⟩
  · obtain ⟨t, rfl⟩ := Text.isQuoted_iff.mp h
    exact Slice.isDefined_of_read? (Text.read?_quoted t)

/-- Characters of two, three and four octets, within quotes and next to parentheses. -/
example : (parseSliced "query(get(\"é\"))&!objPur((€)😀)").run.asked.map
    (fun slice => (slice.start, slice.stop)) =
    [(16, 16), (0, 5), (6, 15), (0, 3), (4, 8), (1, 3), (18, 18), (0, 7), (8, 17)] := by
  decide +kernel

end PolicyReplay.Query
