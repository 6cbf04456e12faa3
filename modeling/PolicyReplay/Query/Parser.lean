import PolicyReplay.Query.Basic
import PolicyReplay.Text.Enclosed

/-!
# Reading query lines

A query line is a conjunction of predicates joined by `&`:

    query(put("k1","v1"))&objPur("ads,analytics")&!sessionKeyIs("user2")

Each segment between the `&`s is taken apart on its own (`Segment.parse`), and a left fold over
the segments collects one call and the filter (`Draft`). The first segment at fault decides the
error; the causes that concern the whole line are looked at only when no segment is at fault.
-/

namespace PolicyReplay

/-- The verb that a text names, blanks around it and ASCII case aside. -/
def Verb.parse (text : List Char) : Except Query.Error Verb :=
  let name := Text.trim text
  match ofName? (String.ofList (name.map Char.toLower)) with
  | some verb => .ok verb
  | none => .error (.unsupportedVerb (String.ofList name))

/-- The predicate name that a text spells exactly. -/
def PredicateName.parse (text : List Char) : Except Query.Error PredicateName :=
  match ofText? (String.ofList text) with
  | some name => .ok name
  | none => .error (.unsupportedPredicate (String.ofList text))

namespace Query

/-- A predicate before its name decides what the value means. -/
structure Segment where
  name : PredicateName
  negated : Bool
  value : List Char
  deriving DecidableEq, Repr

namespace Segment

/-- The sign of a predicate and its name, from the text before the parentheses. -/
def splitSign (text : List Char) : Bool × List Char :=
  match Text.trim text with
  | '!' :: name => (true, Text.trim name)
  | name => (false, name)

/-- Take one segment apart: `[!]name(value)`, where the value may stand in quotes. -/
def parse (text : List Char) : Except Error Segment := do
  let text := Text.trim text
  if text.isEmpty then
    throw (.malformed .emptySegment)
  let some ⟨before, inside, after⟩ := Text.parenthesized? text
    | throw (.malformed (.unbalancedSegment (String.ofList text)))
  unless Text.isBlankText after do
    throw (.malformed (.textAfterSegment (String.ofList text)))
  let (negated, name) := splitSign before
  if name.isEmpty then
    throw (.malformed (.namelessSegment (String.ofList text)))
  let name ← PredicateName.parse name
  return ⟨name, negated, Text.unquote inside⟩

end Segment

/-- What stands inside `query(...)`: a verb with its arguments. -/
structure Call where
  verb : Verb
  key : Option String
  value : Option String
  deriving DecidableEq, Repr

namespace Call

/-- An argument without its blanks and quotes; an empty one counts as absent. -/
def argument? (text : List Char) : Option String :=
  match Text.unquote (Text.trim text) with
  | [] => none
  | text => some (String.ofList text)

/-- The key stands before the first comma, and all that follows it is the value. -/
def arguments (text : List Char) : Option String × Option String :=
  match Text.splitFirst ',' text with
  | none => (argument? text, none)
  | some (key, value) => (argument? key, argument? value)

/-- Cut a call into the text of its verb and, if it has parentheses, that of its arguments. -/
def split (text : List Char) : Except Error (List Char × Option (List Char)) :=
  if '(' ∈ text then
    match Text.parenthesized? text with
    | some call => .ok (call.before, some call.inside)
    | none => .error (.malformed (.unbalancedCall (String.ofList text)))
  else .ok (text, none)

/-- Read `verb(key,value)`, `verb(key)` or a bare `verb`. -/
def parse (text : List Char) : Except Error Call := do
  let (verb, arguments?) ← split text
  if Text.isBlankText verb then
    throw (.malformed (.noVerb (String.ofList text)))
  let verb ← Verb.parse verb
  let (key, value) := (arguments?.map arguments).getD (none, none)
  return ⟨verb, key, value⟩

end Call

/-- What the segments read so far amount to. -/
structure Draft where
  call : Option Call := none
  filter : Filter := []
  deriving DecidableEq, Repr

namespace Draft

/-- Take in one segment of `line`. -/
def add (line : List Char) (draft : Draft) (text : List Char) : Except Error Draft := do
  let segment ← Segment.parse text
  if segment.name = .query then
    if segment.negated then
      throw (.malformed .negatedCall)
    if draft.call.isSome then
      throw (.malformed (.secondCall (String.ofList line)))
    let call ← Call.parse segment.value
    return { draft with call := some call }
  else
    let term : Term := ⟨segment.name, segment.negated, String.ofList segment.value⟩
    return { draft with filter := draft.filter ++ [term] }

/-- The query of a whole line: it has a call, and the call has the value that its verb needs. -/
def finish (line : List Char) (draft : Draft) : Except Error Query :=
  match draft.call with
  | none => .error (.malformed (.noCall (String.ofList line)))
  | some ⟨verb, key, value⟩ =>
    if verb.needsValue && value.isNone then .error (.missingValue (key.getD ""))
    else .ok ⟨verb, key, value, draft.filter⟩

end Draft

/-- Read a query line. -/
def parse (line : String) : Except Error Query := do
  let line := Text.trim line.toList
  if line.isEmpty then
    throw (.malformed .emptyLine)
  let draft ← (Text.pieces (· == '&') line).foldlM (Draft.add line) {}
  draft.finish line

end Query
end PolicyReplay
