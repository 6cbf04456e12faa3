import PolicyReplay.Json.Quoted
import PolicyReplay.Log.Severity

/-!
# Log lines

An entry is written as one JSON object on one line: the event, the severity, and then the fields
sorted by name, those of one name in the order in which they were given. All values are strings.
-/

namespace PolicyReplay.Log

/-- Named values of an entry. -/
abbrev Fields := List (String × String)

/-- One logged event. -/
structure Entry where
  severity : Severity
  event : String
  fields : Fields
  deriving DecidableEq, Repr

/-- A control character, of the first or the second block or the one between them. -/
def isControl (c : Char) : Bool := c.toNat < 0x20 || (0x7F ≤ c.toNat && c.toNat < 0xA0)

/-- How a character stands in a log line: no control character is left in it. -/
def escape (c : Char) : List Char :=
  if c = '"' then ['\\', '"']
  else if c = '\\' then ['\\', '\\']
  else if c = '\n' then ['\\', 'n']
  else if c = '\r' then ['\\', 'r']
  else if c = '\t' then ['\\', 't']
  else if isControl c then Json.unitEscape c
  else [c]

/-- A text as a string of a log line. -/
def quote (s : String) : List Char := '"' :: s.toList.flatMap escape ++ ['"']

/-- A member of a log line. -/
def member (name value : String) : List Char := quote name ++ ':' :: quote value

/-- Fields in the order of a log line. -/
def sortFields (fields : Fields) : Fields := fields.mergeSort fun a b => decide (a.1 ≤ b.1)

namespace Entry

/-- The members of the line of an entry. -/
def members (e : Entry) : Fields :=
  ("event", e.event) :: ("severity", e.severity.name) :: sortFields e.fields

/-- The line of an entry without its end. -/
def line (e : Entry) : String :=
  String.ofList ('{' :: List.intercalate [','] (e.members.map fun m => member m.1 m.2) ++ ['}'])

/-- The line of an entry as it is written. -/
def render (e : Entry) : String := e.line ++ "\n"

end Entry
end PolicyReplay.Log
