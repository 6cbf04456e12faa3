import PolicyReplay.Text.Split

/-!
# Lines of a trace

A trace is a text with one query a line. Lines that start with `#` and lines of blanks only are
passed over, and each query keeps the number of its line, counted from 1 with every line.
-/

namespace PolicyReplay.Trace

/-- A query line and where it stands. -/
structure Line where
  number : Nat
  text : String
  deriving DecidableEq, Repr

/-- A line that holds a query: no comment and not blank. -/
def holdsQuery (line : List Char) : Bool := line.head? ≠ some '#' && !Text.isBlankText line

/-- Every line of a text with its number. -/
def numberedLines (text : String) : List Line :=
  (Text.lines text.toList).zipIdx 1 |>.map fun (line, number) => ⟨number, String.ofList line⟩

/-- The query lines of a text. -/
def queryLines (text : String) : List Line :=
  (numberedLines text).filter (holdsQuery ·.text.toList)

end PolicyReplay.Trace
