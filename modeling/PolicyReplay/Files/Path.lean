import PolicyReplay.SystemError
import PolicyReplay.Text.Split

/-!
# Paths

A path is a text cut at its slashes. Empty names and the name `.` lead nowhere and are dropped, but
the name `.` at the end is kept, since it asks for a folder in another way than a slash at the end.
-/

namespace PolicyReplay.Files

/-- The names of a path. -/
structure Path where
  /-- Whether it starts at the root. -/
  absolute : Bool
  names : List String
  /-- Whether it ends in a slash. -/
  closed : Bool
  deriving DecidableEq, Repr

namespace Path

/-- Drop the names `.`, but for the last name. -/
def dropDots : List String → List String
  | [] => []
  | [last] => [last]
  | name :: rest => if name = "." then dropDots rest else name :: dropDots rest

/-- Cut a text at its slashes. -/
def ofText (text : String) : Path where
  absolute := text.toList.head? = some '/'
  names := dropDots <|
    ((Text.pieces (· == '/') text.toList).map String.ofList).filter fun name => !name.isEmpty
  closed := text.toList.getLast? = some '/'

/-- The longest name, in octets. -/
def maxName : Nat := 255

/-- The number of octets that makes a path too long. -/
def maxLength : Nat := 4096

/-- Refuse a text that is no path. -/
def check (text : String) : Except SystemError Unit :=
  if '\x00' ∈ text.toList then .error .nulInPath
  else if text.isEmpty then .error .notFound
  else if maxLength ≤ text.utf8ByteSize then .error .nameTooLong
  else .ok ()

end Path
end PolicyReplay.Files
