import PolicyReplay.Decimal.Layout
import PolicyReplay.Json.Quoted
import PolicyReplay.Json.Basic

/-!
# Writing JSON

Two layouts of one text: `compact` without any blank, and `pretty` with each item and member on a
line of its own, two spaces deeper than its container. Empty containers take no line. Doubles are
written as their shortest decimal, and one that is no number as `null`.
-/

namespace PolicyReplay.Json

/-- Doubles have an exponent only below 10⁻⁵ and from 10¹⁶ on. -/
def realLayout : Decimal.Layout := ⟨-5, 16⟩

/-- How a number is written. -/
def Number.chars : Number → List Char
  | .whole n => (toString n).toList
  | .real x => (realLayout.writeFloat? x).getD "null".toList

mutual

/-- The text of a value without blanks. -/
def compactChars : Json → List Char
  | .null => "null".toList
  | .bool true => "true".toList
  | .bool false => "false".toList
  | .number n => n.chars
  | .string s => quote s.toList
  | .array items => '[' :: compactItems items ++ [']']
  | .object members => '{' :: compactMembers members ++ ['}']

/-- Items with commas between them. -/
def compactItems : List Json → List Char
  | [] => []
  | [item] => compactChars item
  | item :: rest => compactChars item ++ ',' :: compactItems rest

/-- Members with commas between them. -/
def compactMembers : List (String × Json) → List Char
  | [] => []
  | [(name, value)] => quote name.toList ++ ':' :: compactChars value
  | (name, value) :: rest =>
    quote name.toList ++ ':' :: compactChars value ++ ',' :: compactMembers rest

end

/-- The start of a line at some depth. -/
def newline (depth : Nat) : List Char := '\n' :: List.replicate (2 * depth) ' '

mutual

/-- The text of a value that stands at some depth, over several lines. -/
def prettyChars (depth : Nat) : Json → List Char
  | .array [] => "[]".toList
  | .object [] => "\x7b\x7d".toList
  | .array items => '[' :: prettyItems (depth + 1) items ++ newline depth ++ [']']
  | .object members => '{' :: prettyMembers (depth + 1) members ++ newline depth ++ ['}']
  | .null => "null".toList
  | .bool true => "true".toList
  | .bool false => "false".toList
  | .number n => n.chars
  | .string s => quote s.toList

/-- Items, each on a line of its own. -/
def prettyItems (depth : Nat) : List Json → List Char
  | [] => []
  | [item] => newline depth ++ prettyChars depth item
  | item :: rest => newline depth ++ prettyChars depth item ++ ',' :: prettyItems depth rest

/-- Members, each on a line of its own. -/
def prettyMembers (depth : Nat) : List (String × Json) → List Char
  | [] => []
  | [(name, value)] =>
    newline depth ++ quote name.toList ++ ": ".toList ++ prettyChars depth value
  | (name, value) :: rest =>
    newline depth ++ quote name.toList ++ ": ".toList ++ prettyChars depth value ++
      ',' :: prettyMembers depth rest

end

/-- The text of a value without blanks. -/
def compact (value : Json) : String := String.ofList (compactChars value)

/-- The text of a value over several lines. -/
def pretty (value : Json) : String := String.ofList (prettyChars 0 value)

end PolicyReplay.Json
