import PolicyReplay.Text.Split

/-!
# Parentheses and quotes around a text

A text opens at its first `(` and closes at its last `)`, so what is inside may hold parentheses
of its own. Quotes are removed one level at a time, and only when they stand at both ends.
-/

namespace PolicyReplay.Text

/-- A text taken apart at its outer parentheses. -/
structure Parenthesized where
  before : List Char
  inside : List Char
  after : List Char

/-- The outer parentheses of a text: its first `(` and the last `)` after it. -/
def parenthesized? (s : List Char) : Option Parenthesized :=
  match splitFirst '(' s with
  | none => none
  | some (before, rest) =>
    match splitLast ')' rest with
    | none => none
    | some (inside, after) => some ⟨before, inside, after⟩

/-- Remove one level of double quotes, if the text has one at each end. -/
def unquote : List Char → List Char
  | '"' :: s => if s.getLast? = some '"' then s.dropLast else '"' :: s
  | s => s

end PolicyReplay.Text
