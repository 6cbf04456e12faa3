import PolicyReplay.Json.Number
import PolicyReplay.Json.Quoted

/-!
# The grammar of JSON

`Raw` is a document as it is written: numbers are literals and strings are pieces, so any depth,
any number and any escape of the grammar has a place in it. What a document means, and which
well-formed documents mean nothing, is decided on this tree.
-/

namespace PolicyReplay.Json

/-- A document as it is written. -/
inductive Raw where
  | null
  | bool (b : Bool)
  | number (literal : Literal)
  | string (pieces : List Piece)
  | array (items : List Raw)
  | object (members : List (List Piece × Raw))
  deriving Inhabited

namespace Raw

/-- The text without the blanks at its start; JSON has four of them. -/
def skipBlanks (s : List Char) : List Char :=
  s.dropWhile fun c => c = ' ' || c = '\t' || c = '\n' || c = '\r'

/-- The digits at the start of a text, and the rest. -/
def readDigits (s : List Char) : List Nat × List Char :=
  ((s.takeWhile Char.isDigit).map (fun c => c.toNat - '0'.toNat), s.dropWhile Char.isDigit)

/-- A fraction at the start of a text, if there is a point. -/
def readFraction : List Char → Option (List Nat × List Char)
  | '.' :: s =>
    match readDigits s with
    | ([], _) => none
    | (digits, rest) => some (digits, rest)
  | s => some ([], s)

/-- The sign of an exponent and the text after it. -/
def readSign : List Char → Bool × List Char
  | '+' :: s => (false, s)
  | '-' :: s => (true, s)
  | s => (false, s)

/-- An exponent at the start of a text, if there is the letter. -/
def readExponent : List Char → Option (Option (Bool × List Nat) × List Char)
  | [] => some (none, [])
  | c :: s =>
    if c = 'e' || c = 'E' then
      let (negative, s) := readSign s
      match readDigits s with
      | ([], _) => none
      | (digits, rest) => some (some (negative, digits), rest)
    else some (none, c :: s)

/-- A number at the start of a text: no zero stands before another digit. -/
def readLiteral (s : List Char) : Option (Literal × List Char) := do
  let (negative, s) := if s.head? = some '-' then (true, s.drop 1) else (false, s)
  let (whole, s) := readDigits s
  if whole.isEmpty || (whole.head? = some 0 && whole.length > 1) then none
  let (fraction, s) ← readFraction s
  let (exponent, s) ← readExponent s
  return (⟨negative, whole, fraction, exponent⟩, s)

/-- The text after `word`, if the text starts with it. -/
def afterWord? : List Char → List Char → Option (List Char)
  | [], s => some s
  | _ :: _, [] => none
  | w :: word, c :: s => if w = c then afterWord? word s else none

mutual

/-- The value at the start of a text. -/
def readValue : Nat → List Char → Option (Raw × List Char)
  | 0, _ => none
  | fuel + 1, s =>
    match skipBlanks s with
    | '"' :: s => (readQuoted s).map fun (pieces, rest) => (.string pieces, rest)
    | '[' :: s =>
      match skipBlanks s with
      | ']' :: rest => some (.array [], rest)
      | s => (readItems fuel s).map fun (items, rest) => (.array items, rest)
    | '{' :: s =>
      match skipBlanks s with
      | '}' :: rest => some (.object [], rest)
      | s => (readMembers fuel s).map fun (members, rest) => (.object members, rest)
    | 'n' :: s => (afterWord? ['u', 'l', 'l'] s).map (.null, ·)
    | 't' :: s => (afterWord? ['r', 'u', 'e'] s).map (.bool true, ·)
    | 'f' :: s => (afterWord? ['a', 'l', 's', 'e'] s).map (.bool false, ·)
    | s => (readLiteral s).map fun (literal, rest) => (.number literal, rest)

/-- The items of an array from one of them on, to the closing bracket. -/
def readItems : Nat → List Char → Option (List Raw × List Char)
  | 0, _ => none
  | fuel + 1, s =>
    match readValue fuel s with
    | none => none
    | some (item, s) =>
      match skipBlanks s with
      | ']' :: rest => some ([item], rest)
      | ',' :: s => (readItems fuel s).map fun (items, rest) => (item :: items, rest)
      | _ => none

/-- The members of an object from one of them on, to the closing brace. -/
def readMembers : Nat → List Char → Option (List (List Piece × Raw) × List Char)
  | 0, _ => none
  | fuel + 1, s =>
    match skipBlanks s with
    | '"' :: s =>
      match readQuoted s with
      | none => none
      | some (name, s) =>
        match skipBlanks s with
        | ':' :: s =>
          match readValue fuel s with
          | none => none
          | some (value, s) =>
            match skipBlanks s with
            | '}' :: rest => some ([(name, value)], rest)
            | ',' :: s =>
              (readMembers fuel s).map fun (members, rest) => ((name, value) :: members, rest)
            | _ => none
        | _ => none
    | _ => none

end

/-- The document that a text is, with nothing but blanks after it. Two steps a character are
enough, since every value that a container holds takes at least one character. -/
def parse? (s : List Char) : Option Raw :=
  match readValue (2 * s.length + 1) s with
  | some (value, rest) => if (skipBlanks rest).isEmpty then some value else none
  | none => none

end Raw
end PolicyReplay.Json
