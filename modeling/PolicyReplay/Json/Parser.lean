import PolicyReplay.Json.Raw

/-!
# Reading JSON values

The value of a document: containers are nested no deeper than `maxDepth`, numbers are in range,
strings hold no lone surrogate, and a repeated name within an object replaces the earlier value.
-/

namespace PolicyReplay.Json

/-- How deep containers may be nested. -/
def maxDepth : Nat := 127

mutual

/-- The value of a document that nests containers no deeper than `depth`. -/
def ofRaw? (depth : Nat) : Raw → Option Json
  | .null => some .null
  | .bool b => some (.bool b)
  | .number literal => literal.number?.map .number
  | .string pieces => (resolve pieces).map fun s => .string (String.ofList s)
  | .array items =>
    match depth with
    | 0 => none
    | depth + 1 => (itemsOfRaw? depth items).map .array
  | .object members =>
    match depth with
    | 0 => none
    | depth + 1 => (membersOfRaw? depth members).map fun members =>
        .object (members.foldl (fun object (name, value) => setMember name value object) [])

/-- The values of items. -/
def itemsOfRaw? (depth : Nat) : List Raw → Option (List Json)
  | [] => some []
  | item :: rest =>
    match ofRaw? depth item, itemsOfRaw? depth rest with
    | some value, some values => some (value :: values)
    | _, _ => none

/-- The members of an object with the values of their names, repeated ones included. -/
def membersOfRaw? (depth : Nat) : List (List Piece × Raw) → Option (List (String × Json))
  | [] => some []
  | (name, value) :: rest =>
    match resolve name, ofRaw? depth value, membersOfRaw? depth rest with
    | some name, some value, some members => some ((String.ofList name, value) :: members)
    | _, _, _ => none

end

/-- What a message says about a text that is no document. -/
def notADocument : String := "not a valid document"

/-- The value of a text. -/
def parse? (s : List Char) : Option Json := (Raw.parse? s).bind (ofRaw? maxDepth)

end PolicyReplay.Json
