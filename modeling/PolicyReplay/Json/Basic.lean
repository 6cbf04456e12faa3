/-!
# JSON values

Values as documents hold them: an object is the list of its members in the order of the document,
and a number is either a whole number or a double. Names within an object are distinct in every
value that `Json.parse?` returns, since a repeated name replaces the earlier value.
-/

namespace PolicyReplay

/-- A number of a JSON document. -/
inductive Json.Number where
  | whole (n : Int)
  | real (x : Float)
  deriving Inhabited

/-- A JSON value. -/
inductive Json where
  | null
  | bool (b : Bool)
  | number (n : Json.Number)
  | string (s : String)
  | array (items : List Json)
  | object (members : List (String × Json))
  deriving Inhabited

namespace Json

/-- A whole number. -/
def ofNat (n : Nat) : Json := number (.whole n)

/-- A double. -/
def ofFloat (x : Float) : Json := number (.real x)

/-- Add a member to those of an object: a name that is already there keeps its place and takes the
new value. -/
def setMember (name : String) (value : α) : List (String × α) → List (String × α)
  | [] => [(name, value)]
  | (n, v) :: rest =>
    if n = name then (n, value) :: rest else (n, v) :: setMember name value rest

/-- The value of a member. -/
def member? (name : String) (members : List (String × α)) : Option α := members.lookup name

end Json
end PolicyReplay
