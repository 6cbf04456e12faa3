import PolicyReplay.Query.Parser
import PolicyReplay.Text.Utf8

/-!
# Commands

The canonical text that the controller evaluates: the verb, the key, for `put` the value, and the
terms of the filter, each after one space.
-/

namespace PolicyReplay

/-- A text for the controller. -/
structure Command where
  text : String
  deriving DecidableEq, Repr

namespace Command

/-- The octets that go over the connection. -/
def bytes (command : Command) : Bytes := Text.encode command.text.toList

/-- Write a command. A key has to be there, and so has the value of a `put`; the value of any
other verb is not looked at. -/
def compile (verb : Verb) (key : String) (value : Option String) (filter : Filter) :
    Except Query.Error Command :=
  if key.isEmpty then .error (.missingKey verb)
  else if verb.needsValue then
    match value with
    | none => .error (.missingValue key)
    | some value =>
      if value.isEmpty then .error (.missingValue key)
      else .ok ⟨verb.commandName ++ " " ++ key ++ " " ++ value ++ filter.text⟩
  else .ok ⟨verb.commandName ++ " " ++ key ++ filter.text⟩

/-- The command of a query line. -/
def ofLine (line : String) : Except Query.Error Command := do
  let query ← Query.parse line
  compile query.verb (query.key.getD "") query.value query.filter

end Command
end PolicyReplay
