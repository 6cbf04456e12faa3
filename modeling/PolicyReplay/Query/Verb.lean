/-!
# Verbs

What a query asks of the controller. The set is closed. A verb has one name in query lines, read
without regard to ASCII case, and one name in commands; the two differ only for `getLogs`.
-/

namespace PolicyReplay

/-- What a query asks of the controller: an operation on a stored object or on the metadata
attached to it, or the log of accesses to it. -/
inductive Verb where
  | put | get | delete
  | putMeta | getMeta | deleteMeta
  | getLogs
  deriving DecidableEq, Repr

namespace Verb

/-- Every verb, in the order in which names are looked up. -/
def all : List Verb := [put, get, delete, putMeta, getMeta, deleteMeta, getLogs]

/-- The name of a verb in query lines and messages. -/
def name : Verb → String
  | put => "put"
  | get => "get"
  | delete => "delete"
  | putMeta => "putm"
  | getMeta => "getm"
  | deleteMeta => "deletem"
  | getLogs => "getlogs"

/-- The name of a verb in commands. -/
def commandName : Verb → String
  | getLogs => "getLogs"
  | v => v.name

/-- Only `put` carries a value. -/
def needsValue : Verb → Bool
  | put => true
  | _ => false

/-- The verb of a name that is already in lower case. -/
def ofName? (name : String) : Option Verb := all.find? (·.name == name)

theorem ofName?_name (v : Verb) : ofName? v.name = some v := by cases v <;> decide

end Verb
end PolicyReplay
