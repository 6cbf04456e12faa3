import PolicyReplay.Command
import PolicyReplay.Json.Printer
import PolicyReplay.Log.Logging

/-!
# The setup command

A policy document is compiled to the command that opens a connection. The document is an object
with a session key and a default policy, itself an object. Every other member becomes an argument
in the order of the document, and the members of the default policy take its place.
-/

namespace PolicyReplay.Setup

/-- The member that holds the default policy. -/
def defaultPolicyKey : String := "default_policy"

/-- The members that every policy document has. -/
def mandatoryKeys : List String := ["sessionKey", defaultPolicyKey]

/-- The mandatory members that a document lacks; a document that is no object lacks them all. -/
def missingKeys : Json → List String
  | .object members => mandatoryKeys.filter fun key => (Json.member? key members).isNone
  | _ => mandatoryKeys

mutual

/-- The text of a value in a command: a string as it is, nothing for null, items of an array with
commas between them, and all else as JSON. -/
def valueText : Json → List Char
  | .string s => s.toList
  | .null => []
  | .array items => itemsText items
  | value => value.compactChars

/-- The texts of items with commas between them. -/
def itemsText : List Json → List Char
  | [] => []
  | [item] => valueText item
  | item :: rest => valueText item ++ ',' :: itemsText rest

end

/-- One argument of the command. -/
def argument (name : String) (value : Json) : List Char :=
  [' ', '-'] ++ name.toList ++ ' ' :: valueText value

/-- Members as arguments, in order. -/
def arguments (members : List (String × Json)) : List Char :=
  members.flatMap fun (name, value) => argument name value

/-- Why a document yields no command. -/
inductive Skip where
  | missingKeys (keys : List String)
  | defaultPolicyNotObject
  deriving DecidableEq, Repr

/-- The arguments of a whole document, where the members of the default policy take its place. -/
def documentArguments : List (String × Json) → Except Skip (List Char)
  | [] => .ok []
  | (name, value) :: rest =>
    if name = defaultPolicyKey then
      match value with
      | .object fields => (documentArguments rest).map (arguments fields ++ ·)
      | _ => .error .defaultPolicyNotObject
    else (documentArguments rest).map (argument name value ++ ·)

/-- The setup command of a document. -/
def compile (document : Json) : Except Skip Command :=
  match document, missingKeys document with
  | .object members, [] =>
    (documentArguments members).map fun text => ⟨"user_policy" ++ String.ofList text⟩
  | _, keys => .error (.missingKeys keys)

/-- The fields of the log entry that tells why there is no command. -/
def Skip.fields : Skip → Log.Fields
  | missingKeys keys => [("missing_keys", String.intercalate "," keys)]
  | defaultPolicyNotObject => [("reason", "default_policy is not an object")]

/-- The setup command of a document, with the event that tells what came of it. -/
def compileLogged (document : Json) : Logging (Except Skip Command) := do
  let result := compile document
  match result with
  | .ok command => Logging.event .policyCompiled [("command", command.text)]
  | .error skip => Logging.event .policySkipped skip.fields
  return result

end PolicyReplay.Setup
