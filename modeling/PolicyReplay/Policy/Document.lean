import PolicyReplay.Files.Basic
import PolicyReplay.Json.Parser

/-!
# Policy documents

A policy document is a JSON file.
-/

namespace PolicyReplay.Policy

/-- Why a policy document cannot be had. -/
inductive Error where
  | unreadable (path : String) (cause : SystemError)
  /-- The text is not JSON; `detail` says what is wrong with it. -/
  | invalid (path detail : String)
  deriving DecidableEq, Repr

namespace Error

/-- The stable code of an error. -/
def code : Error → String
  | unreadable _ _ => "POLICY_CONFIG_UNREADABLE"
  | invalid _ _ => "POLICY_CONFIG_INVALID"

/-- The error in words. -/
def message : Error → String
  | unreadable path cause => "failed to read policy config " ++ path ++ ": " ++ cause.text
  | invalid path detail => "invalid policy config JSON in " ++ path ++ ": " ++ detail

end Error

/-- Read a policy document. -/
def read (files : Files) (path : String) : Except Error Json :=
  match files.readText path with
  | .error cause => .error (.unreadable path cause)
  | .ok text =>
    match Json.parse? text.toList with
    | some document => .ok document
    | none => .error (.invalid path Json.notADocument)

end PolicyReplay.Policy
