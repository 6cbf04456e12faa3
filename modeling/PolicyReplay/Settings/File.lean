import PolicyReplay.Json.Parser
import PolicyReplay.Log.Logging
import PolicyReplay.Settings.Basic

/-!
# Settings files

A settings file is a JSON object with a member for each setting that is not left at its default.
Other members are passed over, whatever well-formed value they have, and no setting may come twice.
An array of the settings in their order will do as well; those left out at its end keep their
defaults.
-/

namespace PolicyReplay.Settings

open Json (Raw Piece)

/-- The names of the settings in a file, in their order. -/
def names : List String :=
  ["workload", "trace_dir", "address", "port", "clients", "value_size", "policy", "spawn",
    "report", "log_level"]

/-- A text. -/
def text? : Raw → Option String
  | .string pieces => (Json.resolve pieces).map String.ofList
  | _ => none

/-- A text that may be null. -/
def optionalText? : Raw → Option (Option String)
  | .null => some none
  | raw => (text? raw).map some

/-- A whole number below a bound, written without sign, fraction and exponent. -/
def number? (bound : Nat) : Raw → Option Nat
  | .number ⟨false, whole, [], none⟩ =>
    let n := Json.digitsValue whole
    if n < bound then some n else none
  | _ => none

/-- The value of a setting: its default if it is left out. -/
def value? (decode : Raw → Option α) (default : α) : Option Raw → Option α
  | none => some default
  | some raw => decode raw

/-- Settings from what a file says about each of them. -/
def ofFields? (field : String → Option Raw) : Option Settings := do
  let defaults : Settings := {}
  return {
    workload := ← value? optionalText? defaults.workload (field "workload")
    traceFolder := ← value? text? defaults.traceFolder (field "trace_dir")
    address := ← value? text? defaults.address (field "address")
    port := ← value? (number? 0x10000) defaults.port (field "port")
    clients := ← value? (number? 0x10000000000000000) defaults.clients (field "clients")
    valueSize := ← value? (number? 0x10000000000000000) defaults.valueSize (field "value_size")
    policy := ← value? optionalText? defaults.policy (field "policy")
    spawn := ← value? optionalText? defaults.spawn (field "spawn")
    report := ← value? optionalText? defaults.report (field "report")
    logLevel := ← value? text? defaults.logLevel (field "log_level") }

/-- The members of an object with the texts of their names. -/
def namedMembers? (members : List (List Piece × Raw)) : Option (List (String × Raw)) :=
  members.mapM fun (name, value) => (Json.resolve name).map fun s => (String.ofList s, value)

/-- Whether no name comes twice. -/
def distinct : List String → Bool
  | [] => true
  | name :: rest => !rest.contains name && distinct rest

/-- The settings of a document. -/
def ofRaw? : Raw → Option Settings
  | .object members => do
    let members ← namedMembers? members
    let known := members.filter fun (name, _) => names.contains name
    if distinct (known.map Prod.fst) then ofFields? fun name => known.lookup name else none
  | .array items =>
    if items.length ≤ names.length then ofFields? fun name => (names.zip items).lookup name
    else none
  | _ => none

/-- Read a settings file. -/
def load (files : Files) (path : String) : Logging (Except Fault Settings) := do
  match files.readText path with
  | .error cause => return .error (.unreadable cause)
  | .ok text =>
    match (Raw.parse? text.toList).bind ofRaw? with
    | none => return .error (.invalid Json.notADocument)
    | some settings =>
      Logging.event .configLoaded [("path", path)]
      return .ok settings

/-- The settings before any flag: those of the file, if one is named. -/
def base (files : Files) (flags : Flags) : Logging (Except Fault Settings) :=
  match flags.settings with
  | none => return .ok {}
  | some path => load files path

/-- The merged settings, if a run can be made with them, and their log level. -/
def resolve (files : Files) (flags : Flags) : Logging (Except Fault (Settings × Severity)) := do
  match ← base files flags with
  | .error fault => return .error fault
  | .ok settings =>
    let merged := settings.apply flags
    return merged.validate.map (merged, ·)

end PolicyReplay.Settings
