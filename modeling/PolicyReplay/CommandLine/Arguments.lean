import PolicyReplay.Settings.Basic

/-!
# Arguments of the command line

The grammar of the command line: an option for the log level and a command with options of its own.
Arguments are read from left to right. An option that takes a value is settled when the next option
comes or the arguments end, so an unknown option is reported before a bad value that stands in
front of it. Of two log levels, the one after the command holds.
-/

namespace PolicyReplay.CommandLine

/-- What the user asks for. -/
inductive Request where
  /-- Compile the query lines of a file, or of the standard input. -/
  | compile (file : Option String)
  /-- Compile a policy document. -/
  | policy (document : String)
  /-- List the workloads of a folder. -/
  | workloads (folder : Option String)
  /-- Execute a run. -/
  | run (flags : Flags)
  deriving DecidableEq, Repr

/-- What the arguments say. -/
structure Arguments where
  logLevel : Option String
  request : Request
  deriving DecidableEq, Repr

/-- Why the arguments say nothing that can be done. -/
inductive Usage where
  | helpAsked
  | versionAsked
  | nothingAsked
  | noCommand
  | unknownCommand
  | unknownArgument
  | valueMissing
  | valueInvalid
  | valueUnexpected
  | optionRepeated
  | optionMissing
  deriving DecidableEq, Repr

/-- The exit code of a usage: asking for help or the version is no error. -/
def Usage.exitCode : Usage → UInt32
  | helpAsked | versionAsked => 0
  | _ => 2

/-- What the value of an option is. -/
inductive ValueKind where
  | text
  /-- A text that is not empty. -/
  | path
  /-- A number of 16 bits. -/
  | port
  /-- A number of 64 bits. -/
  | count
  deriving DecidableEq, Repr

/-- An option that takes a value. -/
structure OptionSpec where
  name : String
  kind : ValueKind
  deriving DecidableEq, Repr

/-- What is understood at one place of the command line. -/
structure Level where
  options : List OptionSpec
  /-- The commands that may follow. -/
  commands : List String := []
  hasVersion : Bool := false
  /-- What is wrong with an argument that is neither option nor command. -/
  stray : Usage := .unknownArgument

/-- The option that is understood everywhere. -/
def levelOption : OptionSpec := ⟨"log-level", .text⟩

/-- What is understood before a command. -/
def topLevel : Level where
  options := [levelOption]
  commands := ["compile", "policy", "workloads", "run", "help"]
  hasVersion := true
  stray := .unknownCommand

/-- What is understood after a command. -/
def commandLevel : String → Level
  | "compile" => { options := [levelOption, ⟨"file", .path⟩] }
  | "policy" => { options := [levelOption, ⟨"config", .path⟩] }
  | "workloads" => { options := [levelOption, ⟨"trace-dir", .path⟩] }
  | _ => {
    options := [levelOption, ⟨"workload", .text⟩, ⟨"trace-dir", .path⟩, ⟨"address", .text⟩,
      ⟨"port", .port⟩, ⟨"clients", .count⟩, ⟨"value-size", .count⟩, ⟨"policy", .path⟩,
      ⟨"spawn", .text⟩, ⟨"settings", .path⟩, ⟨"report", .path⟩] }

/-- A number without a sign. -/
def digits? (s : List Char) : Option Nat :=
  if s.isEmpty then none
  else s.foldlM (fun n c => if c.isDigit then some (n * 10 + (c.toNat - '0'.toNat)) else none) 0

/-- A number that may have a plus sign. -/
def unsigned? (s : String) : Option Nat :=
  match s.toList with
  | '+' :: s => digits? s
  | s => digits? s

/-- A number that may have either sign. -/
def signed? (s : String) : Option Int :=
  match s.toList with
  | '-' :: s => (digits? s).map fun n => -n
  | '+' :: s => (digits? s).map fun n => n
  | s => (digits? s).map fun n => n

/-- The port that a text names. -/
def port? (s : String) : Option Nat :=
  match signed? s with
  | some n => if 0 ≤ n && n < 0x10000 then some n.toNat else none
  | none => none

/-- The count that a text names. -/
def count? (s : String) : Option Nat :=
  match unsigned? s with
  | some n => if n < 0x10000000000000000 then some n else none
  | none => none

/-- Refuse a value that is not of its kind. -/
def ValueKind.check (kind : ValueKind) (value : String) : Except Usage Unit :=
  match kind with
  | text => .ok ()
  | path => if value.isEmpty then .error .valueMissing else .ok ()
  | port => if (port? value).isSome then .ok () else .error .valueInvalid
  | count => if (count? value).isSome then .ok () else .error .valueInvalid

/-- What has been read at one place of the command line. -/
structure Reading where
  /-- The options that are settled, with their values. -/
  given : List (String × String) := []
  /-- The option that is not settled yet, with its value if that has come. -/
  pending : Option (OptionSpec × Option String) := none
  deriving DecidableEq, Repr

namespace Reading

/-- Whether the next argument is a value. -/
def awaitsValue (r : Reading) : Bool := r.pending matches some (_, none)

/-- Settle an option. -/
def accept (r : Reading) (spec : OptionSpec) (value : String) : Except Usage Reading :=
  if (r.given.lookup spec.name).isSome then .error .optionRepeated
  else do
    spec.kind.check value
    return ⟨r.given ++ [(spec.name, value)], none⟩

/-- Settle the option that is not settled yet. -/
def settle (r : Reading) : Except Usage Reading :=
  match r.pending with
  | none => .ok r
  | some (_, none) => .error .valueMissing
  | some (spec, some value) => r.accept spec value

/-- The answer to an argument that asks for something else than a command. -/
def ask (r : Reading) (usage : Usage) : Except Usage Reading := do
  let _ ← r.settle
  throw usage

/-- Take in an option by its name, with the value that is attached to it. -/
def long (level : Level) (r : Reading) (name : String) (value : Option String) :
    Except Usage Reading :=
  let isFlag := name = "help" || (name = "version" && level.hasVersion)
  if isFlag then
    if value.isSome then .error .valueUnexpected
    else r.ask (if name = "help" then .helpAsked else .versionAsked)
  else
    match level.options.find? (·.name == name), value with
    | none, _ => .error .unknownArgument
    | some spec, some value => do
      let r ← r.settle
      r.accept spec value
    | some spec, none => do
      let r ← r.settle
      return { r with pending := some (spec, none) }

/-- Take in options of one letter; the first of them decides. -/
def short (level : Level) (r : Reading) (letters : List Char) : Except Usage Reading :=
  match letters with
  | 'h' :: _ => r.ask .helpAsked
  | 'V' :: _ => if level.hasVersion then r.ask .versionAsked else .error .unknownArgument
  | _ => .error .unknownArgument

/-- Take in an argument that is no option. -/
def plain (level : Level) (r : Reading) (word : String) : Except Usage Reading :=
  match r.pending with
  | some (spec, none) => .ok { r with pending := some (spec, some word) }
  | _ => .error level.stray

/-- Take in one argument. -/
def step (level : Level) (r : Reading) (argument : String) : Except Usage Reading :=
  match argument.toList with
  | '-' :: '-' :: name =>
    match Text.splitFirst '=' name with
    | none => r.long level (String.ofList name) none
    | some (name, value) => r.long level (String.ofList name) (some (String.ofList value))
  | '-' :: c :: letters => r.short level (c :: letters)
  | _ => r.plain level argument

/-- Take in arguments up to a command. After two dashes no argument is an option. -/
def upToCommand (level : Level) (r : Reading) :
    List String → Except Usage (Reading × Option (String × List String))
  | [] => .ok (r, none)
  | argument :: rest =>
    if argument = "--" then
      match rest with
      | [] => .ok (r, none)
      | word :: _ => .error (if level.commands.contains word then .unknownArgument else level.stray)
    else if !r.awaitsValue && level.commands.contains argument then .ok (r, some (argument, rest))
    else do
      let r ← r.step level argument
      upToCommand level r rest

/-- The value of a settled option. -/
def value? (r : Reading) (name : String) : Option String := r.given.lookup name

end Reading

/-- The request of a command with its options. -/
def requestOf (command : String) (r : Reading) : Except Usage Request :=
  match command with
  | "compile" => .ok (.compile (r.value? "file"))
  | "policy" =>
    match r.value? "config" with
    | some document => .ok (.policy document)
    | none => .error .optionMissing
  | "workloads" => .ok (.workloads (r.value? "trace-dir"))
  | _ => .ok (.run {
      workload := r.value? "workload"
      traceFolder := r.value? "trace-dir"
      address := r.value? "address"
      port := (r.value? "port").bind port?
      clients := (r.value? "clients").bind count?
      valueSize := (r.value? "value-size").bind count?
      policy := r.value? "policy"
      spawn := r.value? "spawn"
      settings := r.value? "settings"
      report := r.value? "report" })

/-- Help on a command, or on the whole. -/
def help : List String → Usage
  | [] => .helpAsked
  | [topic] => if topLevel.commands.contains topic then .helpAsked else .unknownCommand
  | _ => .unknownCommand

/-- Read the arguments. The options after a command are settled before those in front of it. -/
def parse (arguments : List String) : Except Usage Arguments := do
  let (top, command?) ← Reading.upToCommand topLevel {} arguments
  match command? with
  | none =>
    let top ← top.settle
    throw (if top.given.isEmpty then .nothingAsked else .noCommand)
  | some ("help", topics) => throw (help topics)
  | some (command, rest) =>
    let (inner, _) ← Reading.upToCommand (commandLevel command) {} rest
    let inner ← inner.settle
    let request ← requestOf command inner
    let top ← top.settle
    return ⟨inner.value? levelOption.name <|> top.value? levelOption.name, request⟩

end PolicyReplay.CommandLine
