import PolicyReplay.CommandLine.Arguments
import PolicyReplay.CommandLine.Error
import PolicyReplay.Run.Report
import PolicyReplay.Settings.File

/-!
# Performing a request

What the program does for each request, as a value: what it prints, the file it writes, and how it
ends. A run prints its summary and writes its report before it fails for want of data.
-/

namespace PolicyReplay.CommandLine

/-- What a request is performed with. -/
structure World (σ : Type) where
  files : Files
  standardInput : Bytes
  /-- Where the connections to an endpoint are made. -/
  site : Endpoint → Run.Site σ
  occasion : Run.Occasion

/-- How a request ends. -/
inductive Ending where
  | succeeded
  | failed (cause : Error)
  | crashed (message : String)
  deriving DecidableEq, Repr

/-- What comes of a request. -/
structure Performance where
  /-- What is printed. -/
  output : String := ""
  /-- The path and the text of a file that is written. -/
  written : Option (String × String) := none
  ending : Ending
  deriving DecidableEq, Repr

namespace Performance

/-- A request that fails with nothing printed. -/
def failed (cause : Error) : Performance := { ending := .failed cause }

/-- A request that prints lines. -/
def lines (lines : List String) : Performance where
  output := String.join (lines.map (· ++ "\n"))
  ending := .succeeded

end Performance

/-- The commands of a text, each as a line. -/
def compileText (text : String) : Except Error (List String) :=
  match Trace.compileText text with
  | .ok commands => .ok (commands.map (·.text))
  | .error line => .error (.badLine line)

/-- The text of a file, or of the standard input. -/
def inputText (world : World σ) : Option String → Except Error String
  | some path => (world.files.readText path).mapError (.unreadable path)
  | none => (Files.asText world.standardInput).mapError .system

/-- Compile query lines. -/
def performCompile (world : World σ) (file : Option String) : Performance :=
  match inputText world file >>= compileText with
  | .ok lines => .lines lines
  | .error e => .failed e

/-- Compile a policy document. -/
def performPolicy (world : World σ) (document : String) : Logging Performance := do
  match Policy.read world.files document with
  | .error e => return .failed (.policy e)
  | .ok value =>
    match ← Setup.compileLogged value with
    | .ok command => return .lines [command.text]
    | .error skip => return .failed (.policySkipped skip)

/-- List workloads. -/
def performWorkloads (world : World σ) (folder : Option String) : Performance :=
  let defaults : Settings := {}
  match Workload.catalogue world.files (folder.getD defaults.traceFolder) with
  | .ok names => .lines names
  | .error e => .failed (.workload e)

/-- The end of a run: the report is written before it is seen whether there is any data. -/
def conclude (files : Files) (settings : Settings) (result : Run.Result) : Performance :=
  let output := result.aggregate.summary
  let verdict : Ending :=
    if result.aggregate.hasData then .succeeded else .failed (.run .noData)
  match settings.report with
  | none => { output, ending := verdict }
  | some path =>
    match Run.reportText settings.config result with
    | .error _ => { output, ending := .crashed Duration.Overflow.message }
    | .ok text =>
      match Run.writeReport files path text with
      | .error e => { output, written := some (path, text), ending := .failed (.run e) }
      | .ok () => { output, written := some (path, text), ending := verdict }

/-- Execute a run with settled settings. -/
def performSettled (world : World σ) (settings : Settings) : Logging Performance := do
  let site := world.site settings.endpoint
  let execution ← Run.execute world.files settings.config site world.occasion
  match execution.fate with
  | .crashed message => return { ending := .crashed message }
  | .returned (.error e) => return .failed (.run e)
  | .returned (.ok result) => return conclude world.files settings result

/-- Execute a run. Unless the arguments name a log level, that of the settings holds from here
on. -/
def performRun (world : World σ) (flags : Flags) (levelGiven : Bool) : Logging Performance := do
  match ← Settings.resolve world.files flags with
  | .error fault => return .failed (.settings fault)
  | .ok (settings, level) =>
    if levelGiven then performSettled world settings
    else Logging.withLeast level (performSettled world settings)

/-- Perform a request. -/
def performRequest (world : World σ) (levelGiven : Bool) : Request → Logging Performance
  | .compile file => return performCompile world file
  | .policy document => performPolicy world document
  | .workloads folder => return performWorkloads world folder
  | .run flags => performRun world flags levelGiven

/-- Do what the arguments say. -/
def perform (world : World σ) (arguments : Arguments) : Logging Performance :=
  match arguments.logLevel with
  | none => performRequest world false arguments.request
  | some text =>
    match Severity.parse text with
    | .error level => return .failed (.unknownLevel level)
    | .ok level => Logging.withLeast level (performRequest world true arguments.request)

end PolicyReplay.CommandLine
