import PolicyReplay.CommandLine.Perform
import Std.Time.DateTime.Timestamp

/-!
# The program

Fetches the files that a request asks for, performs the request as a value, and lets the world see
what came of it: the log on the error stream, what is printed on the output stream, and the report
in its file. There is no network, and no program is started: whoever connects to a controller is
refused.
-/

namespace PolicyReplay.Terminal

/-- The error of the system that has a number, which some actions give negated. -/
def fault (code : UInt32) (details : String) : SystemError :=
  let number := if code < 0x80000000 then code else 0 - code
  match number.toNat with
  | 2 => .notFound
  | 13 => .permissionDenied
  | 20 => .notAFolder
  | 21 => .isAFolder
  | 36 => .nameTooLong
  | 40 => .tooManyLinks
  | number => ⟨.other, details ++ " (os error " ++ toString number ++ ")"⟩

/-- What an input or output action has failed with. -/
def systemError : IO.Error → SystemError
  | .noFileOrDirectory _ code details | .permissionDenied _ code details
  | .alreadyExists _ code details | .invalidArgument _ code details
  | .resourceExhausted _ code details | .inappropriateType _ code details
  | .noSuchThing _ code details | .interrupted _ code details
  | .otherError code details | .resourceBusy code details | .resourceVanished code details
  | .unsupportedOperation code details | .hardwareFault code details
  | .unsatisfiedConstraints code details | .illegalOperation code details
  | .protocolError code details | .timeExpired code details => fault code details
  | .unexpectedEof => ⟨.unexpectedEof, "unexpected end of file"⟩
  | .userError text => ⟨.other, text⟩

/-- The result of an action, or what it has failed with. -/
def attempt (action : IO α) : BaseIO (Except SystemError α) := do
  match ← action.toBaseIO with
  | .ok a => return .ok a
  | .error e => return .error (systemError e)

/-- What has been fetched, by path. -/
structure Fetched where
  contents : List (String × Except SystemError Bytes) := []
  listings : List (String × Except SystemError (List Files.Entry)) := []

/-- Answers from what has been fetched. Writing is left to the end and is taken to succeed. -/
def Fetched.files (fetched : Fetched) : Files where
  read := fun path => (fetched.contents.lookup path).getD (.error .notFound)
  list := fun folder => (fetched.listings.lookup folder).getD (.error .notFound)
  write := fun _ _ => .ok ()

/-- The files that a request names. -/
def namedFiles : CommandLine.Request → List String
  | .compile file => file.toList
  | .policy document => [document]
  | .workloads _ => []
  | .run flags => flags.settings.toList

/-- The files that a run asks for when its settings are known. -/
def settledFiles (files : Files) : CommandLine.Request → List String
  | .run flags =>
    match ((Settings.resolve files flags).run Log.defaultLevel).2 with
    | .error _ => []
    | .ok (settings, _) =>
      let config := settings.config
      Workload.loadPath config.traceFolder config.workload ::
        Workload.runPath config.traceFolder config.workload :: config.policy.toList
  | _ => []

/-- The folders that a request asks for. -/
def folders : CommandLine.Request → List String
  | .workloads folder => [folder.getD ({} : Settings).traceFolder]
  | _ => []

/-- The octets of a file. -/
def fetchFile (path : String) : BaseIO (String × Except SystemError Bytes) := do
  if path.isEmpty then return (path, .error .notFound)
  let content ← attempt (IO.FS.readBinFile path)
  return (path, content.map fun octets => octets.toList)

/-- The entries of a folder. -/
def fetchFolder (folder : String) : BaseIO (String × Except SystemError (List Files.Entry)) := do
  let entries ← attempt do
    let found ← (System.mkFilePath [folder]).readDir
    found.toList.mapM fun entry => do
      let data ← entry.path.symlinkMetadata
      return ⟨Text.encode entry.fileName.toList, data.type matches .file⟩
  return (folder, entries)

/-- Fetch what a request asks for. -/
def fetch (request : CommandLine.Request) : BaseIO Fetched := do
  let named ← (namedFiles request).mapM fetchFile
  let files := { contents := named : Fetched }.files
  let settled ← (settledFiles files request).mapM fetchFile
  let listings ← (folders request).mapM fetchFolder
  return ⟨named ++ settled, listings⟩

/-- All that is left of a stream. -/
partial def drain (stream : IO.FS.Stream) (seen : ByteArray) : IO ByteArray := do
  let octets ← stream.read 65536
  if octets.isEmpty then return seen else drain stream (seen ++ octets)

/-- The standard input, for the request that reads it. -/
def fetchInput : CommandLine.Request → IO Bytes
  | .compile none => do return (← drain (← IO.getStdin) .empty).toList
  | _ => return []

/-- A random number of so many hexadecimal digits. -/
def randomDigits (count : Nat) : BaseIO (List Char) :=
  (List.replicate count ()).mapM fun () => return Nat.digitChar (← IO.rand 0 15)

/-- A random run id: version 4 of the universally unique identifiers. -/
def randomRunId : BaseIO String := do
  let variant := Nat.digitChar (← IO.rand 8 11)
  let groups := [← randomDigits 8, ← randomDigits 4, '4' :: (← randomDigits 3),
    variant :: (← randomDigits 3), ← randomDigits 12]
  return String.ofList (List.intercalate ['-'] groups)

/-- The circumstances of a run, which takes no time. -/
def occasion : IO Run.Occasion := do
  let now := (← Std.Time.Timestamp.now).val
  return {
    runId := ← randomRunId
    startedAt := ⟨now.second.val, now.nano.val.toNat⟩
    loadElapsed := .zero
    runElapsed := .zero }

/-- How an endpoint refuses a connection. -/
def refusal : Endpoint → Wire.Error
  | .tcp address => .connect address .connectionRefused
  | .process program _ => .spawn program .notFound

/-- An endpoint at which there is no one. -/
def nobody (endpoint : Endpoint) : Peer Unit where
  connect := fun s => (.refused (refusal endpoint), s)
  send := fun _ s => (.error .closed, s)
  receive := fun s => (.ok none, s)
  close := fun s => (.ok (), s)
  clock := fun s => (.zero, s)

/-- The world in which a request is performed. -/
def world (files : Files) (standardInput : Bytes) (occasion : Run.Occasion) :
    CommandLine.World Unit where
  files := files
  standardInput := standardInput
  site := fun endpoint => ⟨endpoint.text, nobody endpoint, fun _ => ()⟩
  occasion := occasion

/-- How a request ends after its file has been written, or could not be. -/
def settleEnding (arguments : CommandLine.Arguments) (input : Bytes) (fetched : Fetched)
    (occasion : Run.Occasion) (performance : CommandLine.Performance) :
    BaseIO CommandLine.Ending := do
  match performance.written with
  | none => return performance.ending
  | some (path, text) =>
    match ← attempt (IO.FS.writeFile path text) with
    | .ok () => return performance.ending
    | .error e =>
      let refusing := { fetched.files with write := fun _ _ => .error e }
      let again := CommandLine.perform (world refusing input occasion) arguments
      return (again.run Log.defaultLevel).2.ending

/-- Perform a request and say how it ended. -/
def performRequest (arguments : CommandLine.Arguments) : IO UInt32 := do
  let fetched ← fetch arguments.request
  let input ← fetchInput arguments.request
  let occasion ← occasion
  let (entries, performance) :=
    (CommandLine.perform (world fetched.files input occasion) arguments).run
      Log.defaultLevel
  let errors ← IO.getStderr
  for entry in entries do
    errors.putStr entry.render
  let output ← IO.getStdout
  output.putStr performance.output
  output.flush
  match ← settleEnding arguments input fetched occasion performance with
  | .succeeded => return 0
  | .failed cause =>
    errors.putStrLn cause.text
    return 1
  | .crashed message =>
    errors.putStrLn message
    return 101

/-- How the program is called, line by line. -/
def usageLines : List String := [
  "Usage: policy-replay [--log-level LEVEL] COMMAND",
  "",
  "Commands:",
  "  compile    Compile query lines: [--file FILE]",
  "  policy     Compile a policy document: --config FILE",
  "  workloads  List workloads: [--trace-dir DIR]",
  "  run        Replay a workload: [--workload NAME] [--trace-dir DIR] [--address HOST]",
  "             [--port PORT] [--clients COUNT] [--value-size SIZE] [--policy FILE]",
  "             [--spawn COMMAND] [--settings FILE] [--report FILE]"]

/-- Do what the arguments say. -/
def run (arguments : List String) : IO UInt32 := do
  match CommandLine.parse arguments with
  | .ok arguments => performRequest arguments
  | .error reason =>
    let code := reason.exitCode
    let stream ← if code = 0 then IO.getStdout else IO.getStderr
    usageLines.forM stream.putStrLn
    return code

end PolicyReplay.Terminal

/-- The program. -/
def main (arguments : List String) : IO UInt32 := PolicyReplay.Terminal.run arguments
