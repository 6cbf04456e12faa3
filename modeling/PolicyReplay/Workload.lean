import PolicyReplay.Files.Basic
import PolicyReplay.Trace.Compile

/-!
# Workloads

A workload is a pair of traces in one folder: `NAME_load` is replayed once before the run, and
`NAME_run` is the run. Both are compiled before anything is sent, and the load trace comes first,
so its error is the one that is reported when both are at fault.
-/

namespace PolicyReplay

/-- A workload with both of its traces compiled. -/
structure Workload where
  name : String
  load : List Command
  run : List Command
  deriving DecidableEq, Repr

namespace Workload

/-- Why a workload cannot be had. -/
inductive Error where
  | unreadable (path : String) (cause : SystemError)
  | unlistable (path : String) (cause : SystemError)
  | badLine (path : String) (line : Trace.LineError)
  deriving DecidableEq, Repr

namespace Error

/-- The stable code of an error; a bad line has that of its query. -/
def code : Error → String
  | unreadable _ _ => "WORKLOAD_UNREADABLE"
  | unlistable _ _ => "WORKLOAD_DIR_UNREADABLE"
  | badLine _ line => line.cause.code

/-- The error in words. -/
def message : Error → String
  | unreadable path cause => "failed to read trace file " ++ path ++ ": " ++ cause.text
  | unlistable path cause => "failed to list trace directory " ++ path ++ ": " ++ cause.text
  | badLine path line => path ++ ":" ++ toString line.number ++ ": " ++ line.cause.message

end Error

/-- What the name of a load trace ends in. -/
def loadSuffix : String := "_load"

/-- What the name of a run trace ends in. -/
def runSuffix : String := "_run"

/-- The path of a load trace. -/
def loadPath (folder name : String) : String := Files.join folder (name ++ loadSuffix)

/-- The path of a run trace. -/
def runPath (folder name : String) : String := Files.join folder (name ++ runSuffix)

/-- The query lines of a trace file. -/
def readTrace (files : Files) (path : String) : Except Error (List Trace.Line) :=
  match files.readText path with
  | .ok text => .ok (Trace.queryLines text)
  | .error cause => .error (.unreadable path cause)

/-- The commands of a trace file after `prepare` has been applied to each query line. -/
def compileTraceWith (files : Files) (path : String) (prepare : String → String) :
    Except Error (List Command) := do
  let lines ← readTrace files path
  (Trace.compileLinesWith prepare lines).mapError (.badLine path)

/-- The commands of a trace file. -/
def compileTrace (files : Files) (path filler : String) : Except Error (List Command) :=
  compileTraceWith files path (Trace.expand filler)

/-- Compile both traces of a workload, with values of the given size. -/
def compile (files : Files) (folder name : String) (valueSize : Nat) : Except Error Workload := do
  let load ← compileTraceWith files (loadPath folder name) (Trace.filled valueSize)
  let run ← compileTraceWith files (runPath folder name) (Trace.filled valueSize)
  return ⟨name, load, run⟩

/-- Assemble a workload with values of the given size. The room for a value is needed before a trace
is read, and whether a trace has a place for it or not. -/
def assemble (files : Files) (folder name : String) (valueSize : Nat) :
    Fate (Except Error Workload) :=
  Capacity.reserve valueSize 1 fun _ => compile files folder name valueSize

/-- The name of the workload whose run trace has this file name. -/
def nameOfRun? (fileName : Bytes) : Option String :=
  match Text.decode? fileName with
  | none => none
  | some chars =>
    let suffix := runSuffix.toList
    if suffix.isSuffixOf chars then
      let name := chars.take (chars.length - suffix.length)
      if name.isEmpty then none else some (String.ofList name)
    else none

/-- The names of the workloads in a folder, sorted: one for each regular file that is named as a
run trace. -/
def catalogue (files : Files) (folder : String) : Except Error (List String) :=
  match files.list folder with
  | .error cause => .error (.unlistable folder cause)
  | .ok entries =>
    let names := (entries.filter (·.regular)).filterMap (nameOfRun? ·.name)
    .ok (names.mergeSort fun a b => decide (a ≤ b))

end Workload
end PolicyReplay
