import PolicyReplay.Log.Severity
import PolicyReplay.Run.Config
import PolicyReplay.Wire.Endpoint

/-!
# Settings of a run

What a run is told by its user: each setting has a default, which a settings file replaces, and
that in turn a flag. Only the merged settings are checked, so a flag makes good a bad value of the
file.
-/

namespace PolicyReplay

/-- The settings of a run. -/
structure Settings where
  workload : Option String := none
  traceFolder : String := "workload_traces"
  address : String := "127.0.0.1"
  port : Nat := 1312
  clients : Nat := 1
  valueSize : Nat := 1024
  policy : Option String := none
  /-- The command line of a program that stands in for the network. -/
  spawn : Option String := none
  report : Option String := none
  logLevel : String := "info"
  deriving DecidableEq, Repr

/-- The flags of a run; an absent flag says nothing. -/
structure Flags where
  workload : Option String := none
  traceFolder : Option String := none
  address : Option String := none
  port : Option Nat := none
  clients : Option Nat := none
  valueSize : Option Nat := none
  policy : Option String := none
  spawn : Option String := none
  settings : Option String := none
  report : Option String := none
  deriving DecidableEq, Repr

namespace Settings

/-- What can be wrong with settings. -/
inductive Fault where
  | unreadable (cause : SystemError)
  /-- The file holds no settings; `detail` says what is wrong with it. -/
  | invalid (detail : String)
  | noWorkload
  | noClients
  | noPort
  | noAddress
  | emptySpawn
  | unknownLevel (level : Severity.UnknownLevel)
  deriving DecidableEq, Repr

/-- The fault in words. -/
def Fault.message : Fault → String
  | unreadable cause => "Failed to read settings: " ++ cause.text
  | invalid detail => "Invalid settings JSON: " ++ detail
  | noWorkload => "No workload given; use --workload or the settings file"
  | noClients => "clients must be > 0"
  | noPort => "port must be > 0"
  | noAddress => "address must not be empty"
  | emptySpawn => "spawn command is empty"
  | unknownLevel level => level.message

/-- The settings with the flags in the stead of what they set. -/
def apply (settings : Settings) (flags : Flags) : Settings where
  workload := flags.workload <|> settings.workload
  traceFolder := flags.traceFolder.getD settings.traceFolder
  address := flags.address.getD settings.address
  port := flags.port.getD settings.port
  clients := flags.clients.getD settings.clients
  valueSize := flags.valueSize.getD settings.valueSize
  policy := flags.policy <|> settings.policy
  spawn := flags.spawn <|> settings.spawn
  report := flags.report <|> settings.report
  logLevel := settings.logLevel

/-- The words of a command line. -/
def commandWords (text : String) : List String := (Text.words text.toList).map String.ofList

/-- A text that is absent or blank. -/
def isMissing (text : Option String) : Bool :=
  match text with
  | none => true
  | some s => Text.isBlankText s.toList

/-- Refuse settings with which no run can be made. The level is that of `logLevel`. -/
def validate (settings : Settings) : Except Fault Severity :=
  if isMissing settings.workload then .error .noWorkload
  else if settings.clients = 0 then .error .noClients
  else if settings.port = 0 then .error .noPort
  else if Text.isBlankText settings.address.toList then .error .noAddress
  else if settings.spawn.any fun line => (commandWords line).isEmpty then .error .emptySpawn
  else (Severity.parse settings.logLevel).mapError .unknownLevel

/-- What a run with these settings is asked to do. -/
def config (settings : Settings) : Run.Config where
  workload := settings.workload.getD ""
  traceFolder := settings.traceFolder
  clients := settings.clients
  valueSize := settings.valueSize
  policy := settings.policy

/-- The program that stands in for the network, if there is one. -/
def processEndpoint? (settings : Settings) : Option Endpoint :=
  settings.spawn.bind fun line => Endpoint.ofWords? (commandWords line)

/-- The network address. -/
def tcpEndpoint (settings : Settings) : Endpoint := .ofHost settings.address settings.port

/-- Where the controller of a run is found. -/
def endpoint (settings : Settings) : Endpoint :=
  settings.processEndpoint?.getD settings.tcpEndpoint

end Settings
end PolicyReplay
