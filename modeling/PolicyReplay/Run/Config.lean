import PolicyReplay.Policy.Document
import PolicyReplay.Policy.Setup
import PolicyReplay.Text.Blank
import PolicyReplay.Text.Quoted
import PolicyReplay.Wire.Error
import PolicyReplay.Workload

/-!
# What a run is asked to do, and why it can fail

A configuration names a workload and says how it is replayed. An error of a run is fatal when it
concerns the run as a whole, and not fatal when it concerns one connection only.
-/

namespace PolicyReplay.Run

/-- What a run is asked to do. -/
structure Config where
  workload : String
  traceFolder : String := "workload_traces"
  clients : Nat := 1
  valueSize : Nat := 1024
  policy : Option String := none
  deriving DecidableEq, Repr

/-- What can be wrong with a configuration. -/
inductive ConfigFault where
  | emptyWorkload
  | noClients
  | policySkipped (path : String) (cause : Setup.Skip)
  deriving DecidableEq, Repr

/-- The fault in words. -/
def ConfigFault.reason : ConfigFault → String
  | emptyWorkload => "workload name is empty"
  | noClients => "number of clients must be at least 1"
  | policySkipped path .defaultPolicyNotObject => path ++ ": default_policy must be an object"
  | policySkipped path (.missingKeys keys) =>
    path ++ ": missing mandatory keys " ++ String.intercalate ", " keys

/-- Why a run, or one connection of it, fails. -/
inductive Error where
  | workload (cause : Workload.Error)
  | policy (cause : Policy.Error)
  | wire (cause : Wire.Error)
  /-- The answer to the setup command was not the acknowledgement. -/
  | handshakeRejected (response : String)
  | invalidConfig (fault : ConfigFault)
  | loadPhase (cause : Error)
  | noData
  | reportUnwritten (path : String) (cause : SystemError)
  deriving DecidableEq, Repr

namespace Error

/-- The stable code of an error. -/
def code : Error → String
  | workload cause => cause.code
  | policy cause => cause.code
  | wire cause => cause.code
  | handshakeRejected _ => "LOADGEN_HANDSHAKE_REJECTED"
  | invalidConfig _ => "LOADGEN_INVALID_CONFIG"
  | loadPhase _ => "LOADGEN_LOAD_PHASE_FAILED"
  | noData => "LOADGEN_NO_DATA"
  | reportUnwritten _ _ => "LOADGEN_REPORT_FAILED"

/-- The error in words. -/
def message : Error → String
  | workload cause => cause.message
  | policy cause => cause.message
  | wire cause => cause.message
  | handshakeRejected response =>
    "controller rejected the policy handshake: " ++ Text.quoted response
  | invalidConfig fault => "invalid configuration: " ++ fault.reason
  | loadPhase cause => "load phase failed: " ++ cause.message
  | noData => "no latency samples were gathered"
  | reportUnwritten path cause => "failed to write report " ++ path ++ ": " ++ cause.text

/-- Whether an error ends the run; the others end one connection. -/
def isFatal : Error → Bool
  | wire _ | handshakeRejected _ => false
  | _ => true

end Error

/-- Refuse a configuration without a workload or without clients. -/
def Config.validate (config : Config) : Except Error Unit :=
  if Text.isBlankText config.workload.toList then .error (.invalidConfig .emptyWorkload)
  else if config.clients = 0 then .error (.invalidConfig .noClients)
  else .ok ()

end PolicyReplay.Run
