import PolicyReplay.Settings.Basic

/-!
# Errors of the command line

Every failure of a command has a code by what the user can do about it, and a message that keeps
the code of the failure behind it.
-/

namespace PolicyReplay.CommandLine

/-- Why a command fails. -/
inductive Error where
  | settings (fault : Settings.Fault)
  | unknownLevel (level : Severity.UnknownLevel)
  | unreadable (path : String) (cause : SystemError)
  | system (cause : SystemError)
  | badLine (line : Trace.LineError)
  | policy (cause : Policy.Error)
  | policySkipped (cause : Setup.Skip)
  | workload (cause : Workload.Error)
  | run (cause : Run.Error)
  deriving DecidableEq, Repr

namespace Error

/-- The code of a failed run. -/
def runCode : Run.Error → String
  | .workload (.badLine _ _) => "BENCH_CLI_QUERY_REJECTED"
  | .workload _ => "BENCH_CLI_WORKLOAD_ERROR"
  | .policy _ => "BENCH_CLI_POLICY_REJECTED"
  | .invalidConfig _ => "BENCH_CLI_CONFIG_ERROR"
  | .noData => "BENCH_CLI_NO_DATA"
  | .reportUnwritten _ _ => "BENCH_CLI_IO_ERROR"
  | .wire _ | .handshakeRejected _ | .loadPhase _ => "BENCH_CLI_RUN_FAILED"

/-- The stable code of an error. -/
def code : Error → String
  | settings _ | unknownLevel _ => "BENCH_CLI_CONFIG_ERROR"
  | unreadable _ _ | system _ => "BENCH_CLI_IO_ERROR"
  | badLine _ => "BENCH_CLI_QUERY_REJECTED"
  | policy _ | policySkipped _ => "BENCH_CLI_POLICY_REJECTED"
  | workload _ => "BENCH_CLI_WORKLOAD_ERROR"
  | run cause => runCode cause

/-- The error in words. -/
def message : Error → String
  | settings fault => fault.message
  | unknownLevel level => level.message
  | unreadable path cause => "Failed to read " ++ path ++ ": " ++ cause.text
  | system cause => cause.text
  | badLine line =>
    "line " ++ toString line.number ++ ": " ++ line.cause.code ++ ": " ++ line.cause.message
  | policy cause => cause.code ++ ": " ++ cause.message
  | policySkipped .defaultPolicyNotObject => "default_policy must be an object"
  | policySkipped (.missingKeys keys) => "missing mandatory keys: " ++ String.intercalate ", " keys
  | workload cause => cause.code ++ ": " ++ cause.message
  | run cause => cause.code ++ ": " ++ cause.message

/-- The line that is written about an error. -/
def text (e : Error) : String := e.code ++ ": " ++ e.message

end Error
end PolicyReplay.CommandLine
