import PolicyReplay.Log.Entry

/-!
# Events

The events of a run that have a fixed name and severity, and scopes, which log where a phase begins
and how it ends.
-/

namespace PolicyReplay.Log

/-- An event with a fixed name. -/
inductive Event where
  | configLoaded | policyCompiled | policySkipped
  | workloadCompiled | workloadRejected
  | runStart | runComplete
  | workerConnected | handshakeAccepted | handshakeRejected | workerComplete | workerFailed
  deriving DecidableEq, Repr

namespace Event

/-- Every event. -/
def all : List Event :=
  [configLoaded, policyCompiled, policySkipped, workloadCompiled, workloadRejected, runStart,
    runComplete, workerConnected, handshakeAccepted, handshakeRejected, workerComplete,
    workerFailed]

/-- How an event is written in a log line. -/
def name : Event → String
  | configLoaded => "CONFIG_LOADED"
  | policyCompiled => "POLICY_COMPILED"
  | policySkipped => "POLICY_SKIPPED"
  | workloadCompiled => "WORKLOAD_COMPILED"
  | workloadRejected => "WORKLOAD_REJECTED"
  | runStart => "RUN_START"
  | runComplete => "RUN_COMPLETE"
  | workerConnected => "WORKER_CONNECTED"
  | handshakeAccepted => "HANDSHAKE_ACCEPTED"
  | handshakeRejected => "HANDSHAKE_REJECTED"
  | workerComplete => "WORKER_COMPLETE"
  | workerFailed => "WORKER_FAILED"

/-- The event that is written `name`. -/
def ofName? (name : String) : Option Event := all.find? (·.name == name)

/-- How grave an event is. -/
def severity : Event → Severity
  | workloadRejected => .fatal
  | policySkipped | handshakeRejected | workerFailed => .warn
  | _ => .info

/-- The entry of an event. -/
def entry (event : Event) (fields : Fields) : Entry := ⟨event.severity, event.name, fields⟩

end Event

/-- A phase that is logged where it begins and where it ends. -/
structure Scope where
  name : String
  fields : Fields
  deriving DecidableEq, Repr

namespace Scope

/-- The entry of the beginning. -/
def opened (scope : Scope) : Entry := ⟨.info, scope.name ++ "_BEGIN", scope.fields⟩

/-- The entry of an end as planned, after `elapsed` milliseconds. -/
def completed (scope : Scope) (elapsed : Nat) (extra : Fields) : Entry :=
  ⟨.info, scope.name ++ "_COMPLETE", scope.fields ++ ("elapsed_ms", toString elapsed) :: extra⟩

/-- The entry of a failure. -/
def failed (scope : Scope) (reason : String) : Entry :=
  ⟨.error, scope.name ++ "_FAILED", scope.fields ++ [("reason", reason)]⟩

/-- The entry of a phase that was left without an end. -/
def abandoned (scope : Scope) : Entry :=
  ⟨.warn, scope.name ++ "_INCOMPLETE", [("reason", "scope dropped without completion")]⟩

end Scope
end PolicyReplay.Log
