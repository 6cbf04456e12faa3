/-!
# Severities

How grave a logged event is. Levels are named without regard to ASCII case, and a warning has two
names.
-/

namespace PolicyReplay

/-- How grave an event is. -/
inductive Severity where
  | trace | info | warn | error | fatal
  deriving DecidableEq, Repr

namespace Severity

/-- The place of a severity in their order. -/
def rank : Severity → Nat
  | trace => 0
  | info => 1
  | warn => 2
  | error => 3
  | fatal => 4

instance : LE Severity := ⟨fun a b => a.rank ≤ b.rank⟩

instance (a b : Severity) : Decidable (a ≤ b) := inferInstanceAs (Decidable (a.rank ≤ b.rank))

/-- How a severity is written in a log line. -/
def name : Severity → String
  | trace => "TRACE"
  | info => "INFO"
  | warn => "WARN"
  | error => "ERROR"
  | fatal => "FATAL"

/-- A text that names no level, in lower case. -/
structure UnknownLevel where
  text : String
  deriving DecidableEq, Repr

/-- The error in words. -/
def UnknownLevel.message (e : UnknownLevel) : String :=
  "unknown log level '" ++ e.text ++ "', expected one of trace, info, warn, error, fatal"

/-- The severity that a text names. -/
def parse (text : String) : Except UnknownLevel Severity :=
  match String.ofList (text.toList.map Char.toLower) with
  | "trace" => .ok trace
  | "info" => .ok info
  | "warn" => .ok warn
  | "warning" => .ok warn
  | "error" => .ok error
  | "fatal" => .ok fatal
  | text => .error ⟨text⟩

end Severity
end PolicyReplay
