import PolicyReplay.Log.Event

/-!
# Logging as part of a computation

A computation that logs is told the least severity that is written, and yields the entries that
were written beside its result. `Log.Action` is the other view of a log: level changes and entries
one after the other, where a level that has no name changes nothing.
-/

namespace PolicyReplay

/-- A computation that writes log entries of at least a given severity. -/
def Logging (α : Type) : Type := Severity → List Log.Entry × α

namespace Logging

/-- The entries that are written and the result, when `least` is the least severity written. -/
def run (x : Logging α) (least : Severity) : List Log.Entry × α := x least

/-- A result without an entry. -/
protected def pure (a : α) : Logging α := fun _ => ([], a)

/-- One computation after the other. -/
protected def bind (x : Logging α) (f : α → Logging β) : Logging β := fun least =>
  let (before, a) := x least
  let (after, b) := f a least
  (before ++ after, b)

/-- The same entries with a result made of the result. -/
protected def map (x : Logging α) (f : α → β) : Logging β := fun least =>
  let (entries, a) := x least
  (entries, f a)

instance : Monad Logging where
  map := fun f x => Logging.map x f
  pure := Logging.pure
  bind := Logging.bind

/-- Write an entry if it is grave enough. -/
def write (entry : Log.Entry) : Logging Unit := fun least =>
  (if least ≤ entry.severity then [entry] else [], ())

/-- Write the entry of an event. -/
def event (event : Log.Event) (fields : Log.Fields) : Logging Unit := write (event.entry fields)

/-- The same computation with a least severity of its own. -/
def withLeast (least : Severity) (x : Logging α) : Logging α := fun _ => x least

/-- The least severity that is written. -/
def least : Logging Severity := fun least => ([], least)

@[simp] theorem run_pure (a : α) (least : Severity) : (pure a : Logging α).run least = ([], a) :=
  rfl

@[simp] theorem run_bind (x : Logging α) (f : α → Logging β) (least : Severity) :
    (x >>= f).run least =
      ((x.run least).1 ++ ((f (x.run least).2).run least).1, ((f (x.run least).2).run least).2) :=
  rfl

@[simp] theorem run_write (entry : Log.Entry) (least : Severity) :
    (write entry).run least = (if least ≤ entry.severity then [entry] else [], ()) :=
  rfl

end Logging

namespace Log

/-- The least severity that is written unless another is asked for. -/
def defaultLevel : Severity := .info

/-- What can happen to a log. -/
inductive Action where
  | setLevel (text : String)
  | write (entry : Entry)
  deriving DecidableEq, Repr

/-- The level after an action. -/
def Action.level (least : Severity) : Action → Severity
  | setLevel text => match Severity.parse text with
    | .ok severity => severity
    | .error _ => least
  | write _ => least

/-- The entries that an action writes. -/
def Action.entries (least : Severity) : Action → List Entry
  | setLevel _ => []
  | write entry => ((Logging.write entry).run least).1

/-- The entries that actions write, one list for each action. -/
def replay (least : Severity) : List Action → List (List Entry)
  | [] => []
  | action :: rest => action.entries least :: replay (action.level least) rest

end Log
end PolicyReplay
