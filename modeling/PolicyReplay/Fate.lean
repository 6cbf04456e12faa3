/-!
# How a computation ends

A computation returns a value, or it crashes: it ends the program, or the part of the program that
it belongs to, without a result. A crash is no error, since no one is told of it as a value.
-/

namespace PolicyReplay

/-- How a computation ended. -/
inductive Fate (α : Type) where
  | returned (value : α)
  | crashed (message : String)
  deriving DecidableEq, Repr

/-- Apply a function to what is returned. -/
def Fate.map (f : α → β) : Fate α → Fate β
  | returned value => .returned (f value)
  | crashed message => .crashed message

end PolicyReplay
