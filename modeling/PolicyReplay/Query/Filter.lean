import PolicyReplay.Query.Predicate

/-!
# Filters

The predicates of a line other than `query(...)`, in the order of the line. A filter is written as
the suffix of a command: for each term a space, a dash, the name, a space and the value, where an
exclamation mark before the value negates the term.
-/

namespace PolicyReplay

/-- One predicate with its opaque value. -/
structure Term where
  name : PredicateName
  negated : Bool
  value : String
  deriving DecidableEq, Repr

namespace Term

/-- The mark of negation, if the term has it. -/
def sign (t : Term) : String := if t.negated then "!" else ""

/-- The term as it stands in a command, with the space before it. -/
def text (t : Term) : String := " -" ++ t.name.text ++ " " ++ t.sign ++ t.value

end Term

/-- Terms in the order of the line. -/
abbrev Filter := List Term

namespace Filter

/-- All terms, one after the other. -/
def text : Filter → String
  | [] => ""
  | t :: rest => t.text ++ text rest

end Filter
end PolicyReplay
