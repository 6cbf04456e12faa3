/-!
# Predicate names

The predicates that a query line may hold, a closed set of 21 names. An attribute has two of them:
the plain name sets the attribute, the name with `Is` makes the operation depend on it.
Names are case-sensitive.
-/

namespace PolicyReplay

/-- Order relations on stored values. -/
inductive Comparison where
  | equal | atMost | below | atLeast | above
  deriving DecidableEq, Repr

namespace Comparison

/-- Every comparison. -/
def all : List Comparison := [equal, atMost, below, atLeast, above]

/-- The name of a comparison in query lines. -/
def name : Comparison → String
  | equal => "eq"
  | atMost => "le"
  | below => "lt"
  | atLeast => "ge"
  | above => "gt"

end Comparison

/-- What the controller knows about a session or an object. -/
inductive Attribute where
  | sessionKey | expiry | purpose | origin | share | objections | owner
  deriving DecidableEq, Repr

namespace Attribute

/-- Every attribute. -/
def all : List Attribute := [sessionKey, expiry, purpose, origin, share, objections, owner]

/-- The name of an attribute in query lines. -/
def name : Attribute → String
  | sessionKey => "sessionKey"
  | expiry => "objExp"
  | purpose => "objPur"
  | origin => "objOrig"
  | share => "objShare"
  | objections => "objObjections"
  | owner => "objOwner"

end Attribute

/-- The name of a predicate, by what the predicate does. -/
inductive PredicateName where
  | compare (relation : Comparison)
  | assign (subject : Attribute)
  | require (subject : Attribute)
  | monitor
  | query
  deriving DecidableEq, Repr

namespace PredicateName

/-- Every predicate name. -/
def all : List PredicateName :=
  Comparison.all.map compare ++ Attribute.all.map assign ++ Attribute.all.map require ++
    [monitor, query]

theorem mem_all (p : PredicateName) : p ∈ all := by
  cases p with
  | compare c => cases c <;> decide
  | assign a => cases a <;> decide
  | require a => cases a <;> decide
  | monitor => decide
  | query => decide

/-- How the name is written. -/
def text : PredicateName → String
  | compare relation => relation.name
  | assign subject => subject.name
  | require subject => subject.name ++ "Is"
  | monitor => "monitor"
  | query => "query"

/-- The predicate name that is written `text`, if there is one. -/
def ofText? (text : String) : Option PredicateName := all.find? (·.text == text)

theorem ofText?_text (p : PredicateName) : ofText? p.text = some p := by
  cases p with
  | compare c => cases c <;> decide
  | assign a => cases a <;> decide
  | require a => cases a <;> decide
  | monitor => decide
  | query => decide

end PredicateName
end PolicyReplay
