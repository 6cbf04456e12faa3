import PolicyReplay.Query.Filter
import PolicyReplay.Query.Verb

/-!
# Queries and what can be wrong with one

A query is what a line means: a verb with its arguments and a filter. An error names its cause and
the text at fault; `Error.message` is the one place that words it.
-/

namespace PolicyReplay

/-- What a query line asks for. -/
structure Query where
  verb : Verb
  key : Option String
  value : Option String
  filter : Filter
  deriving DecidableEq, Repr

namespace Query

/-- Why a line has no meaning. Each cause holds the text at fault. -/
inductive Malformation where
  | emptyLine
  | emptySegment
  | unbalancedSegment (segment : String)
  | textAfterSegment (segment : String)
  | namelessSegment (segment : String)
  | negatedCall
  | secondCall (line : String)
  | noCall (line : String)
  | unbalancedCall (call : String)
  | noVerb (call : String)
  deriving DecidableEq, Repr

/-- The cause in words. -/
def Malformation.reason : Malformation → String
  | emptyLine => "empty query line"
  | emptySegment => "empty predicate between '&'"
  | unbalancedSegment segment => "unbalanced parentheses in '" ++ segment ++ "'"
  | textAfterSegment segment => "unexpected text after ')' in '" ++ segment ++ "'"
  | namelessSegment segment => "predicate without a name in '" ++ segment ++ "'"
  | negatedCall => "the query predicate cannot be negated"
  | secondCall line => "more than one query predicate in '" ++ line ++ "'"
  | noCall line => "no query(...) predicate in '" ++ line ++ "'"
  | unbalancedCall call => "unbalanced parentheses in query(" ++ call ++ ")"
  | noVerb call => "no verb in query(" ++ call ++ ")"

/-- Why a line does not yield a command. -/
inductive Error where
  | malformed (cause : Malformation)
  | unsupportedPredicate (name : String)
  | unsupportedVerb (name : String)
  | missingKey (verb : Verb)
  | missingValue (key : String)
  deriving DecidableEq, Repr

namespace Error

/-- The stable code of an error. -/
def code : Error → String
  | malformed _ => "POLICY_QUERY_MALFORMED"
  | unsupportedPredicate _ => "POLICY_QUERY_UNSUPPORTED_PREDICATE"
  | unsupportedVerb _ => "POLICY_QUERY_UNSUPPORTED_VERB"
  | missingKey _ => "POLICY_QUERY_MISSING_KEY"
  | missingValue _ => "POLICY_QUERY_MISSING_VALUE"

/-- The error in words. -/
def message : Error → String
  | malformed cause => "malformed query: " ++ cause.reason
  | unsupportedPredicate name => "unsupported predicate '" ++ name ++ "'"
  | unsupportedVerb name => "unsupported query verb '" ++ name ++ "'"
  | missingKey verb => "no key specified for " ++ verb.name ++ " query"
  | missingValue key => "no value specified for put query on key '" ++ key ++ "'"

end Error

end Query
end PolicyReplay
