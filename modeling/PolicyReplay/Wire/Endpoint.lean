/-!
# Endpoints

Where controllers are found: at a network address, or at the other end of a program that is
started for each connection.
-/

namespace PolicyReplay

/-- Where a controller is found. -/
inductive Endpoint where
  | tcp (address : String)
  | process (program : String) (arguments : List String)
  deriving DecidableEq, Repr

namespace Endpoint

/-- The endpoint of a host and a port. -/
def ofHost (host : String) (port : Nat) : Endpoint := tcp (host ++ ":" ++ toString port)

/-- The endpoint of a command line; the first word is the program. -/
def ofWords? : List String → Option Endpoint
  | [] => none
  | program :: arguments => some (process program arguments)

/-- How an endpoint is shown. -/
def text : Endpoint → String
  | tcp address => "tcp://" ++ address
  | process program [] => "process://" ++ program
  | process program arguments =>
    "process://" ++ program ++ " " ++ String.intercalate " " arguments

end Endpoint
end PolicyReplay
