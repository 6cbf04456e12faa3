import PolicyReplay.SystemError

/-!
# Errors of a connection
-/

namespace PolicyReplay.Wire

/-- Why a connection cannot be opened or used. -/
inductive Error where
  | io (cause : SystemError)
  /-- A payload has more octets than a frame can announce. -/
  | frameTooLarge (size : Nat)
  /-- The peer ended the connection where an answer was due. -/
  | closed
  | connect (address : String) (cause : SystemError)
  | spawn (program : String) (cause : SystemError)
  deriving DecidableEq, Repr

namespace Error

/-- The stable code of an error. -/
def code : Error → String
  | io _ => "WIRE_IO_FAILED"
  | frameTooLarge _ => "WIRE_FRAME_TOO_LARGE"
  | closed => "WIRE_CONNECTION_CLOSED"
  | connect _ _ => "WIRE_CONNECT_FAILED"
  | spawn _ _ => "WIRE_SPAWN_FAILED"

/-- The error in words. -/
def message : Error → String
  | io cause => "I/O error: " ++ cause.text
  | frameTooLarge size =>
    "payload of " ++ toString size ++ " bytes exceeds the maximum frame size"
  | closed => "connection closed by peer"
  | connect address cause => "failed to connect to " ++ address ++ ": " ++ cause.text
  | spawn program cause => "failed to spawn controller '" ++ program ++ "': " ++ cause.text

end Error
end PolicyReplay.Wire
