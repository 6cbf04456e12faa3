/-!
# Errors of the operating system

What reading a file or using a connection can fail with: a kind, which decides how the failure is
handled, and a text, which is shown as it is.
-/

namespace PolicyReplay

/-- The kinds of failure that are told apart. -/
inductive SystemError.Kind where
  | brokenPipe | connectionReset | connectionRefused | unexpectedEof
  | notFound | permissionDenied | invalidInput | invalidData | writeZero | other
  deriving DecidableEq, Repr

/-- A failure that the operating system reports. -/
structure SystemError where
  kind : SystemError.Kind
  text : String
  deriving DecidableEq, Repr

namespace SystemError

/-- There is nothing at a path. -/
def notFound : SystemError := ⟨.notFound, "No such file or directory (os error 2)"⟩

/-- Access is refused. -/
def permissionDenied : SystemError := ⟨.permissionDenied, "Permission denied (os error 13)"⟩

/-- A path leads through something that is not a folder. -/
def notAFolder : SystemError := ⟨.other, "Not a directory (os error 20)"⟩

/-- A folder is used as a file. -/
def isAFolder : SystemError := ⟨.other, "Is a directory (os error 21)"⟩

/-- A name or a path is longer than the system allows. -/
def nameTooLong : SystemError := ⟨.other, "File name too long (os error 36)"⟩

/-- Something is already there that is to be made. -/
def alreadyThere : SystemError := ⟨.other, "File exists (os error 17)"⟩

/-- There is no room for what is written. -/
def noSpace : SystemError := ⟨.other, "No space left on device (os error 28)"⟩

/-- A path leads through too many links. -/
def tooManyLinks : SystemError := ⟨.other, "Too many levels of symbolic links (os error 40)"⟩

/-- No one listens at the address. -/
def connectionRefused : SystemError := ⟨.connectionRefused, "Connection refused (os error 111)"⟩

/-- A path holds the character that ends paths. -/
def nulInPath : SystemError :=
  ⟨.invalidInput, "file name contained an unexpected NUL byte"⟩

/-- What is read as text is not UTF-8. -/
def notUtf8 : SystemError := ⟨.invalidData, "stream did not contain valid UTF-8"⟩

/-- A connection takes no octets although it reports no failure. -/
def writeZero : SystemError := ⟨.writeZero, "write zero"⟩

end SystemError
end PolicyReplay
