import PolicyReplay.SystemError
import PolicyReplay.Text.Utf8

/-!
# Files

What the library asks of a file system: the octets of a file, the entries of a folder, and whether
a file can be written. Paths are texts, and names are octets, since a name need not be UTF-8.
-/

namespace PolicyReplay

/-- An entry of a folder. -/
structure Files.Entry where
  name : Bytes
  /-- A regular file, and not a folder or a symbolic link. -/
  regular : Bool
  deriving DecidableEq, Repr

/-- The answers of a file system. -/
structure Files where
  read : String → Except SystemError Bytes
  list : String → Except SystemError (List Files.Entry)
  write : String → Bytes → Except SystemError Unit

namespace Files

/-- Octets as text. -/
def asText (bytes : Bytes) : Except SystemError String :=
  match Text.decode? bytes with
  | some s => .ok (String.ofList s)
  | none => .error .notUtf8

/-- The text of a file. -/
def readText (files : Files) (path : String) : Except SystemError String :=
  files.read path >>= asText

/-- The path of a name in a folder. An absolute name stands for itself, and so does a name in the
folder with the empty path. -/
def join (folder name : String) : String :=
  if name.toList.head? = some '/' || folder.isEmpty then name
  else if folder.toList.getLast? = some '/' then folder ++ name
  else folder ++ "/" ++ name

end Files
end PolicyReplay
