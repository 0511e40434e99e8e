import SeedCatalog.Encoding.Basic
import SeedCatalog.Files.Access

/-!
# Reading texts

A text is read from a file in an encoding that is given by its name.  The file is opened before the
encoding is looked up, but a name that no encoding can have is refused before that.
-/

namespace SeedCatalog

/-- Why a file cannot be opened as a text. -/
inductive OpenError where
  | access (error : AccessError)
  | encoding (error : Encoding.NameError)
  deriving DecidableEq, Repr

/-- The error in words. -/
def OpenError.message : OpenError → Text
  | .access error => error.message
  | .encoding error => error.message

/-- Why the text of a file cannot be read. -/
inductive ReadError where
  | unopened (error : OpenError)
  | undecodable (error : Encoding.DecodeError)
  deriving DecidableEq, Repr

/-- The error in words. -/
def ReadError.message : ReadError → Text
  | .unopened error => error.message
  | .undecodable error => error.message

namespace FileView

/-- The bytes of a file, with the encoding that they are to be read in. -/
def openText (view : FileView) (path : Path) (encodingName : Text) :
    Except OpenError (Encoding × Bytes) :=
  if Encoding.hasNul encodingName then .error (.encoding .nulInName)
  else
    match view.readBytes path with
    | .error error => .error (.access error)
    | .ok bytes =>
        match Encoding.find encodingName with
        | .error error => .error (.encoding error)
        | .ok encoding => .ok (encoding, bytes)

/-- The text of a file, with a line feed for each line end of any kind. -/
def readText (view : FileView) (path : Path) (encodingName : Text) : Except ReadError Text :=
  match view.openText path encodingName with
  | .error error => .error (.unopened error)
  | .ok (encoding, bytes) =>
      match encoding.decode bytes with
      | .error error => .error (.undecodable error)
      | .ok text => .ok (Text.unifyLineEnds text)

end FileView

end SeedCatalog
