import SeedCatalog.Files.Tree

/-!
# Reading and writing files

A file is looked at through a view: a tree, the working directory and the home of the user.  A file
is resolved before it is read: the names of its path are followed one by one, and two dots undo the
name before them.  It is written as a whole: either it is replaced by its new contents, or nothing
changes.
-/

namespace SeedCatalog

/-- A file tree, seen from a working directory by a user with a home. -/
structure FileView where
  tree : FileTree
  cwd : Place
  home : Place

/-- Why a path does not lead to a file that can be read. -/
inductive ResolveError where
  /-- The path begins with the home of a user who is not known. -/
  | homeUnknown
  | nulInPath
  | doesNotExist (path : Text)
  | unresolved (path : Text) (error : FileError)
  | notRegular (path : Text)
  deriving DecidableEq, Repr

/-- The words for a path with a character that no file name can hold. -/
def nulInPathMessage : Text := "embedded null byte".toList

/-- The words for a path to something that is no file. -/
def notRegularMessage (path : Text) : Text := path ++ " is not a regular file.".toList

/-- The error in words. -/
def ResolveError.message : ResolveError → Text
  | .homeUnknown => "Could not determine home directory.".toList
  | .nulInPath => nulInPathMessage
  | .doesNotExist path => path ++ " does not exist.".toList
  | .unresolved path error => "Error resolving ".toList ++ path ++ ": ".toList ++ error.message
  | .notRegular path => notRegularMessage path

/-- Why a file cannot be read or written. -/
inductive AccessError where
  | nulInPath
  | inaccessible (path : Text) (error : FileError)
  | notRegular (path : Text)
  | tooLarge (path : Text) (limit : Int)
  | unopened (error : FileError)
  | unwritten (path : Text) (error : FileError)
  deriving DecidableEq, Repr

/-- The error in words. -/
def AccessError.message : AccessError → Text
  | .nulInPath => nulInPathMessage
  | .inaccessible path error => "Error accessing ".toList ++ path ++ ": ".toList ++ error.message
  | .notRegular path => notRegularMessage path
  | .tooLarge path limit =>
      path ++ s!" exceeds the maximum allowed size of {limit} bytes.".toList
  | .unopened error => error.message
  | .unwritten path error => "Error writing ".toList ++ path ++ ": ".toList ++ error.message

namespace FileView

/-- Follow a path. -/
def find (view : FileView) (path : Path) : Except Obstacle (Place × Entry) :=
  view.tree.find view.cwd path

/-! ## Resolving -/

/-- The path with the home of the user in place of a tilde at its beginning.  A tilde with a name
stands for the home of another user, which is not known. -/
def expandHome (view : FileView) (path : Path) : Option Path :=
  match path.anchor, path.names with
  | .workingDirectory, ('~' :: user) :: names =>
      if user = [] then some ⟨.root, view.home ++ names⟩ else none
  | _, _ => some path

/-- The path that leads to the directory above, by the names alone. -/
def above (path : Path) : Path :=
  match path.names.getLast? with
  | none => if path.anchor.isRoot then path else path.add Path.up
  | some name => if name = Path.up then path.add Path.up else path.directory

/-- Follow names one by one, behind a path that has been followed. -/
def resolveFrom (view : FileView) (followed : Path) : List Text → Except ResolveError Path
  | [] => .ok followed
  | name :: names =>
      if name = Path.up then view.resolveFrom (above followed) names
      else
        let next := followed.add name
        if next.hasNul then .error .nulInPath
        else
          match view.find next with
          | .ok _ => view.resolveFrom next names
          | .error obstacle => .error (.unresolved next.render ⟨obstacle, next.render, none⟩)

/-- The place of the file that a path leads to. -/
def resolve (view : FileView) (path : Path) : Except ResolveError Place :=
  match view.expandHome path with
  | none => .error .homeUnknown
  | some path =>
      let start : Path := if path.anchor.isRoot then .ofPlace [] else .here
      match view.resolveFrom start path.names with
      | .error (.unresolved _ error) =>
          if error.obstacle = .missing then .error (.doesNotExist path.render)
          else .error (.unresolved path.render error)
      | .error error => .error error
      | .ok followed =>
          let place := followed.place view.cwd
          match view.tree.get? place with
          | some (.file _) => .ok place
          | _ => .error (.notRegular (Path.ofPlace place).render)

/-! ## Reading -/

/-- The number of bytes of a file. -/
def fileSize (view : FileView) (path : Path) : Except AccessError Nat :=
  if path.hasNul then .error .nulInPath
  else
    match view.find path with
    | .error obstacle => .error (.inaccessible path.render ⟨obstacle, path.render, none⟩)
    | .ok (_, .directory) => .error (.notRegular path.render)
    | .ok (_, .file bytes) => .ok bytes.length

/-- Refuse a file with more bytes than the limit. -/
def checkSize (size : Nat) (limit : Int) (path : Path) : Except AccessError Unit :=
  if limit < size then .error (.tooLarge path.render limit) else .ok ()

/-- The bytes of a file. -/
def readBytes (view : FileView) (path : Path) : Except AccessError Bytes :=
  let refuse := fun obstacle => FileError.mk obstacle path.render none
  if path.hasNul then .error .nulInPath
  else
    match view.find path with
    | .error .nameTooLong => .error (.unopened (refuse .nameTooLong))
    | .error obstacle => .error (.inaccessible path.render (refuse obstacle))
    | .ok (_, .directory) => .error (.inaccessible path.render (refuse .isDirectory))
    | .ok (_, .file bytes) => .ok bytes

/-! ## Writing -/

/-- Where a file is to be written: its place, if the path leads to a file, and otherwise nothing.
What is neither a file nor missing cannot be written. -/
def writable (view : FileView) (path : Path) : Except AccessError (Option Place) :=
  if path.hasNul then .error .nulInPath
  else
    match view.find path with
    | .error .missing => .ok none
    | .error obstacle => .error (.inaccessible path.render ⟨obstacle, path.render, none⟩)
    | .ok (_, .directory) => .error (.notRegular path.render)
    | .ok (place, .file _) => .ok (some place)

/-- Whether a path leads to a directory. -/
def checkDirectory (tree : FileTree) (cwd : Place) (path : Path) : Except Obstacle Place :=
  match tree.find cwd path with
  | .error obstacle => .error obstacle
  | .ok (_, .file _) => .error .notDirectory
  | .ok (place, .directory) => .ok place

/-- The number of bytes by which the path of a temporary file is longer than that of its directory:
a slash and a name of eleven characters. -/
def scratchLength : Nat := 12

/-- Whether a path leads to a directory and leaves room for the name of a temporary file in it. -/
def checkScratch (tree : FileTree) (cwd : Place) (scratch : Path) : Except Obstacle Place :=
  if FileTree.pathLengthLimit ≤ (Utf8.encode scratch.render).length + scratchLength then
    .error .nameTooLong
  else checkDirectory tree cwd scratch

/-- The tree in which a file has the given text.  The text goes first to a temporary file in the
directory of the file, which then takes its place. -/
def write (view : FileView) (temporary : Text) (path : Path) (contents : Text) :
    Except AccessError FileTree :=
  match view.writable path with
  | .error error => .error error
  | .ok existing =>
      let scratch := path.directory.absolute view.cwd
      let scratchFile := (scratch.add temporary).render
      match checkScratch view.tree view.cwd scratch with
      | .error obstacle => .error (.unwritten path.render ⟨obstacle, scratchFile, none⟩)
      | .ok _ =>
          match checkDirectory view.tree view.cwd path.directory with
          | .error obstacle =>
              .error (.unwritten path.render ⟨obstacle, scratchFile, some path.render⟩)
          | .ok directory =>
              let place := existing.getD (directory ++ path.names.getLast?.toList)
              .ok (view.tree.put place (.file (Utf8.encode contents)))

end FileView

end SeedCatalog
