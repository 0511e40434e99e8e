import SeedCatalog.Encoding.Utf8
import SeedCatalog.Files.Path
import SeedCatalog.OrderedMap
import SeedCatalog.Text.Quoted

/-!
# File trees

A file tree says what is at each place: a file with its bytes, a directory, or nothing.  There is
always a directory at the root.  A path is followed name by name, and every name but the last one
has to be that of a directory, even when two dots come behind it.
-/

namespace SeedCatalog

/-- What is at a place of a file tree. -/
inductive Entry where
  | file (bytes : Bytes)
  | directory
  deriving DecidableEq, Repr

/-- What is at each place but the root. -/
structure FileTree where
  entries : OrderedMap Place Entry
  deriving DecidableEq

/-- What keeps a path from being followed, or a file from being opened. -/
inductive Obstacle where
  | missing
  | notDirectory
  | isDirectory
  | nameTooLong
  deriving DecidableEq, Repr

/-- The number of an obstacle. -/
def Obstacle.number : Obstacle → Nat
  | .missing => 2
  | .notDirectory => 20
  | .isDirectory => 21
  | .nameTooLong => 36

/-- An obstacle in words. -/
def Obstacle.words : Obstacle → String
  | .missing => "No such file or directory"
  | .notDirectory => "Not a directory"
  | .isDirectory => "Is a directory"
  | .nameTooLong => "File name too long"

/-- A failed access to a file tree. -/
structure FileError where
  obstacle : Obstacle
  /-- The path that was to be followed. -/
  path : Text
  /-- The path that the file was to be moved to. -/
  target : Option Text := none
  deriving DecidableEq, Repr

/-- A failed access in words. -/
def FileError.message (error : FileError) : Text :=
  s!"[Errno {error.obstacle.number}] {error.obstacle.words}: ".toList ++ error.path.quoted ++
    (error.target.map fun target => " -> ".toList ++ target.quoted).getD []

namespace FileTree

/-- The tree with nothing but the root. -/
def empty : FileTree :=
  ⟨.empty⟩

/-- What is at a place. -/
def get? (tree : FileTree) (place : Place) : Option Entry :=
  if place = [] then some .directory else tree.entries.get? place

/-- Put a file or a directory at a place. -/
def put (tree : FileTree) (place : Place) (entry : Entry) : FileTree :=
  ⟨tree.entries.insert place entry⟩

/-- The tree without what is at some places. -/
def without (tree : FileTree) (removed : List Place) : FileTree :=
  ⟨tree.entries.filterKeys fun place => !removed.contains place⟩

/-- Make the directories along names, one below the other, where there is nothing yet. -/
def makeDirectories (tree : FileTree) (place : Place) : List Text → FileTree
  | [] => tree
  | name :: names =>
      let place := place ++ [name]
      let tree := if (tree.get? place).isSome then tree else tree.put place .directory
      tree.makeDirectories place names

/-- Put a file or a directory at a place, with the directories that lead to it. -/
def plant (tree : FileTree) (place : Place) (entry : Entry) : FileTree :=
  (tree.makeDirectories [] place.dropLast).put place entry

/-- The greatest number of bytes of a name. -/
def maxNameLength : Nat := 255

/-- The number of bytes that a path has to stay below. -/
def pathLengthLimit : Nat := 4096

/-- Follow names from a place, and say what is at the place they lead to. -/
def follow (tree : FileTree) (place : Place) : List Text → Except Obstacle (Place × Entry)
  | [] =>
      match tree.get? place with
      | none => .error .missing
      | some entry => .ok (place, entry)
  | name :: names =>
      match tree.get? place with
      | none => .error .missing
      | some (.file _) => .error .notDirectory
      | some .directory =>
          if name = Path.up then tree.follow place.dropLast names
          else if maxNameLength < (Utf8.encode name).length then .error .nameTooLong
          else tree.follow (place ++ [name]) names

/-- Follow a path from the working directory, and say what is at its end. -/
def find (tree : FileTree) (cwd : Place) (path : Path) : Except Obstacle (Place × Entry) :=
  if pathLengthLimit ≤ (Utf8.encode path.render).length then .error .nameTooLong
  else tree.follow (path.start cwd) path.names

theorem get?_put (tree : FileTree) (place other : Place) (entry : Entry) (h : place ≠ []) :
    (tree.put place entry).get? other =
      if place = other then some entry else tree.get? other := by
  by_cases ho : other = []
  · subst ho
    simp [get?, h]
  · simp [get?, put, ho]

end FileTree

end SeedCatalog
