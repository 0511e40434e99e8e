import SeedCatalog.Text.Basic

/-!
# Paths

A path leads through a file tree from name to name, either from the root or from the working
directory.  It is written with a slash between each two names.  A single dot leads nowhere and is
not kept; two dots lead to the directory above and are kept, because what they mean depends on the
tree.  Several slashes are as good as one, but exactly two at the beginning are kept.
-/

namespace SeedCatalog

/-- The names that lead from the root to a file or a directory. -/
abbrev Place := List Text

/-- Where a path starts. -/
inductive Anchor where
  | workingDirectory
  | root
  /-- The root, written with two slashes. -/
  | doubleRoot
  deriving DecidableEq, Repr

namespace Anchor

/-- Whether a path with this anchor starts from the root. -/
def isRoot (anchor : Anchor) : Bool :=
  anchor ≠ .workingDirectory

/-- The anchor as it is written. -/
def render : Anchor → Text
  | .workingDirectory => []
  | .root => ['/']
  | .doubleRoot => ['/', '/']

/-- The anchor that a text begins with. -/
def ofText : Text → Anchor
  | '/' :: '/' :: '/' :: _ => .root
  | '/' :: '/' :: _ => .doubleRoot
  | '/' :: _ => .root
  | _ => .workingDirectory

end Anchor

/-- A way through a file tree. -/
structure Path where
  anchor : Anchor
  names : List Text
  deriving DecidableEq, Repr

namespace Path

/-- The name that leads to the directory above. -/
def up : Text := ['.', '.']

/-- The path that a text stands for. -/
def ofText (text : Text) : Path where
  anchor := .ofText text
  names := (Text.splitOn ['/'] text).filter fun name => name ≠ [] ∧ name ≠ ['.']

/-- The path from the root to a place. -/
def ofPlace (place : Place) : Path :=
  ⟨.root, place⟩

/-- The path from the working directory to itself. -/
def here : Path :=
  ⟨.workingDirectory, []⟩

/-- A path is written with slashes; the path that leads nowhere is a single dot. -/
def render (path : Path) : Text :=
  if path = here then ['.'] else path.anchor.render ++ Text.join ['/'] path.names

/-- The path without its last name. -/
def directory (path : Path) : Path :=
  { path with names := path.names.dropLast }

/-- The path with one more name. -/
def add (path : Path) (name : Text) : Path :=
  { path with names := path.names ++ [name] }

/-- Whether a name of the path holds a character that no file name can hold. -/
def hasNul (path : Path) : Bool :=
  path.names.any fun name => name.contains (Char.ofNat 0)

/-- The place that a path starts from. -/
def start (path : Path) (cwd : Place) : Place :=
  if path.anchor.isRoot then [] else cwd

/-- The place that names lead to when every name is taken to be a directory: two dots undo the name
before them. -/
def follow (place : Place) : List Text → Place
  | [] => place
  | name :: names => follow (if name = up then place.dropLast else place ++ [name]) names

/-- The place that a path leads to by its names alone. -/
def place (path : Path) (cwd : Place) : Place :=
  follow (path.start cwd) path.names

/-- The path from the root to the place that a path leads to by its names alone. -/
def absolute (path : Path) (cwd : Place) : Path where
  anchor := if path.anchor.isRoot then path.anchor else .root
  names := path.place cwd

/-- The place of a directory and of all directories above it, given the names of the directory from
the last to the first. -/
def upwardFrom : (reversed : List Text) → List Place
  | [] => [[]]
  | name :: names => (name :: names).reverse :: upwardFrom names

/-- A directory and the directories above it, up to the root. -/
def upward (place : Place) : List Place :=
  upwardFrom place.reverse

end Path

end SeedCatalog
