import SeedCatalog.Files.Access

/-!
# Replacing a file

A file is written in steps.  An empty temporary file is made in the directory of the file, the lines
are put into it one after the other, it is moved to the path, and what is left of it is removed,
also after a failure.
-/

namespace SeedCatalog

namespace FileTree

/-- The place that a path names, whether or not there is a file.  The names before the last one have
to lead to a directory. -/
def locate (tree : FileTree) (cwd : Place) (path : Path) : Except Obstacle Place :=
  if pathLengthLimit ≤ (Utf8.encode path.render).length then .error .nameTooLong
  else
    match tree.follow (path.start cwd) path.directory.names with
    | .error obstacle => .error obstacle
    | .ok (_, .file _) => .error .notDirectory
    | .ok (directory, .directory) =>
        match path.names.getLast? with
        | none => .error .isDirectory
        | some name =>
            if name = Path.up then .error .isDirectory
            else if maxNameLength < (Utf8.encode name).length then .error .nameTooLong
            else .ok (directory ++ [name])

/-- Make an empty file at a path that leads to nothing yet, and say at which place it is. -/
def create (tree : FileTree) (cwd : Place) (path : Path) : Except Obstacle (Place × FileTree) := do
  let place ← tree.locate cwd path
  return (place, tree.put place (.file []))

/-- Put bytes behind those of a file. -/
def append (tree : FileTree) (place : Place) (bytes : Bytes) : FileTree :=
  match tree.get? place with
  | some (.file before) => tree.put place (.file (before ++ bytes))
  | _ => tree

/-- Move a file to a path.  A file that is there is replaced, a directory is not. -/
def move (tree : FileTree) (cwd : Place) (source target : Path) : Except Obstacle FileTree := do
  let origin ← tree.locate cwd source
  let place ← tree.locate cwd target
  match tree.get? origin, tree.get? place with
  | none, _ => .error .missing
  | some .directory, _ => .error .isDirectory
  | some (.file _), some .directory => .error .isDirectory
  | some (.file bytes), _ => .ok ((tree.without [origin]).put place (.file bytes))

/-- Remove the file at a path, if there is one. -/
def remove (tree : FileTree) (cwd : Place) (path : Path) : FileTree :=
  match tree.locate cwd path with
  | .error _ => tree
  | .ok place =>
      match tree.get? place with
      | some (.file _) => tree.without [place]
      | _ => tree

end FileTree

namespace FileView

/-- The path of the temporary file, from the root: it lies in the directory that the names of the
path lead to. -/
def scratchFile (view : FileView) (temporary : Text) (path : Path) : Path :=
  (path.directory.absolute view.cwd).add temporary

/-- Write lines to a file by way of a temporary file with the given name, and say what the tree is
afterwards, whether or not they could be written. -/
def replace (view : FileView) (temporary : Text) (path : Path) (lines : List Text) :
    FileTree × Except AccessError Unit :=
  let scratch := view.scratchFile temporary path
  match view.writable path with
  | .error error => (view.tree, .error error)
  | .ok _ =>
      match view.tree.create view.cwd scratch with
      | .error obstacle =>
          (view.tree, .error (.unwritten path.render ⟨obstacle, scratch.render, none⟩))
      | .ok (place, tree) =>
          let tree := lines.foldl (fun tree line => tree.append place (Utf8.encode line)) tree
          match tree.move view.cwd scratch path with
          | .error obstacle =>
              (tree.remove view.cwd scratch,
                .error (.unwritten path.render ⟨obstacle, scratch.render, some path.render⟩))
          | .ok tree => (tree.remove view.cwd scratch, .ok ())

end FileView

end SeedCatalog
