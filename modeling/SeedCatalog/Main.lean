import SeedCatalog.CommandLine.Console
import SeedCatalog.CommandLine.Run

/-!
# The program

The program looks at the places of the disk that a run can ask about, lets the run take place on
what it saw there, and then does what the run says: it prints, and it writes the file that has
changed.
-/

namespace SeedCatalog.Disk

/-- The path of a place on the disk. -/
def pathOf (place : Place) : String :=
  String.ofList (Path.ofPlace place).render

/-- What is at a place whose directory is there. -/
def look (place : Place) : IO (Option Entry) := do
  try
    let bytes ← IO.FS.readBinFile (pathOf place)
    return some (.file bytes.toList)
  catch error =>
    match error with
    | .inappropriateType .. => return some .directory
    | _ => return none

/-- Take what is at a place into a tree, unless it is there already. -/
def record (tree : FileTree) (place : Place) : IO FileTree := do
  match tree.get? place, tree.get? place.dropLast with
  | none, some .directory =>
      match ← look place with
      | some entry => return tree.put place entry
      | none => return tree
  | _, _ => return tree

/-- The places that names lead to, one after the other. -/
def places (place : Place) : List Text → List Place
  | [] => [place]
  | name :: names =>
      place :: places (if name = Path.up then place.dropLast else place ++ [name]) names

/-- The places that a run can ask about. -/
def placesFor (view : FileView) (request : CommandLine.Request) : List Place :=
  let texts := request.output.toList ++ request.inputs
  let paths := texts.map Path.ofText ++ texts.filterMap fun text =>
    view.expandHome (Path.ofText text)
  let settings := (Path.upward view.cwd).flatMap fun directory =>
    Settings.sources.map fun source => directory ++ [source.1]
  places [] view.cwd ++ settings ++
    paths.flatMap fun path => places (path.start view.cwd) path.names

/-- All bytes of a stream, behind those that were read before. -/
partial def readAll (stream : IO.FS.Stream) (bytes : ByteArray) : IO Bytes := do
  let block ← stream.read 65536
  if block.isEmpty then return bytes.toList
  readAll stream (bytes ++ block)

/-- Write the files that differ from what they were before, each by way of a temporary file. -/
def writeChanges (temporary : Text) (before after : FileTree) : IO Unit := do
  for (place, entry) in after.entries.entries do
    match entry with
    | .directory => pure ()
    | .file bytes =>
        if before.get? place ≠ some entry then
          let scratch := pathOf (place.dropLast ++ [temporary])
          IO.FS.writeBinFile scratch (ByteArray.mk bytes.toArray)
          IO.FS.rename scratch (pathOf place)

/-- The place of the directory that a path of the system names. -/
def placeOf (path : String) : Place :=
  (Path.ofText path.toList).place []

/-- The console that the program was called from.  The standard input is set to UTF-8, and keeps its
carriage returns. -/
def console : IO CommandLine.Console := do
  let output ← (← IO.getStdout).isTty
  let errors ← (← IO.getStderr).isTty
  return {
    isTerminal := fun
      | .output => output
      | .errors => errors
    keepsReturns := true }

end SeedCatalog.Disk

open SeedCatalog in
/-- Run the program. -/
def main (arguments : List String) : IO UInt32 := do
  let arguments := arguments.map String.toList
  let cwd := Disk.placeOf (← IO.currentDir).toString
  let home := Disk.placeOf ((← IO.getEnv "HOME").getD "/")
  let mut view : FileView := { tree := .empty, cwd, home }
  let mut input : Bytes := []
  if let .ok options := CommandLine.Options.ofArguments arguments then
    for place in Disk.placesFor view options.toRequest do
      view := { view with tree := ← Disk.record view.tree place }
    if options.sources.contains CommandLine.standardInput && options.notice.isNone then
      input ← Disk.readAll (← IO.getStdin) .empty
  let temporary := s!"tmp{← IO.rand 0 99999999}".toList
  let around : CommandLine.Surroundings := {
    view
    input
    sizeLimit := (← IO.getEnv sizeLimitVariable).map String.toList
    temporary }
  let kit := (← Disk.console).toolkit
  let outcome := CommandLine.run kit around arguments
  Disk.writeChanges temporary view.tree outcome.tree
  (← IO.getStderr).putStr (String.ofList (outcome.errors kit))
  (← IO.getStdout).putStr (String.ofList outcome.output)
  return (outcome.exitCode kit).toUInt32
