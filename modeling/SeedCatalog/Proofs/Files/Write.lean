import SeedCatalog.Proofs.Files.Tree
import SeedCatalog.Proofs.Text.Line

/-!
# Writing a file

A file can be written at a path without a character that no name can hold, if
the path leads to a file or to nothing, and the path of its directory to a
directory whose absolute path leaves room for a temporary file.  What is written is the whole
contents of that file, and nothing else in the tree changes.
-/

namespace SeedCatalog

/-- A character that no name can hold is in no text that stands for a path without it. -/
theorem Path.contains_nul_eq_false {text : Text}
    (noNul : (Path.ofText text).hasNul = false) :
    text.contains (Char.ofNat 0) = false := by
  by_contra nul
  simp only [Bool.not_eq_false, List.contains_iff_mem] at nul
  have kept : Char.ofNat 0 ∈ (Text.splitOn ['/'] text).flatten := by
    rw [Text.flatten_splitOn, List.mem_filter]
    exact ⟨nul, by decide⟩
  obtain ⟨piece, among, mem⟩ := List.mem_flatten.1 kept
  have name : piece ≠ [] ∧ piece ≠ ['.'] := by
    constructor <;> rintro rfl <;> revert mem <;> decide
  have held : (Path.ofText text).hasNul = true := by
    rw [Path.hasNul, List.any_eq_true]
    exact ⟨piece, List.mem_filter.2 ⟨among, by simpa using name⟩, by simpa using mem⟩
  rw [noNul] at held
  contradiction

namespace FileView

variable {view : FileView} {temporary : Text} {path : Path} {contents : Text} {tree : FileTree}

/-- A file can be written at a path. -/
structure Writable (view : FileView) (path : Path) : Prop where
  noNul : path.hasNul = false
  free : view.find path = .error .missing ∨
    ∃ place bytes, view.find path = .ok (place, .file bytes)
  directory : ∃ place, view.find path.directory = .ok (place, .directory)
  short : (Utf8.encode (path.directory.absolute view.cwd).render).length + scratchLength <
    FileTree.pathLengthLimit

/-- The path leads to a file with the bytes, and all other places are as they were in the view. -/
def HoldsAt (view : FileView) (tree : FileTree) (path : Path) (bytes : Bytes) : Prop :=
  ∃ place, tree.find view.cwd path = .ok (place, .file bytes) ∧
    ∀ other, other ≠ place → tree.get? other = view.tree.get? other

theorem writable_eq_ok_iff {existing : Option Place} :
    view.writable path = .ok existing ↔
      path.hasNul = false ∧
        (view.find path = .error .missing ∧ existing = none ∨
          ∃ place bytes, view.find path = .ok (place, .file bytes) ∧ existing = some place) := by
  rw [writable]
  split
  · rename_i nul
    simp [nul]
  · rename_i noNul
    cases found : view.find path with
    | error obstacle => cases obstacle <;> simp [noNul, eq_comm]
    | ok there =>
        obtain ⟨place, entry⟩ := there
        cases entry <;> simp [noNul, eq_comm]

theorem checkDirectory_eq_ok_iff {place : Place} :
    checkDirectory view.tree view.cwd path = .ok place ↔
      view.find path = .ok (place, .directory) := by
  rw [checkDirectory, find]
  cases view.tree.find view.cwd path with
  | error obstacle => simp
  | ok there =>
      obtain ⟨place, entry⟩ := there
      cases entry <;> simp

theorem checkScratch_eq_ok_iff {place : Place} :
    checkScratch view.tree view.cwd path = .ok place ↔
      (Utf8.encode path.render).length + scratchLength < FileTree.pathLengthLimit ∧
        view.find path = .ok (place, .directory) := by
  rw [checkScratch, ← checkDirectory_eq_ok_iff]
  split
  · rename_i long
    simp [Nat.not_lt.2 long]
  · rename_i short
    simp [Nat.lt_of_not_le short]

/-- Writing succeeds exactly if the path is free, the directory of its temporary file is one, and
its own directory is one, too. -/
theorem write_eq_ok_iff :
    view.write temporary path contents = .ok tree ↔
      ∃ existing scratch directory, view.writable path = .ok existing ∧
        ((Utf8.encode (path.directory.absolute view.cwd).render).length + scratchLength <
            FileTree.pathLengthLimit ∧
          view.find (path.directory.absolute view.cwd) = .ok (scratch, .directory)) ∧
        view.find path.directory = .ok (directory, .directory) ∧
        tree = view.tree.put (existing.getD (directory ++ path.names.getLast?.toList))
          (.file (Utf8.encode contents)) := by
  simp only [write, ← checkScratch_eq_ok_iff]
  simp only [← checkDirectory_eq_ok_iff]
  cases view.writable path with
  | error error => simp
  | ok existing =>
      cases checkScratch view.tree view.cwd (path.directory.absolute view.cwd) with
      | error obstacle => simp
      | ok scratch =>
          cases checkDirectory view.tree view.cwd path.directory <;> simp [eq_comm]

/-- A file can be written exactly where the path is writable. -/
theorem exists_write_iff (wellFormed : view.WellFormed) :
    (∃ tree, view.write temporary path contents = .ok tree) ↔ view.Writable path := by
  simp only [write_eq_ok_iff, writable_eq_ok_iff]
  constructor
  · rintro ⟨tree, existing, scratch, directory, ⟨noNul, free⟩, ⟨short, -⟩, found, -⟩
    refine ⟨noNul, ?_, ⟨directory, found⟩, short⟩
    rcases free with ⟨missing, -⟩ | ⟨place, bytes, file, -⟩
    · exact .inl missing
    · exact .inr ⟨place, bytes, file⟩
  · rintro ⟨noNul, free, ⟨directory, found⟩, short⟩
    have absolute := wellFormed.find_absolute found (Nat.lt_of_add_right_lt short)
    rcases free with missing | ⟨place, bytes, file⟩
    · exact ⟨_, none, directory, directory, ⟨noNul, .inl ⟨missing, rfl⟩⟩, ⟨short, absolute⟩, found,
        rfl⟩
    · exact ⟨_, some place, directory, directory, ⟨noNul, .inr ⟨place, bytes, file, rfl⟩⟩,
        ⟨short, absolute⟩, found, rfl⟩

theorem find_eq_missing_iff :
    view.find path = .error .missing ↔
      (Utf8.encode path.render).length < FileTree.pathLengthLimit ∧
        view.tree.follow (path.start view.cwd) path.names = .error .missing := by
  rw [find, FileTree.find]
  split
  · rename_i long
    simp [Nat.not_lt.2 long]
  · rename_i short
    simp [Nat.lt_of_not_le short]

/-- Where a file can be written and the names before the last one lead to a directory, the last name
is that of a file or of nothing there. -/
theorem exists_name_of_writable (wellFormed : view.WellFormed) {existing : Option Place}
    {directory : Place} (writable : view.writable path = .ok existing)
    (followed : view.tree.follow (path.start view.cwd) path.directory.names =
      .ok (directory, .directory)) :
    ∃ name, path.names = path.directory.names ++ [name] ∧ name ≠ Path.up ∧
      (Utf8.encode name).length ≤ FileTree.maxNameLength ∧
      (view.tree.get? (directory ++ [name]) = none ∧ existing = none ∨
        ∃ bytes, view.tree.get? (directory ++ [name]) = some (.file bytes) ∧
          existing = some (directory ++ [name])) := by
  have free : view.tree.follow (path.start view.cwd) path.names = .error .missing ∧
      existing = none ∨ ∃ place bytes,
        view.tree.follow (path.start view.cwd) path.names = .ok (place, .file bytes) ∧
          existing = some place := by
    rcases (writable_eq_ok_iff.1 writable).2 with ⟨missing, none⟩ | ⟨place, bytes, file, some⟩
    · exact .inl ⟨(find_eq_missing_iff.1 missing).2, none⟩
    · exact .inr ⟨place, bytes, (find_eq_ok_iff.1 file).2, some⟩
  have there := (FileTree.follow_eq_ok followed).2
  have filled : path.names ≠ [] := by
    intro none
    have same : path.directory.names = path.names := by rw [Path.directory, none]; rfl
    rw [← same, followed] at free
    simp at free
  have cut := (List.dropLast_concat_getLast filled).symm
  generalize path.names.getLast filled = name at cut
  have behind : view.tree.follow (path.start view.cwd) path.names =
      view.tree.follow directory [name] := by
    rw [cut]
    exact FileTree.follow_append followed [name]
  rw [behind] at free
  by_cases short : name ≠ Path.up → (Utf8.encode name).length ≤ FileTree.maxNameLength
  · rw [FileTree.follow_cons there short, FileTree.step, FileTree.follow] at free
    by_cases up : name = Path.up
    · -- Above a directory is a directory, where no file can be written.
      rw [if_pos up, wellFormed.tree.above _ _ there] at free
      simp at free
    · rw [if_neg up] at free
      refine ⟨name, cut, up, short up, ?_⟩
      rcases entry : view.tree.get? (directory ++ [name]) with _ | bytes | _
      · simpa [entry] using free
      · simpa [entry, eq_comm] using free
      · simp [entry] at free
  · rw [FileTree.follow_cons_of_long there short] at free
    simp at free

/-- What is written is the contents of the file that the path leads to, and nothing else changes. -/
theorem holdsAt_of_write (wellFormed : view.WellFormed)
    (written : view.write temporary path contents = .ok tree) :
    view.HoldsAt tree path (Utf8.encode contents) := by
  obtain ⟨existing, scratch, directory, writable, -, found, rfl⟩ := write_eq_ok_iff.1 written
  obtain ⟨-, free⟩ := writable_eq_ok_iff.1 writable
  have others {target : Place} (filled : target ≠ []) (other : Place) (apart : other ≠ target) :
      (view.tree.put target (.file (Utf8.encode contents))).get? other =
        view.tree.get? other := by
    rw [FileTree.get?_put _ _ _ _ filled, if_neg (Ne.symm apart)]
  rcases free with ⟨missing, rfl⟩ | ⟨place, bytes, file, rfl⟩
  · obtain ⟨-, followed⟩ := find_eq_ok_iff.1 found
    obtain ⟨name, cut, down, short, nothing⟩ := exists_name_of_writable wellFormed writable followed
    have target : directory ++ path.names.getLast?.toList = directory ++ [name] := by
      rw [cut, List.getLast?_concat, Option.toList_some]
    have free : view.tree.get? (directory ++ [name]) ≠ some .directory := by
      rcases nothing with ⟨nothing, -⟩ | ⟨bytes, -, some⟩
      · simp [nothing]
      · contradiction
    obtain ⟨within, -⟩ := find_eq_missing_iff.1 missing
    have followed := FileTree.follow_put followed (.file (Utf8.encode contents)) free
    rw [if_neg (by simp)] at followed
    have there := (FileTree.follow_eq_ok followed).2
    rw [Option.getD_none, target]
    refine ⟨directory ++ [name], ?_, others (FileTree.ne_nil_of_ne_directory free)⟩
    rw [FileTree.find, if_neg (Nat.not_le.2 within), cut]
    refine (FileTree.follow_append followed [name]).trans ?_
    rw [FileTree.follow_cons there fun _ => short, FileTree.step, if_neg down,
      FileTree.follow_nil_eq_ok_iff,
      FileTree.get?_put _ _ _ _ (FileTree.ne_nil_of_ne_directory free), if_pos rfl]
    exact ⟨rfl, rfl⟩
  · obtain ⟨within, followed⟩ := find_eq_ok_iff.1 file
    have there := (FileTree.follow_eq_ok followed).2
    have free : view.tree.get? place ≠ some .directory := by simp [there]
    refine ⟨place, ?_, others (FileTree.ne_nil_of_ne_directory free)⟩
    rw [FileTree.find, if_neg (Nat.not_le.2 within), Option.getD_some]
    have followed := FileTree.follow_put followed (.file (Utf8.encode contents)) free
    rwa [if_pos rfl] at followed

end FileView

end SeedCatalog
