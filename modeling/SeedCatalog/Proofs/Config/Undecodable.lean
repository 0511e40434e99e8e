import SeedCatalog.Proofs.Config.Nearest
import SeedCatalog.Proofs.Files.Tree

/-!
# Files that are no document

A file that is malformed is as good as none in the search for settings.  A file
whose bytes are no text is not, and neither is one with an integer of too many
digits or with values that are nested too deep: the search ends there with an
error of its own.
-/

namespace SeedCatalog.Settings

variable {room : Nat} {tree : FileTree} {files : List Candidate}

/-- The places of files that may hold settings and are no document. -/
def undecodable (room : Nat) (tree : FileTree) (files : List Candidate) : List Place :=
  files.filterMap fun file =>
    ((fileAt? tree file.1).filter fun found => (Toml.ofBytes? room found.2).isNone).map Prod.fst

theorem mem_undecodable_iff {place : Place} :
    place ∈ undecodable room tree files ↔
      ∃ file ∈ files, ∃ bytes, fileAt? tree file.1 = some (place, bytes) ∧
        Toml.ofBytes? room bytes = none := by
  simp [undecodable, Option.filter_eq_some_iff]

/-- What a directory looks like without the files that may hold settings for it and are no
document. -/
def withoutUndecodable (room : Nat) (view : FileView) (directory : Path) : FileView :=
  { view with
    tree :=
      view.tree.without (undecodable room view.tree (candidates (directory.place view.cwd))) }

theorem fileAt?_eq_some_iff {file place : Place} {bytes : Bytes} :
    fileAt? tree file = some (place, bytes) ↔
      tree.find [] (.ofPlace file) = .ok (place, .file bytes) := by
  rw [fileAt?]
  split
  · simp [*]
  · rename_i other
    constructor
    · intro none
      contradiction
    · intro found
      exact absurd found (other _ _)

theorem get?_of_fileAt? {file place : Place} {bytes : Bytes}
    (found : fileAt? tree file = some (place, bytes)) : tree.get? place = some (.file bytes) := by
  rw [fileAt?_eq_some_iff, FileTree.find] at found
  split at found
  · contradiction
  · exact (FileTree.follow_eq_ok found).2

theorem exists_get?_of_mem_undecodable :
    ∀ place ∈ undecodable room tree files, ∃ bytes, tree.get? place = some (.file bytes) := by
  intro place mem
  rcases mem_undecodable_iff.1 mem with ⟨file, -, bytes, found, -⟩
  exact ⟨bytes, get?_of_fileAt? found⟩

/-- Of the files that may hold settings only documents are left. -/
theorem fileAt?_without {file : Candidate} (mem : file ∈ files) :
    fileAt? (tree.without (undecodable room tree files)) file.1 =
      (fileAt? tree file.1).filter fun found => (Toml.ofBytes? room found.2).isSome := by
  ext ⟨place, bytes⟩
  rw [Option.filter_eq_some_iff, fileAt?_eq_some_iff, fileAt?_eq_some_iff,
    FileTree.find_without_eq_ok_iff exists_get?_of_mem_undecodable]
  apply and_congr_right
  intro found
  rw [← fileAt?_eq_some_iff] at found
  rw [Option.isSome_iff_ne_none, Ne, not_iff_not, mem_undecodable_iff]
  constructor
  · rintro ⟨other, -, bytes', found', noDocument⟩
    have same := (get?_of_fileAt? found').symm.trans (get?_of_fileAt? found)
    cases same
    exact noDocument
  · intro noDocument
    exact ⟨file, mem, bytes, found, noDocument⟩

theorem sectionIn?_without {file : Candidate} (mem : file ∈ files) :
    sectionIn? room (tree.without (undecodable room tree files)) file =
      sectionIn? room tree file := by
  rw [sectionIn?, sectionIn?, fileAt?_without mem]
  cases fileAt? tree file.1 with
  | none => rfl
  | some found =>
      cases document : Toml.ofBytes? room found.2 <;> simp [Option.filter, document]

/-- Only a path that is too long is refused still. -/
theorem refusal?_without {file : Candidate} (mem : file ∈ files) :
    refusal? room (tree.without (undecodable room tree files)) file.1 =
      if tree.find [] (.ofPlace file.1) = .error .nameTooLong then
        some (.inaccessible ⟨.nameTooLong, (Path.ofPlace file.1).render, none⟩)
      else none := by
  simp only [refusal?,
    FileTree.find_without_eq_nameTooLong_iff exists_get?_of_mem_undecodable]
  congr 1
  rw [fileAt?_without mem, Option.bind_eq_none_iff]
  intro found kept
  rw [Option.filter_eq_some_iff] at kept
  by_contra refused
  rcases Option.ne_none_iff_exists'.1 refused with ⟨error, refused⟩
  rw [ofBytes?_eq_none refused] at kept
  cases kept.2

/-- A file gives the same as before, unless it was refused for what it holds. -/
theorem inFile_without {file : Candidate} (mem : file ∈ files)
    (sound : ∀ found ∈ fileAt? tree file.1, contentRefusal? room found.2 = none) :
    inFile room (tree.without (undecodable room tree files)) file.1 file.2 =
      inFile room tree file.1 file.2 := by
  rw [inFile_eq, inFile_eq, sectionIn?_without mem, refusal?_without mem, refusal?,
    Option.bind_eq_none_iff.2 sound]

/-- Without the files that are no document nothing is refused for what it holds. -/
theorem not_isContent_without {error : LoadError}
    (failed : inCandidates room (tree.without (undecodable room tree files)) files = .error error) :
    error.isContent = false := by
  by_cases unrefused : IsUnrefused room (tree.without (undecodable room tree files)) files
  · rw [unrefused.inCandidates_eq] at failed
    split at failed
    · contradiction
    · rename_i found _
      cases given : found.settings with
      | ok settings => simp [given, Except.map] at failed
      | error other =>
          rw [given] at failed
          cases failed
          rw [SettingsSection.eq_badSection given]
          rfl
  · rcases exists_inCandidates_eq_error unrefused with ⟨file, other, reaches, refusal, failed'⟩
    rw [refusal?_without reaches.mem] at refusal
    cases failed.symm.trans failed'
    split at refusal
    · cases refusal
      rfl
    · contradiction

/-- A file that the search comes to ends it when it is refused for what it holds. -/
theorem inCandidates_of_contentRefusal? {file : Candidate} {found : Place × Bytes}
    {error : LoadError} (reaches : Reaches room tree files file)
    (there : fileAt? tree file.1 = some found)
    (refused : contentRefusal? room found.2 = some error) :
    inCandidates room tree files = .error error := by
  have short : tree.find [] (.ofPlace file.1) ≠ .error .nameTooLong := by
    simp [fileAt?_eq_some_iff.1 there]
  have fails : inFile room tree file.1 file.2 = .error error := by
    rw [inFile_eq, refusal?, if_neg short, there, Option.bind_some, refused]
  rw [inCandidates_of_reaches reaches (by simp [fails]), fails]

/-- No file that the search comes to is refused for what it holds. -/
def IsSound (room : Nat) (tree : FileTree) (files : List Candidate) : Prop :=
  ∀ file, Reaches room tree files file →
    ∀ found ∈ fileAt? tree file.1, contentRefusal? room found.2 = none

theorem IsSound.inCandidates_without (sound : IsSound room tree files) :
    inCandidates room (tree.without (undecodable room tree files)) files =
      inCandidates room tree files := by
  apply inCandidates_congr
  intro file reaches
  exact inFile_without reaches.mem (sound file reaches)

/-- A refusal for what a file holds is gone with the files that are no document. -/
theorem exists_error_of_not_isSound (refused : ¬IsSound room tree files) :
    ∃ error, inCandidates room tree files = .error error ∧
      inCandidates room (tree.without (undecodable room tree files)) files ≠ .error error := by
  simp only [IsSound, not_forall] at refused
  rcases refused with ⟨file, reaches, found, there, refused⟩
  rcases Option.ne_none_iff_exists'.1 refused with ⟨error, refused⟩
  exists error
  constructor
  · exact inCandidates_of_contentRefusal? reaches there refused
  · intro left
    cases (isContent_of_contentRefusal? refused).symm.trans (not_isContent_without left)

/-- The search gives what it would give without the files that are no document exactly when it does
not come to a file that is refused for what it holds. -/
theorem load_withoutUndecodable (room : Nat) (view : FileView) (directory : Path) :
    (load room view directory = load room (withoutUndecodable room view directory) directory ↔
      directory.hasNul = true ∨ IsSound room view.tree (candidates (directory.place view.cwd))) ∧
      ((∀ error, load room view directory = .error error →
          ∃ path file, error = .badSection path file) ↔
        IsSearchable room view directory) := by
  constructor
  · rw [load_eq, load_eq]
    cases directory.hasNul with
    | true => exact iff_of_true rfl (.inl rfl)
    | false =>
        rw [if_neg Bool.false_ne_true, if_neg Bool.false_ne_true, or_iff_right (by decide)]
        constructor
        · intro same
          by_contra unsound
          rcases exists_error_of_not_isSound unsound with ⟨error, failed, other⟩
          rw [failed] at same
          cases left : inCandidates room (withoutUndecodable room view directory).tree
              (candidates (directory.place view.cwd)) with
          | error error' =>
              cases same.trans (congrArg _ left)
              exact other left
          | ok settings => cases same.trans (congrArg _ left)
        · intro sound
          exact (congrArg _ sound.inCandidates_without).symm
  · exact isSearchable_iff_badSection.symm

/-- A file whose bytes are no text ends the search with an error of its own, although the settings
would have their defaults without it. -/
theorem noText_ends_search :
    let view : FileView :=
      ⟨FileTree.empty.plant ["pyproject.toml".toList] (.file [0xFF]), [], []⟩
    let room := Toml.fullRoom
    load room view .here = .error (.undecodable ⟨.utf8 .invalidStart, [0xFF], 0⟩) ∧
    load room (withoutUndecodable room view .here) .here = .ok {} := by
  decide +kernel

end SeedCatalog.Settings
