import SeedCatalog.Proofs.Config.Walk

/-!
# The nearest section for settings

The nearest section for settings decides alone: it gives the settings or an error,
whatever else stands in the tree, as long as the search comes to it.  Without such
a section the settings have their defaults.  The search does not come to the
nearest section when it is refused before, as at a path that is too long to be
looked up.
-/

namespace SeedCatalog.Settings

variable {room : Nat}

/-- The first section for settings in the files of a directory: that of the project comes before
the one that is there for settings only. -/
def sectionAt? (room : Nat) (tree : FileTree) (directory : Place) : Option SettingsSection :=
  let project := directory ++ ["pyproject.toml".toList]
  let own := directory ++ [".extract-sql.toml".toList]
  (sectionIn? room tree (project, [["tool".toList, "extract-sql".toList]])).or
    (sectionIn? room tree
      (own, [["extract-sql".toList], ["tool".toList, "extract-sql".toList]]))

/-- The first section for settings in the nearest directory that has one. -/
def nearest? (room : Nat) (view : FileView) (directory : Path) : Option SettingsSection :=
  (Path.upward (directory.place view.cwd)).findSome? (sectionAt? room view.tree)

theorem sectionAt?_eq (tree : FileTree) (directory : Place) :
    sectionAt? room tree directory =
      (sources.map fun (name, paths) => (directory ++ [name], paths)).findSome?
        (sectionIn? room tree) := by
  simp only [sources, sectionAt?, List.map_cons, List.map_nil, List.findSome?_cons,
    List.findSome?_nil]
  cases sectionIn? room tree (directory ++ ["pyproject.toml".toList], _) with
  | some found => rfl
  | none => cases sectionIn? room tree (directory ++ [".extract-sql.toml".toList], _) <;> rfl

theorem nearest?_eq (view : FileView) (directory : Path) :
    nearest? room view directory =
      (candidates (directory.place view.cwd)).findSome? (sectionIn? room view.tree) := by
  rw [nearest?, candidates]
  induction Path.upward (directory.place view.cwd) with
  | nil => rfl
  | cons above further ih =>
      rw [List.findSome?_cons, List.flatMap_cons, List.findSome?_append, ← sectionAt?_eq, ← ih]
      cases sectionAt? room view.tree above <;> rfl

/-- What a search gives whose nearest section decides: what the section gives, or the defaults. -/
def decided (nearest : Option SettingsSection) : Except LoadError Settings :=
  nearest.elim (.ok {}) SettingsSection.settings

/-- The search for settings can be carried out: the path can be looked up, and no file that the
search comes to is refused. -/
def IsSearchable (room : Nat) (view : FileView) (directory : Path) : Prop :=
  directory.hasNul = false ∧ IsUnrefused room view.tree (candidates (directory.place view.cwd))

instance (view : FileView) (directory : Path) : Decidable (IsSearchable room view directory) :=
  inferInstanceAs (Decidable (_ ∧ _))

theorem IsSearchable.load_eq {view : FileView} {directory : Path}
    (searchable : IsSearchable room view directory) :
    load room view directory = decided (nearest? room view directory) := by
  rcases searchable with ⟨noNul, unrefused⟩
  rw [Settings.load_eq, noNul, if_neg Bool.false_ne_true, unrefused.inCandidates_eq,
    ← nearest?_eq]
  cases nearest? room view directory with
  | none => rfl
  | some found => cases h : found.settings <;> simp [decided, Except.map, h]

/-- A search that cannot be carried out fails, and no section is at fault for it. -/
theorem exists_load_eq_error {view : FileView} {directory : Path}
    (refused : ¬IsSearchable room view directory) :
    ∃ error, load room view directory = .error error ∧
      ∀ path file, error ≠ .badSection path file := by
  rw [Settings.load_eq]
  cases nul : directory.hasNul with
  | true => exact ⟨.nulInPath, rfl, nofun⟩
  | false =>
      rw [IsSearchable, not_and] at refused
      rcases exists_inCandidates_eq_error (refused nul) with ⟨file, error, -, refusal, failed⟩
      rw [failed]
      exact ⟨error, rfl, refusal?_ne_badSection refusal⟩

theorem eq_badSection_of_decided {nearest : Option SettingsSection} {error : LoadError}
    (failed : decided nearest = .error error) : ∃ path file, error = .badSection path file := by
  cases nearest with
  | none => contradiction
  | some found => exact ⟨_, _, SettingsSection.eq_badSection failed⟩

/-- A search that can be carried out fails for a faulty section only, and any other for another
reason. -/
theorem isSearchable_iff_badSection {view : FileView} {directory : Path} :
    IsSearchable room view directory ↔
      ∀ error, load room view directory = .error error →
        ∃ path file, error = .badSection path file := by
  constructor
  · intro searchable error failed
    rw [searchable.load_eq] at failed
    exact eq_badSection_of_decided failed
  · intro sections
    by_contra refused
    rcases exists_load_eq_error refused with ⟨error, failed, noSection⟩
    rcases sections error failed with ⟨path, file, faulty⟩
    exact noSection path file faulty

/-- The path can be looked up: no name in it holds a character that no file name can hold, and no
file that the search comes to has too long a name or too long a path. -/
def CanBeLookedUp (room : Nat) (view : FileView) (directory : Path) : Prop :=
  directory.hasNul = false ∧
    ∀ file, Reaches room view.tree (candidates (directory.place view.cwd)) file →
      view.tree.find [] (.ofPlace file.1) ≠ .error .nameTooLong

/-- Every file that may hold settings is text, and a document or malformed. -/
def HoldsText (room : Nat) (view : FileView) (directory : Path) : Prop :=
  ∀ file ∈ candidates (directory.place view.cwd), ∀ found ∈ fileAt? view.tree file.1,
    contentRefusal? room found.2 = none

instance (view : FileView) (directory : Path) : Decidable (HoldsText room view directory) :=
  inferInstanceAs (Decidable (∀ file ∈ candidates (directory.place view.cwd), _))

/-- Where all is text, only a path that cannot be looked up refuses the search. -/
theorem HoldsText.isSearchable_iff {view : FileView} {directory : Path}
    (text : HoldsText room view directory) :
    IsSearchable room view directory ↔ CanBeLookedUp room view directory := by
  rw [IsSearchable, CanBeLookedUp]
  apply and_congr_right
  intro _
  apply forall₂_congr
  intro file reaches
  rw [refusal?]
  split
  · exact iff_of_false (Option.some_ne_none _) (not_not_intro ‹_›)
  · rename_i short
    apply iff_of_true _ short
    rw [Option.bind_eq_none_iff]
    exact text file reaches.mem

/-- The nearest section for settings decides exactly when the search can be carried out, whatever
else stands in the tree.  The search ends at the root. -/
theorem load_nearest (room : Nat) (view : FileView) (directory : Path) :
    (load room view directory = decided (nearest? room view directory) ↔
        IsSearchable room view directory) ∧
      (HoldsText room view directory →
        (IsSearchable room view directory ↔ CanBeLookedUp room view directory)) ∧
      (∀ view' directory', IsSearchable room view directory → IsSearchable room view' directory' →
        nearest? room view directory = nearest? room view' directory' →
          load room view directory = load room view' directory') ∧
      Path.upward (directory.place view.cwd) = (directory.place view.cwd).inits.reverse := by
  refine ⟨⟨?_, IsSearchable.load_eq⟩, HoldsText.isSearchable_iff, ?_, Path.upward_eq _⟩
  · intro same
    rw [isSearchable_iff_badSection]
    intro error failed
    exact eq_badSection_of_decided (same.symm.trans failed)
  · intro view' directory' searchable searchable' same
    rw [searchable.load_eq, searchable'.load_eq, same]

/-- The settings of a directory come from the directory above it, and neither a malformed file
below nor a section further above changes them. -/
theorem load_nearest_above :
    let near : Place × Entry := (["a".toList, "pyproject.toml".toList],
      .file (Utf8.encode "[tool.extract-sql]\ndelimiter = \"|\"\n".toList))
    let malformed : Place × Entry := (["a".toList, "b".toList, ".extract-sql.toml".toList],
      .file (Utf8.encode "[extract-sql".toList))
    let far : Place × Entry := (["pyproject.toml".toList],
      .file (Utf8.encode "tool.extract-sql = false".toList))
    let view (files : List (Place × Entry)) : FileView :=
      ⟨files.foldl (fun tree file => tree.plant file.1 file.2) .empty, [], []⟩
    let directory := Path.ofText "a/b".toList
    let room := Toml.fullRoom
    CanBeLookedUp room (view [near, malformed, far]) directory ∧
      load room (view [near, malformed, far]) directory = load room (view [near]) directory ∧
      load room (view [near]) directory = .ok { delimiter := .string ['|'] } := by
  intro near malformed far view directory room
  have searchable : IsSearchable room (view [near, malformed, far]) directory := by decide +kernel
  rcases load_nearest room (view [near, malformed, far]) directory with ⟨-, text, unchanged, -⟩
  refine ⟨?_, ?_, ?_⟩
  · exact (text (by decide +kernel)).1 searchable
  · exact unchanged (view [near]) directory searchable (by decide +kernel) (by decide +kernel)
  · decide +kernel

/-- In a directory with too long a name no settings are found: the search is refused there, although
the only file that may hold settings, at the root, has a section for them. -/
theorem longName_refuses_search :
    let view : FileView :=
      ⟨FileTree.empty.plant ["pyproject.toml".toList]
        (.file (Utf8.encode "[tool.extract-sql]\ndelimiter = \"|\"\n".toList)), [], []⟩
    let directory : Path := ⟨.workingDirectory, [List.replicate 256 'n']⟩
    let room := Toml.fullRoom
    HoldsText room view directory ∧
    decided (nearest? room view directory) = .ok { delimiter := .string ['|'] } ∧
    load room view directory = .error (.inaccessible ⟨.nameTooLong,
      ['/'] ++ List.replicate 256 'n' ++ "/pyproject.toml".toList, none⟩) := by
  decide +kernel

end SeedCatalog.Settings
