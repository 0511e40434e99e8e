import Mathlib.Data.List.Induction
import SeedCatalog.Files.Access

/-!
# Following paths in a tree

In a tree as a file system keeps it, every file and every directory lies in a
directory.  There a path leads to the place that its names spell, with two dots
undoing the name before them, and the absolute path to a directory leads to it.
What is put where no directory is does not lead any path astray.
-/

namespace SeedCatalog

namespace OrderedMap

variable {α β : Type} [DecidableEq α]

theorem get?_filterKeys (keep : α → Bool) (map : OrderedMap α β) (key : α) :
    (map.filterKeys keep).get? key = if keep key then map.get? key else none := by
  simp only [get?, filterKeys]
  induction map.entries with
  | nil => simp [lookup]
  | cons entry rest ih =>
      by_cases same : entry.1 = key
      · cases kept : keep key <;> simp [lookup, same, kept, ih]
      · cases kept : keep entry.1 <;> simp [lookup, same, kept, ih]

end OrderedMap

namespace FileTree

variable {tree : FileTree}

/-- Every file and every directory lies in a directory, and has a name that can be followed. -/
structure WellFormed (tree : FileTree) : Prop where
  above : ∀ place entry, tree.get? place = some entry → tree.get? place.dropLast = some .directory
  named : ∀ place entry, tree.get? place = some entry →
    ∀ name ∈ place, name ≠ Path.up ∧ (Utf8.encode name).length ≤ maxNameLength

/-- Whether a tree is well-formed is seen from its entries. -/
theorem wellFormed_iff : tree.WellFormed ↔ ∀ entry ∈ tree.entries.entries,
    tree.get? entry.1.dropLast = some .directory ∧
      ∀ name ∈ entry.1, name ≠ Path.up ∧ (Utf8.encode name).length ≤ maxNameLength := by
  constructor
  · rintro ⟨above, named⟩ ⟨place, entry⟩ mem
    by_cases root : place = []
    · subst root
      exact ⟨rfl, by simp⟩
    · have found : tree.get? place = some entry := by
        rw [get?, if_neg root, ← OrderedMap.mem_entries_iff]
        exact mem
      exact ⟨above place entry found, named place entry found⟩
  · intro entries
    have found {place : Place} {entry : Entry} (found : tree.get? place = some entry) :
        place = [] ∨ (place, entry) ∈ tree.entries.entries := by
      rw [get?] at found
      split at found
      · exact .inl ‹_›
      · exact .inr (OrderedMap.mem_entries_iff.2 found)
    constructor
    · intro place entry there
      rcases found there with rfl | mem
      · rfl
      · exact (entries _ mem).1
    · intro place entry there
      rcases found there with rfl | mem
      · simp
      · exact (entries _ mem).2

instance : Decidable tree.WellFormed :=
  decidable_of_iff' _ wellFormed_iff

theorem ne_nil_of_ne_directory {place : Place} (free : tree.get? place ≠ some .directory) :
    place ≠ [] := by
  rintro rfl
  exact free rfl

/-- The places on the way to a file or a directory are directories. -/
theorem WellFormed.directory_of_append (wellFormed : tree.WellFormed) {place : Place}
    {names : List Text} {entry : Entry} (found : tree.get? (place ++ names) = some entry)
    (further : names ≠ []) : tree.get? place = some .directory := by
  induction names using List.reverseRecOn generalizing entry with
  | nil => contradiction
  | append_singleton names name ih =>
      have above := wellFormed.above _ _ found
      rw [← List.append_assoc, List.dropLast_concat] at above
      by_cases last : names = []
      · rwa [last, List.append_nil] at above
      · exact ih above last

/-! ## Following names -/

/-- The place that a name leads to from a place. -/
def step (place : Place) (name : Text) : Place :=
  if name = Path.up then place.dropLast else place ++ [name]

/-- From a directory a name that is not too long leads on. -/
theorem follow_cons {place : Place} {name : Text} (directory : tree.get? place = some .directory)
    (short : name ≠ Path.up → (Utf8.encode name).length ≤ maxNameLength) (names : List Text) :
    tree.follow place (name :: names) = tree.follow (step place name) names := by
  rw [follow, directory, step]
  by_cases up : name = Path.up
  · simp only [if_pos up]
  · simp only [if_neg up, if_neg (Nat.not_lt.2 (short up))]

/-- From a directory a name that is too long leads nowhere. -/
theorem follow_cons_of_long {place : Place} {name : Text}
    (directory : tree.get? place = some .directory)
    (long : ¬(name ≠ Path.up → (Utf8.encode name).length ≤ maxNameLength)) (names : List Text) :
    tree.follow place (name :: names) = .error .nameTooLong := by
  rw [Classical.not_imp] at long
  rw [follow, directory]
  simp only [if_neg long.1, if_pos (Nat.lt_of_not_le long.2)]

/-- Names that lead somewhere lead from a directory on. -/
theorem follow_cons_eq_ok {place : Place} {name : Text} {names : List Text} {found : Place × Entry}
    (followed : tree.follow place (name :: names) = .ok found) :
    tree.get? place = some .directory ∧
      (name ≠ Path.up → (Utf8.encode name).length ≤ maxNameLength) ∧
        tree.follow (step place name) names = .ok found := by
  rw [follow] at followed
  split at followed
  · contradiction
  · contradiction
  · rename_i directory
    rw [step]
    by_cases up : name = Path.up
    · rw [if_pos up] at followed ⊢
      exact ⟨directory, fun down => absurd up down, followed⟩
    · rw [if_neg up] at followed ⊢
      split at followed
      · contradiction
      · exact ⟨directory, fun _ => Nat.le_of_not_lt ‹_›, followed⟩

theorem follow_nil_eq_ok_iff {place result : Place} {entry : Entry} :
    tree.follow place [] = .ok (result, entry) ↔ place = result ∧ tree.get? place = some entry := by
  rw [follow]
  cases tree.get? place <;> simp

/-- Names that lead somewhere lead to the place that they spell. -/
theorem follow_eq_ok {place result : Place} {names : List Text} {entry : Entry}
    (found : tree.follow place names = .ok (result, entry)) :
    result = Path.follow place names ∧ tree.get? result = some entry := by
  induction names generalizing place with
  | nil =>
      obtain ⟨rfl, there⟩ := follow_nil_eq_ok_iff.1 found
      exact ⟨rfl, there⟩
  | cons name names ih =>
      obtain ⟨-, -, found⟩ := follow_cons_eq_ok found
      exact ih found

/-- Names are followed in two parts. -/
theorem follow_append {place middle : Place} {first : List Text} {entry : Entry}
    (found : tree.follow place first = .ok (middle, entry)) (second : List Text) :
    tree.follow place (first ++ second) = tree.follow middle second := by
  induction first generalizing place with
  | nil =>
      obtain ⟨rfl, -⟩ := follow_nil_eq_ok_iff.1 found
      rfl
  | cons name first ih =>
      obtain ⟨directory, short, found⟩ := follow_cons_eq_ok found
      rw [List.cons_append, follow_cons directory short, ih found]

/-- The names of a place lead to it. -/
theorem WellFormed.follow_place (wellFormed : tree.WellFormed) {place : Place} {names : List Text}
    {entry : Entry} (found : tree.get? (place ++ names) = some entry) :
    tree.follow place names = .ok (place ++ names, entry) := by
  induction names generalizing place with
  | nil =>
      rw [List.append_nil] at found
      rw [List.append_nil, follow_nil_eq_ok_iff]
      exact ⟨rfl, found⟩
  | cons name names ih =>
      have directory := wellFormed.directory_of_append found (by simp)
      obtain ⟨down, short⟩ := wellFormed.named _ _ found name (by simp)
      rw [List.append_cons] at found ⊢
      rw [follow_cons directory fun _ => short, step, if_neg down]
      exact ih found

/-! ## Putting a file -/

/-- Names lead to the same place when something is put where no directory is. -/
theorem follow_put {place result target : Place} {names : List Text} {entry : Entry}
    (found : tree.follow place names = .ok (result, entry)) (added : Entry)
    (free : tree.get? target ≠ some .directory) :
    (tree.put target added).follow place names =
      .ok (result, if target = result then added else entry) := by
  have filled := ne_nil_of_ne_directory free
  induction names generalizing place with
  | nil =>
      obtain ⟨rfl, there⟩ := follow_nil_eq_ok_iff.1 found
      rw [follow_nil_eq_ok_iff, get?_put _ _ _ _ filled, there]
      split <;> exact ⟨rfl, rfl⟩
  | cons name names ih =>
      obtain ⟨directory, short, found⟩ := follow_cons_eq_ok found
      have other : target ≠ place := by
        rintro rfl
        exact free directory
      have directory' : (tree.put target added).get? place = some .directory := by
        rw [get?_put _ _ _ _ filled, if_neg other, directory]
      rw [follow_cons directory' short, ih found]

/-! ## Removing files -/

section Without

variable {removed : List Place}
  (files : ∀ place ∈ removed, ∃ bytes, tree.get? place = some (.file bytes))

include files

theorem not_mem_of_directory {place : Place} (directory : tree.get? place = some .directory) :
    place ∉ removed := by
  intro mem
  rcases files place mem with ⟨bytes, file⟩
  cases directory.symm.trans file

theorem get?_without (place : Place) :
    (tree.without removed).get? place = if place ∈ removed then none else tree.get? place := by
  by_cases root : place = []
  · have kept : place ∉ removed := not_mem_of_directory files (by rw [root]; rfl)
    rw [if_neg kept, root]
    rfl
  · rw [get?, get?, if_neg root, if_neg root, without, OrderedMap.get?_filterKeys]
    by_cases gone : place ∈ removed <;> simp [gone]

theorem get?_without_of_not_mem {place : Place} (kept : place ∉ removed) :
    (tree.without removed).get? place = tree.get? place := by
  rw [get?_without files, if_neg kept]

/-- Names lead to the same place as before, unless the file there is removed. -/
theorem follow_without {place result : Place} {names : List Text} {entry : Entry}
    (found : tree.follow place names = .ok (result, entry)) :
    (tree.without removed).follow place names =
      if result ∈ removed then .error .missing else .ok (result, entry) := by
  induction names generalizing place with
  | nil =>
      rcases follow_nil_eq_ok_iff.1 found with ⟨rfl, there⟩
      rw [follow, get?_without files, there]
      by_cases gone : place ∈ removed <;> simp [gone]
  | cons name names ih =>
      rcases follow_cons_eq_ok found with ⟨directory, short, found⟩
      have kept := get?_without_of_not_mem files (not_mem_of_directory files directory)
      rw [follow_cons (kept.trans directory) short, ih found]

/-- Names that led nowhere lead nowhere, and are too long if they were. -/
theorem exists_follow_without {place : Place} {names : List Text} {obstacle : Obstacle}
    (failed : tree.follow place names = .error obstacle) :
    ∃ obstacle', (tree.without removed).follow place names = .error obstacle' ∧
      (obstacle' = .nameTooLong ↔ obstacle = .nameTooLong) := by
  induction names generalizing place with
  | nil =>
      cases there : tree.get? place with
      | none =>
          rw [follow, there] at failed
          rw [follow, get?_without files, there, ite_self]
          exact ⟨_, failed, Iff.rfl⟩
      | some entry => simp [follow, there] at failed
  | cons name names ih =>
      by_cases gone : place ∈ removed
      · -- The file that was in the way is gone now.
        rcases files place gone with ⟨bytes, file⟩
        rw [follow, file] at failed
        cases failed
        rw [follow, get?_without files, if_pos gone]
        exact ⟨.missing, rfl, by decide⟩
      · have kept := get?_without_of_not_mem files gone
        rcases there : tree.get? place with _ | bytes | _
        · rw [follow, there] at failed
          rw [follow, kept, there]
          exact ⟨_, failed, Iff.rfl⟩
        · rw [follow, there] at failed
          rw [follow, kept, there]
          exact ⟨_, failed, Iff.rfl⟩
        · by_cases short : name ≠ Path.up → (Utf8.encode name).length ≤ maxNameLength
          · rw [follow_cons there short] at failed
            rw [follow_cons (kept.trans there) short]
            exact ih failed
          · rw [follow_cons_of_long there short] at failed
            rw [follow_cons_of_long (kept.trans there) short]
            exact ⟨_, failed, Iff.rfl⟩

/-- A path is too long, or a name in it, whether files are removed or not. -/
theorem find_without_eq_nameTooLong_iff (cwd : Place) (path : Path) :
    (tree.without removed).find cwd path = .error .nameTooLong ↔
      tree.find cwd path = .error .nameTooLong := by
  rw [find, find]
  split
  · rfl
  · cases followed : tree.follow (path.start cwd) path.names with
    | error obstacle =>
        rcases exists_follow_without files followed with ⟨obstacle', failed, same⟩
        rw [failed, Except.error.injEq, Except.error.injEq]
        exact same
    | ok found =>
        rw [follow_without files followed]
        split <;> simp

/-- A path leads to the same file as before, unless this file is removed. -/
theorem find_without_eq_ok_iff (cwd : Place) (path : Path) (found : Place × Entry) :
    (tree.without removed).find cwd path = .ok found ↔
      tree.find cwd path = .ok found ∧ found.1 ∉ removed := by
  rw [find, find]
  split
  · simp
  · cases followed : tree.follow (path.start cwd) path.names with
    | error obstacle =>
        rcases exists_follow_without files followed with ⟨obstacle', failed, -⟩
        simp [failed]
    | ok there =>
        rw [follow_without files followed]
        by_cases gone : there.1 ∈ removed
        · rw [if_pos gone]
          constructor
          · nofun
          · rintro ⟨same, kept⟩
            cases same
            exact absurd gone kept
        · rw [if_neg gone]
          constructor
          · intro same
            cases same
            exact ⟨rfl, gone⟩
          · rintro ⟨same, -⟩
            exact same

end Without

end FileTree

/-! ## A view of a tree -/

/-- The tree is one as a file system keeps it, and is seen from a directory of it. -/
structure FileView.WellFormed (view : FileView) : Prop where
  tree : view.tree.WellFormed
  cwd : view.tree.get? view.cwd = some .directory

instance (view : FileView) : Decidable view.WellFormed :=
  decidable_of_iff (view.tree.WellFormed ∧ view.tree.get? view.cwd = some .directory)
    ⟨fun ⟨tree, cwd⟩ => ⟨tree, cwd⟩, fun ⟨tree, cwd⟩ => ⟨tree, cwd⟩⟩

namespace FileView

variable {view : FileView} {path : Path}

theorem find_eq_ok_iff {found : Place × Entry} :
    view.find path = .ok found ↔
      (Utf8.encode path.render).length < FileTree.pathLengthLimit ∧
        view.tree.follow (path.start view.cwd) path.names = .ok found := by
  rw [find, FileTree.find]
  split
  · rename_i long
    simp [Nat.not_lt.2 long]
  · rename_i short
    simp [Nat.lt_of_not_le short]

/-- The absolute path to a directory leads to it, if it is short enough. -/
theorem WellFormed.find_absolute (wellFormed : view.WellFormed) {place : Place}
    (found : view.find path = .ok (place, .directory))
    (short : (Utf8.encode (path.absolute view.cwd).render).length < FileTree.pathLengthLimit) :
    view.find (path.absolute view.cwd) = .ok (place, .directory) := by
  obtain ⟨-, followed⟩ := find_eq_ok_iff.1 found
  obtain ⟨same, directory⟩ := FileTree.follow_eq_ok followed
  have fromRoot : (path.absolute view.cwd).start view.cwd = [] := by
    unfold Path.absolute Path.start
    cases path.anchor <;> rfl
  have names : (path.absolute view.cwd).names = place := same.symm
  have there : view.tree.get? ([] ++ place) = some .directory := directory
  rw [find_eq_ok_iff, fromRoot, names]
  exact ⟨short, wellFormed.tree.follow_place there⟩

end FileView

end SeedCatalog
