import Mathlib.Data.List.Infix
import SeedCatalog.Config.Search

/-!
# The search for settings, file by file

The search comes to two files in every directory, from the working directory up
to the root.  A file ends it when it is refused or has a section for settings,
and is passed over otherwise.  What the search gives is what the first file gives
that ends it.
-/

namespace SeedCatalog

variable {room : Nat}

/-! ## The directories of the search -/

namespace Path

theorem upwardFrom_eq (reversed : List Text) :
    upwardFrom reversed = reversed.tails.map List.reverse := by
  induction reversed with
  | nil => rfl
  | cons name names ih => rw [upwardFrom, ih, List.tails_cons, List.map_cons]

/-- The way up goes through every part of a place, from the whole place to the root. -/
theorem upward_eq (place : Place) : upward place = place.inits.reverse := by
  rw [upward, upwardFrom_eq, List.inits_eq_tails, List.reverse_reverse]

end Path

/-! ## Bytes that are a document -/

/-- The document that the bytes of a file are, if they are one. -/
def Toml.ofBytes? (room : Nat) (bytes : Bytes) : Option Toml.Entries :=
  match Encoding.utf8.decode bytes with
  | .error _ => none
  | .ok text => (Toml.document room text).toOption

/-- Whether a file is refused for what it holds. -/
def LoadError.isContent : LoadError → Bool
  | .undecodable _ | .longInteger _ | .deepValue => true
  | .nulInPath | .inaccessible _ | .badSection _ _ => false

namespace Settings

/-- Why the search for settings ends at bytes that are no document, if it does: text that is
malformed is passed over. -/
def contentRefusal? (room : Nat) (bytes : Bytes) : Option LoadError :=
  match Encoding.utf8.decode bytes with
  | .error error => some (.undecodable error)
  | .ok text =>
      match Toml.document room text with
      | .error (.longInteger digits) => some (.longInteger digits)
      | .error .deepValue => some .deepValue
      | _ => none

theorem ofBytes?_eq_none {bytes : Bytes} {error : LoadError}
    (refused : contentRefusal? room bytes = some error) : Toml.ofBytes? room bytes = none := by
  rw [contentRefusal?] at refused
  rw [Toml.ofBytes?]
  split at refused
  · rfl
  · split at refused <;> first | contradiction | simp [*, Except.toOption]

/-- The search ends at such bytes for what they hold, and for nothing else. -/
theorem isContent_of_contentRefusal? {bytes : Bytes} {error : LoadError}
    (refused : contentRefusal? room bytes = some error) : error.isContent = true := by
  rw [contentRefusal?] at refused
  split at refused
  · cases refused
    rfl
  · split at refused <;> cases refused <;> rfl

/-! ## What sections give -/

/-- The names of the settings. -/
def names : List Text :=
  ["translatables", "delimiter", "encoding", "max_file_size"].map String.toList

/-- Each setting has the last value that entries give it, or else the one that it had. -/
def given (settings : Settings) (entries : Toml.Entries) : Settings :=
  let last (name : String) : Option Value := OrderedMap.lookup name.toList entries.reverse
  { translatables := ((last "translatables").map Listing.ofValue).getD settings.translatables
    delimiter := (last "delimiter").getD settings.delimiter
    encoding := (last "encoding").getD settings.encoding
    maxFileSize := (last "max_file_size").getD settings.maxFileSize }

theorem mem_names_iff {name : Text} :
    name ∈ names ↔ name = "translatables".toList ∨ name = "delimiter".toList ∨
      name = "encoding".toList ∨ name = "max_file_size".toList := by
  simp only [names, List.map_cons, List.map_nil, List.mem_cons, List.not_mem_nil, or_false]

theorem set_eq_error {settings : Settings} {name : Text} (unknown : name ∉ names) (value : Value) :
    settings.set name value = .error ⟨name⟩ := by
  rw [mem_names_iff, not_or, not_or, not_or] at unknown
  rcases unknown with ⟨noListing, noDelimiter, noEncoding, noSize⟩
  rw [set, if_neg noListing, if_neg noDelimiter, if_neg noEncoding, if_neg noSize]

/-- A setting that is given first keeps its value until it is given again. -/
theorem set_eq_ok (settings : Settings) {name : Text} (known : name ∈ names) (value : Value) :
    ∃ changed, settings.set name value = .ok changed ∧
      ∀ entries, changed.given entries = settings.given ((name, value) :: entries) := by
  have last (key : Text) (entries : Toml.Entries) :
      OrderedMap.lookup key ((name, value) :: entries).reverse =
        (OrderedMap.lookup key entries.reverse).or (if name = key then some value else none) := by
    rw [List.reverse_cons, OrderedMap.lookup_append]
    rfl
  rcases mem_names_iff.1 known with rfl | rfl | rfl | rfl
  all_goals
    refine ⟨_, rfl, ?_⟩
    intro entries
    simp only [given, last]
    simp

/-- Entries for settings give them their values, and other entries are refused. -/
theorem setAll_toOption (settings : Settings) (entries : Toml.Entries) :
    (settings.setAll entries).toOption =
      if entries.all fun entry => names.contains entry.1 then some (settings.given entries)
      else none := by
  induction entries generalizing settings with
  | nil => rfl
  | cons entry entries ih =>
      rcases entry with ⟨name, value⟩
      by_cases known : name ∈ names
      · rcases set_eq_ok settings known value with ⟨changed, set, same⟩
        rw [setAll, set, ← same]
        simp only [ih, List.all_cons, List.contains_iff_mem.2 known, Bool.true_and]
      · rw [setAll, set_eq_error known]
        simp [known, Except.toOption]

end Settings

/-- A section for settings: the file and the path in it where it stands, and its value. -/
structure SettingsSection where
  file : Place
  path : List Text
  value : Value
  deriving DecidableEq

namespace SettingsSection

/-- What a section gives: a table gives the settings that it names and the defaults of the others,
and anything else is an error. -/
def settings (found : SettingsSection) : Except LoadError Settings :=
  match found.value with
  | .table entries =>
      if entries.all fun entry => Settings.names.contains entry.1 then
        .ok (Settings.given {} entries)
      else .error (.badSection found.path found.file)
  | _ => .error (.badSection found.path found.file)

theorem settings_eq (found : SettingsSection) :
    found.settings = match Settings.ofSection? found.value with
      | some settings => .ok settings
      | none => .error (.badSection found.path found.file) := by
  rcases found with ⟨file, path, value⟩
  cases value
  case table entries =>
    simp only [settings, Settings.ofSection?, Settings.setAll_toOption]
    split <;> rfl
  all_goals rfl

/-- A section for settings is at fault for its own error only. -/
theorem eq_badSection {found : SettingsSection} {error : LoadError}
    (failed : found.settings = .error error) : error = .badSection found.path found.file := by
  rw [settings_eq] at failed
  split at failed
  · contradiction
  · cases failed
    rfl

end SettingsSection

namespace Settings

/-! ## What files give -/

/-- A file that may hold settings, with the paths to the sections for them. -/
abbrev Candidate := Place × List (List Text)

/-- The files that may hold settings for a directory, in the order in which they are looked at. -/
def candidates (directory : Place) : List Candidate :=
  (Path.upward directory).flatMap fun above =>
    sources.map fun (name, paths) => (above ++ [name], paths)

/-- The file that a path from the root leads to, with its place. -/
def fileAt? (tree : FileTree) (file : Place) : Option (Place × Bytes) :=
  match tree.find [] (.ofPlace file) with
  | .ok (place, .file bytes) => some (place, bytes)
  | _ => none

/-- The first section for settings in a file that is a document. -/
def sectionIn? (room : Nat) (tree : FileTree) (file : Candidate) : Option SettingsSection :=
  (fileAt? tree file.1).bind fun found =>
    (Toml.ofBytes? room found.2).bind fun entries =>
      file.2.findSome? fun path => (Toml.Entries.find? path entries).map (.mk file.1 path)

/-- Why the search for settings ends at a file without a section, if it does. -/
def refusal? (room : Nat) (tree : FileTree) (file : Place) : Option LoadError :=
  if tree.find [] (.ofPlace file) = .error .nameTooLong then
    some (.inaccessible ⟨.nameTooLong, (Path.ofPlace file).render, none⟩)
  else (fileAt? tree file).bind fun found => contentRefusal? room found.2

/-- A refusal is no error of a section. -/
theorem refusal?_ne_badSection {tree : FileTree} {file : Place} {error : LoadError}
    (refused : refusal? room tree file = some error) (path : List Text) (other : Place) :
    error ≠ .badSection path other := by
  rintro rfl
  rw [refusal?] at refused
  split at refused
  · cases refused
  · rcases Option.bind_eq_some_iff.1 refused with ⟨found, -, refused⟩
    have content := isContent_of_contentRefusal? refused
    contradiction

theorem inDocument_eq (file : Place) (entries : Toml.Entries) (paths : List (List Text)) :
    inDocument file entries paths =
      match paths.findSome? fun path =>
        (Toml.Entries.find? path entries).map (SettingsSection.mk file path) with
      | none => .ok none
      | some found => found.settings.map some := by
  induction paths with
  | nil => rfl
  | cons path paths ih =>
      rw [inDocument, List.findSome?_cons]
      cases Toml.Entries.find? path entries with
      | none => exact ih
      | some value =>
          simp only [Option.map_some, SettingsSection.settings_eq]
          cases ofSection? value <;> rfl

/-- A file is refused, or has no section for settings, or gives what its section gives. -/
theorem inFile_eq (tree : FileTree) (file : Candidate) :
    inFile room tree file.1 file.2 =
      match refusal? room tree file.1, sectionIn? room tree file with
      | some error, _ => .error error
      | none, none => .ok none
      | none, some found => found.settings.map some := by
  rcases file with ⟨file, paths⟩
  rw [inFile, refusal?, sectionIn?, fileAt?]
  cases tree.find [] (.ofPlace file) with
  | error obstacle => cases obstacle <;> rfl
  | ok found =>
      rcases found with ⟨place, bytes | _⟩
      · rw [if_neg nofun]
        simp only [contentRefusal?, Toml.ofBytes?, Option.bind_some]
        cases Encoding.utf8.decode bytes with
        | error error => rfl
        | ok text =>
            simp only
            cases Toml.document room text with
            | error refusal => cases refusal <;> rfl
            | ok entries =>
                simp only [inDocument_eq, Except.toOption, Option.bind_some]
                split <;> simp only [*]
      · rfl

/-! ## Where the search ends -/

/-- What the first of several files gives that is not passed over. -/
def inCandidates (room : Nat) (tree : FileTree) :
    List Candidate → Except LoadError (Option Settings)
  | [] => .ok none
  | file :: files =>
      match inFile room tree file.1 file.2 with
      | .ok none => inCandidates room tree files
      | found => found

theorem inCandidates_append (tree : FileTree) (first second : List Candidate) :
    inCandidates room tree (first ++ second) =
      match inCandidates room tree first with
      | .ok none => inCandidates room tree second
      | found => found := by
  induction first with
  | nil => rfl
  | cons file files ih =>
      rw [List.cons_append, inCandidates, inCandidates]
      split
      · exact ih
      · split <;> first | contradiction | rfl

theorem inDirectory_eq (tree : FileTree) (directory : Place)
    (sources : List (Text × List (List Text))) :
    inDirectory room tree directory sources =
      inCandidates room tree (sources.map fun (name, paths) => (directory ++ [name], paths)) := by
  induction sources with
  | nil => rfl
  | cons source sources ih =>
      rcases source with ⟨name, paths⟩
      rw [inDirectory, ih]
      rfl

theorem inDirectories_eq (tree : FileTree) (directories : List Place) :
    inDirectories room tree directories =
      (inCandidates room tree (directories.flatMap fun directory =>
        sources.map fun (name, paths) => (directory ++ [name], paths))).map (·.getD {}) := by
  induction directories with
  | nil => rfl
  | cons directory directories ih =>
      rw [inDirectories, List.flatMap_cons, inCandidates_append, inDirectory_eq, ih]
      split <;> simp [*, Except.map]

/-- Settings are loaded from the first file that is not passed over. -/
theorem load_eq (view : FileView) (directory : Path) :
    load room view directory =
      if directory.hasNul then .error .nulInPath
      else
        (inCandidates room view.tree (candidates (directory.place view.cwd))).map (·.getD {}) := by
  rw [load, inDirectories_eq]
  rfl

/-- The search comes to a file when every file before it is passed over. -/
def Reaches (room : Nat) (tree : FileTree) (files : List Candidate) (file : Candidate) : Prop :=
  ∃ before after, files = before ++ file :: after ∧
    ∀ earlier ∈ before, inFile room tree earlier.1 earlier.2 = .ok none

theorem reaches_cons_iff {tree : FileTree} {first file : Candidate} {files : List Candidate} :
    Reaches room tree (first :: files) file ↔
      file = first ∨
        inFile room tree first.1 first.2 = .ok none ∧ Reaches room tree files file := by
  constructor
  · rintro ⟨before, after, cut, passed⟩
    cases before with
    | nil =>
        cases cut
        exact .inl rfl
    | cons earlier before =>
        cases cut
        have ⟨passedFirst, passed⟩ := List.forall_mem_cons.1 passed
        exact .inr ⟨passedFirst, before, after, rfl, passed⟩
  · rintro (rfl | ⟨passedFirst, before, after, rfl, passed⟩)
    · exact ⟨[], files, rfl, List.forall_mem_nil _⟩
    · exact ⟨first :: before, after, rfl, List.forall_mem_cons.2 ⟨passedFirst, passed⟩⟩

theorem Reaches.mem {tree : FileTree} {files : List Candidate} {file : Candidate}
    (reaches : Reaches room tree files file) : file ∈ files := by
  rcases reaches with ⟨before, after, rfl, -⟩
  exact List.mem_append_right _ List.mem_cons_self

/-- The search gives the same in two trees when every file does that it comes to in one of them. -/
theorem inCandidates_congr {tree tree' : FileTree} {files : List Candidate}
    (same : ∀ file, Reaches room tree files file →
      inFile room tree' file.1 file.2 = inFile room tree file.1 file.2) :
    inCandidates room tree' files = inCandidates room tree files := by
  induction files with
  | nil => rfl
  | cons first files ih =>
      rw [inCandidates, inCandidates, same first (reaches_cons_iff.2 (.inl rfl))]
      split
      · rename_i passed
        apply ih
        intro file reaches
        exact same file (reaches_cons_iff.2 (.inr ⟨passed, reaches⟩))
      · rfl

/-- The search ends at a file that it comes to and does not pass over. -/
theorem inCandidates_of_reaches {tree : FileTree} {files : List Candidate} {file : Candidate}
    (reaches : Reaches room tree files file) (ends : inFile room tree file.1 file.2 ≠ .ok none) :
    inCandidates room tree files = inFile room tree file.1 file.2 := by
  induction files with
  | nil =>
      rcases reaches with ⟨before, after, cut, -⟩
      simp at cut
  | cons first files ih =>
      rw [inCandidates]
      rcases reaches_cons_iff.1 reaches with rfl | ⟨passed, reaches⟩
      · split
        · exact absurd ‹_› ends
        · rfl
      · rw [passed]
        exact ih reaches

/-! ## Searches without a refusal -/

/-- No file that the search comes to is refused. -/
def IsUnrefused (room : Nat) (tree : FileTree) (files : List Candidate) : Prop :=
  ∀ file, Reaches room tree files file → refusal? room tree file.1 = none

theorem isUnrefused_nil (tree : FileTree) : IsUnrefused room tree [] := by
  rintro file ⟨before, after, cut, -⟩
  simp at cut

theorem isUnrefused_cons_iff {tree : FileTree} {file : Candidate} {files : List Candidate} :
    IsUnrefused room tree (file :: files) ↔ refusal? room tree file.1 = none ∧
      (inFile room tree file.1 file.2 = .ok none → IsUnrefused room tree files) := by
  constructor
  · intro unrefused
    constructor
    · exact unrefused file (reaches_cons_iff.2 (.inl rfl))
    · intro passed other reaches
      exact unrefused other (reaches_cons_iff.2 (.inr ⟨passed, reaches⟩))
  · rintro ⟨allowed, unrefused⟩ other reaches
    rcases reaches_cons_iff.1 reaches with rfl | ⟨passed, reaches⟩
    · exact allowed
    · exact unrefused passed other reaches

/-- Whether a search is refused is seen file by file. -/
instance decidableIsUnrefused (tree : FileTree) :
    (files : List Candidate) → Decidable (IsUnrefused room tree files)
  | [] => isTrue (isUnrefused_nil tree)
  | _ :: files =>
      have := decidableIsUnrefused tree files
      decidable_of_iff' _ isUnrefused_cons_iff

/-- Without a refusal the first section for settings decides. -/
theorem IsUnrefused.inCandidates_eq {tree : FileTree} {files : List Candidate}
    (unrefused : IsUnrefused room tree files) :
    inCandidates room tree files =
      match files.findSome? (sectionIn? room tree) with
      | none => .ok none
      | some found => found.settings.map some := by
  induction files with
  | nil => rfl
  | cons file files ih =>
      rcases isUnrefused_cons_iff.1 unrefused with ⟨allowed, unrefused⟩
      rw [inCandidates, List.findSome?_cons]
      cases there : sectionIn? room tree file with
      | none =>
          have passed : inFile room tree file.1 file.2 = .ok none := by
            rw [inFile_eq, allowed, there]
          rw [passed]
          exact ih (unrefused passed)
      | some found =>
          have ends : inFile room tree file.1 file.2 = found.settings.map some := by
            rw [inFile_eq, allowed, there]
          simp only [ends]
          cases found.settings <;> rfl

/-- A refusal is the result of the search, and no section is at fault for it. -/
theorem exists_inCandidates_eq_error {tree : FileTree} {files : List Candidate}
    (refused : ¬IsUnrefused room tree files) :
    ∃ file error, Reaches room tree files file ∧ refusal? room tree file.1 = some error ∧
      inCandidates room tree files = .error error := by
  simp only [IsUnrefused, not_forall] at refused
  rcases refused with ⟨file, reaches, refused⟩
  rcases Option.ne_none_iff_exists'.1 refused with ⟨error, refusal⟩
  have fails : inFile room tree file.1 file.2 = .error error := by
    rw [inFile_eq, refusal]
  have ends := inCandidates_of_reaches reaches (by simp [fails])
  exact ⟨file, error, reaches, refusal, ends.trans fails⟩

end Settings

end SeedCatalog
