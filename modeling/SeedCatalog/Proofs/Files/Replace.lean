import SeedCatalog.Files.Replace
import SeedCatalog.Proofs.Files.Write
import SeedCatalog.Proofs.OrderedMap

/-!
# Writing a file step by step

A file is written in steps.  An empty temporary file is made in the directory of
the file, the lines are put into it one after the other, it is moved to the path,
and what is left of it is removed, also after a failure.  All steps together
write the file or leave the tree as it was.

A file is not written when its path cannot be looked up for another reason than
that there is nothing, when it leads to something that is no file, when its
directory is none, and when the path of the temporary file is too long, however
short the path of the file is.
-/

namespace SeedCatalog

namespace Path

@[simp]
theorem start_add (path : Path) (name : Text) (cwd : Place) :
    (path.add name).start cwd = path.start cwd :=
  rfl

@[simp]
theorem start_directory (path : Path) (cwd : Place) :
    path.directory.start cwd = path.start cwd :=
  rfl

@[simp]
theorem directory_add (path : Path) (name : Text) : (path.add name).directory = path :=
  congrArg (Path.mk path.anchor) List.dropLast_concat

/-! ## The lengths of paths -/

theorem render_add {path : Path} (filled : path.names ≠ []) (name : Text) :
    (path.add name).render = path.render ++ '/' :: name := by
  have elsewhere : path ≠ here := by
    rintro rfl
    exact filled rfl
  have elsewhere' : path.add name ≠ here := by
    intro same
    simpa [add, here] using congrArg Path.names same
  rw [render, if_neg elsewhere', render, if_neg elsewhere, add,
    Text.join_append_last _ filled, List.append_assoc, List.append_assoc]
  rfl

/-- The path of a temporary file is too long if there is no room for it behind that of its
directory. -/
theorem long_add_iff {path : Path} {name : Text} (rooted : path.anchor.isRoot = true)
    (length : (Utf8.encode name).length + 1 = FileView.scratchLength) :
    FileTree.pathLengthLimit ≤ (Utf8.encode (path.add name).render).length ↔
      FileTree.pathLengthLimit ≤
        (Utf8.encode path.render).length + FileView.scratchLength := by
  by_cases filled : path.names = []
  · -- Behind the root there is no further slash, but room in any case.
    obtain ⟨anchor, names⟩ := path
    cases filled
    have added : ((Path.mk anchor []).add name).render = anchor.render ++ name := by
      rw [render, if_neg (by simp [add, here])]
      rfl
    have alone : (Path.mk anchor []).render = anchor.render := by
      rw [render, if_neg (by rintro ⟨⟩; contradiction)]
      exact List.append_nil _
    have short : (Utf8.encode anchor.render).length ≤ 2 := by cases anchor <;> decide
    simp only [FileTree.pathLengthLimit, FileView.scratchLength] at length ⊢
    rw [added, alone, Utf8.encode_append, List.length_append]
    omega
  · have behind : (Utf8.encode ('/' :: name)).length = FileView.scratchLength := length
    rw [render_add filled, Utf8.encode_append, List.length_append, behind]

/-- A path that is short enough leads to a directory by one that is short enough, too. -/
theorem short_directory {path : Path}
    (short : (Utf8.encode path.render).length < FileTree.pathLengthLimit) :
    (Utf8.encode path.directory.render).length < FileTree.pathLengthLimit := by
  by_cases alone : path.directory.names = []
  · obtain ⟨anchor, names⟩ := path
    have root : (Path.mk anchor names).directory = ⟨anchor, []⟩ := congrArg (Path.mk anchor) alone
    rw [root]
    cases anchor <;> decide
  · have cut : path.directory.add (path.names.getLast (by
        rintro none
        exact alone (congrArg List.dropLast none))) = path :=
      congrArg (Path.mk path.anchor) (List.dropLast_concat_getLast _)
    rw [← cut, render_add alone, Utf8.encode_append, List.length_append] at short
    exact Nat.lt_of_le_of_lt (Nat.le_add_right _ _) short

/-! ## Names without two dots -/

theorem follow_eq_append {place : Place} {names : List Text} (down : up ∉ names) :
    follow place names = place ++ names := by
  induction names generalizing place with
  | nil => exact (List.append_nil place).symm
  | cons name names ih =>
      rw [List.mem_cons, not_or] at down
      rw [follow, if_neg (Ne.symm down.1), ih down.2, List.append_assoc]
      rfl

theorem up_notMem_follow {place : Place} (down : up ∉ place) (names : List Text) :
    up ∉ follow place names := by
  induction names generalizing place with
  | nil => exact down
  | cons name names ih =>
      rw [follow]
      apply ih
      split
      · exact fun mem => down ((List.dropLast_sublist place).subset mem)
      · rename_i other
        simp [down, Ne.symm other]

end Path

/-! ## Single steps -/

namespace FileTree

variable {tree : FileTree}

theorem ne_nil_of_get?_eq_none {place : Place} (absent : tree.get? place = none) : place ≠ [] := by
  rintro rfl
  contradiction

theorem put_put (place : Place) (first second : Entry) :
    (tree.put place first).put place second = tree.put place second :=
  congrArg FileTree.mk (OrderedMap.update_update ..)

/-- What is put where nothing was can be taken away again. -/
theorem without_put {place : Place} (absent : tree.get? place = none) (entry : Entry) :
    (tree.put place entry).without [place] = tree := by
  have filled := ne_nil_of_get?_eq_none absent
  rw [get?, if_neg filled, OrderedMap.get?, OrderedMap.lookup_eq_none_iff] at absent
  have added : (tree.put place entry).entries.entries = tree.entries.entries ++ [(place, entry)] :=
    OrderedMap.updateEntries_of_not_mem absent _
  refine congrArg FileTree.mk (OrderedMap.ext ?_)
  simp only [OrderedMap.filterKeys, added, List.filter_append]
  rw [List.filter_eq_self.2, List.filter_eq_nil_iff.2, List.append_nil]
  · simp
  · intro other mem
    have apart : other.1 ≠ place := by
      rintro rfl
      exact absent (List.mem_map_of_mem mem)
    simpa using apart

/-- A file that is put where nothing was leads to no further directory. -/
theorem follow_put_eq_directory_iff {place target result : Place} {names : List Text}
    (absent : tree.get? target = none) (bytes : Bytes) :
    (tree.put target (.file bytes)).follow place names = .ok (result, .directory) ↔
      tree.follow place names = .ok (result, .directory) := by
  have filled := ne_nil_of_get?_eq_none absent
  constructor
  · intro found
    have files : ∀ place ∈ [target],
        ∃ bytes', (tree.put target (.file bytes)).get? place = some (.file bytes') := by
      intro place mem
      rw [List.mem_singleton.1 mem, get?_put _ _ _ _ filled, if_pos rfl]
      exact ⟨bytes, rfl⟩
    have kept := not_mem_of_directory files (follow_eq_ok found).2
    have before := follow_without files found
    rwa [if_neg kept, without_put absent] at before
  · intro found
    have directory := (follow_eq_ok found).2
    have apart : target ≠ result := by
      rintro rfl
      rw [absent] at directory
      contradiction
    rw [follow_put found (.file bytes) (by simp [absent]), if_neg apart]

/-- A file does not change what names lead to that do not come to it. -/
theorem follow_put_of_notMem {place directory : Place} {name : Text} {names : List Text}
    (apart : name ∉ names) (aside : ¬directory ++ [name] <+: place) (entry : Entry) :
    (tree.put (directory ++ [name]) entry).follow place names = tree.follow place names := by
  induction names generalizing place with
  | nil =>
      have other : directory ++ [name] ≠ place := fun same => aside (same ▸ List.prefix_rfl)
      rw [follow, follow, get?_put _ _ _ _ (by simp), if_neg other]
  | cons next names ih =>
      have other : directory ++ [name] ≠ place := fun same => aside (same ▸ List.prefix_rfl)
      rw [List.mem_cons, not_or] at apart
      have above : ¬directory ++ [name] <+: place.dropLast :=
        fun into => aside (into.trans (List.dropLast_prefix place))
      have below : ¬directory ++ [name] <+: place ++ [next] := by
        rw [List.prefix_concat_iff, not_or]
        refine ⟨fun same => apart.1 ?_, aside⟩
        exact List.singleton_inj.1 (List.append_inj' same rfl).2
      rw [follow, follow, get?_put _ _ _ _ (by simp), if_neg other, ih apart.2 above,
        ih apart.2 below]

theorem locate_eq_ok_iff {cwd place : Place} {path : Path} :
    tree.locate cwd path = .ok place ↔
      (Utf8.encode path.render).length < pathLengthLimit ∧ ∃ directory name,
        tree.follow (path.start cwd) path.directory.names = .ok (directory, .directory) ∧
          path.names.getLast? = some name ∧ name ≠ Path.up ∧
          (Utf8.encode name).length ≤ maxNameLength ∧ place = directory ++ [name] := by
  rw [locate]
  split
  · rename_i long
    simp [Nat.not_lt.2 long]
  · rename_i short
    rw [and_iff_right (Nat.lt_of_not_le short)]
    rcases tree.follow (path.start cwd) path.directory.names with obstacle | ⟨directory, _ | _⟩
    · simp
    · simp
    · cases path.names.getLast? with
      | none => simp
      | some name =>
          by_cases up : name = Path.up
          · simp [up]
          · by_cases long : maxNameLength < (Utf8.encode name).length
            · simp [up, long, Nat.not_le.2 long]
            · simp [up, long, Nat.le_of_not_lt long, eq_comm]

/-- A path names the same place when something is put where no directory is. -/
theorem locate_put {cwd place target : Place} {path : Path}
    (located : tree.locate cwd path = .ok place) (added : Entry)
    (free : tree.get? target ≠ some .directory) :
    (tree.put target added).locate cwd path = .ok place := by
  obtain ⟨short, directory, name, followed, named⟩ := locate_eq_ok_iff.1 located
  refine locate_eq_ok_iff.2 ⟨short, directory, name, ?_, named⟩
  have apart : target ≠ directory := by
    rintro rfl
    exact free (follow_eq_ok followed).2
  rw [follow_put followed added free, if_neg apart]

/-- A path that names no place names none when a file is put where nothing is. -/
theorem exists_locate_put {cwd target : Place} {path : Path} {obstacle : Obstacle}
    (failed : tree.locate cwd path = .error obstacle) (absent : tree.get? target = none)
    (bytes : Bytes) :
    ∃ obstacle', (tree.put target (.file bytes)).locate cwd path = .error obstacle' := by
  cases located : (tree.put target (.file bytes)).locate cwd path with
  | error obstacle' => exact ⟨obstacle', rfl⟩
  | ok place =>
      simp only [locate_eq_ok_iff, follow_put_eq_directory_iff absent] at located
      rw [locate_eq_ok_iff.2 located] at failed
      contradiction

/-- A file does not change which place a path names that does not come to it. -/
theorem locate_put_of_notMem {cwd directory : Place} {name : Text} {path : Path}
    (apart : name ∉ path.names) (aside : ¬directory ++ [name] <+: path.start cwd) (entry : Entry) :
    (tree.put (directory ++ [name]) entry).locate cwd path = tree.locate cwd path := by
  have apart' : name ∉ path.directory.names :=
    fun mem => apart ((List.dropLast_sublist _).subset mem)
  rw [locate, locate, follow_put_of_notMem apart' aside]

/-- The lines come one after the other into the file. -/
theorem foldl_append {place : Place} (filled : place ≠ []) (lines : List Text) (bytes : Bytes) :
    lines.foldl (fun tree line => tree.append place (Utf8.encode line))
        (tree.put place (.file bytes)) =
      tree.put place (.file (bytes ++ Utf8.encode lines.flatten)) := by
  induction lines generalizing bytes with
  | nil => exact congrArg (fun bytes => tree.put place (.file bytes)) (List.append_nil bytes).symm
  | cons line lines ih =>
      have added : (tree.put place (.file bytes)).append place (Utf8.encode line) =
          tree.put place (.file (bytes ++ Utf8.encode line)) := by
        rw [append, get?_put _ _ _ _ filled, if_pos rfl]
        exact put_put ..
      rw [List.foldl_cons, added, ih, List.append_assoc, List.flatten_cons, Utf8.encode_append]

section Scratch

variable {cwd origin : Place} {source : Path}
  (located : tree.locate cwd source = .ok origin) (absent : tree.get? origin = none)

include located absent

/-- A file that was put where nothing was is moved as if it had been put to the other path. -/
theorem move_put {place : Place} {target : Path} (aim : tree.locate cwd target = .ok place)
    (apart : place ≠ origin) (free : tree.get? place ≠ some .directory) (bytes : Bytes) :
    (tree.put origin (.file bytes)).move cwd source target =
      .ok (tree.put place (.file bytes)) := by
  have filled := ne_nil_of_get?_eq_none absent
  have there : (tree.put origin (.file bytes)).get? origin = some (.file bytes) := by
    rw [get?_put _ _ _ _ filled, if_pos rfl]
  have before : (tree.put origin (.file bytes)).get? place = tree.get? place := by
    rw [get?_put _ _ _ _ filled, if_neg apart.symm]
  rw [move, locate_put located _ (by simp [absent]), locate_put aim _ (by simp [absent])]
  simp only [bind, Except.bind, there, before, without_put absent]

/-- A file that was put where nothing was is not moved to a path that names no place. -/
theorem move_put_of_error {target : Path} {bytes : Bytes} {obstacle : Obstacle}
    (failed : (tree.put origin (.file bytes)).locate cwd target = .error obstacle) :
    (tree.put origin (.file bytes)).move cwd source target = .error obstacle := by
  rw [move, locate_put located _ (by simp [absent]), failed]
  rfl

/-- A file that was put where nothing was is removed again. -/
theorem remove_put (bytes : Bytes) : (tree.put origin (.file bytes)).remove cwd source = tree := by
  have filled := ne_nil_of_get?_eq_none absent
  rw [remove, locate_put located _ (by simp [absent])]
  simp only [get?_put _ _ _ _ filled, if_pos, without_put absent]

/-- Where nothing is, nothing is removed. -/
theorem remove_put_of_ne {place : Place} (apart : place ≠ origin)
    (free : tree.get? place ≠ some .directory) (entry : Entry) :
    (tree.put place entry).remove cwd source = tree.put place entry := by
  rw [remove, locate_put located _ free]
  simp only [get?_put _ _ _ _ (ne_nil_of_ne_directory free), if_neg apart, absent]

end Scratch

end FileTree

namespace FileView

variable {view : FileView} {temporary : Text} {path : Path} {lines : List Text}

/-- A name for the temporary file: of eleven bytes, not in use in the directory, and not that of the
file which is to be written. -/
structure IsScratch (view : FileView) (temporary : Text) (path : Path) : Prop where
  length : (Utf8.encode temporary).length = 11
  unused : view.tree.get? (view.scratchFile temporary path).names = none
  apart : path.names.getLast? ≠ some temporary

instance : Decidable (view.IsScratch temporary path) :=
  decidable_of_iff ((Utf8.encode temporary).length = 11 ∧
      view.tree.get? (view.scratchFile temporary path).names = none ∧
      path.names.getLast? ≠ some temporary)
    ⟨fun ⟨length, unused, apart⟩ => ⟨length, unused, apart⟩,
      fun ⟨length, unused, apart⟩ => ⟨length, unused, apart⟩⟩

/-- What keeps a file from being written. -/
inductive Unwritable (view : FileView) (temporary : Text) (path : Path) : Prop where
  /-- No file name can be as one in the path. -/
  | nulInPath (nul : path.hasNul = true)
  /-- The path cannot be looked up, but not because there is nothing. -/
  | unreachable (obstacle : Obstacle) (failed : view.find path = .error obstacle)
      (other : obstacle ≠ .missing)
  /-- The path leads to something that is no file. -/
  | notRegular (place : Place) (found : view.find path = .ok (place, .directory))
  /-- The path of the directory leads to no directory. -/
  | noDirectory (absent : ∀ place, view.find path.directory ≠ .ok (place, .directory))
  /-- The path of the temporary file is too long. -/
  | tooLong (long : FileTree.pathLengthLimit ≤
      (Utf8.encode (view.scratchFile temporary path).render).length)

theorem isRoot_absolute (path : Path) (cwd : Place) : (path.absolute cwd).anchor.isRoot = true := by
  rw [Path.absolute]
  split
  · assumption
  · rfl

theorem long_scratch_iff (scratch : view.IsScratch temporary path) :
    FileTree.pathLengthLimit ≤ (Utf8.encode (view.scratchFile temporary path).render).length ↔
      FileTree.pathLengthLimit ≤
        (Utf8.encode (path.directory.absolute view.cwd).render).length + scratchLength :=
  Path.long_add_iff (isRoot_absolute ..) (by rw [scratch.length]; rfl)

/-- A file is writable, or there is something that keeps it from being written. -/
theorem unwritable_iff (scratch : view.IsScratch temporary path) :
    view.Unwritable temporary path ↔ ¬view.Writable path := by
  constructor
  · rintro unwritable ⟨noNul, free, ⟨place, directory⟩, short⟩
    cases unwritable with
    | nulInPath nul => simp [nul] at noNul
    | unreachable obstacle failed other => simp [failed, other] at free
    | notRegular place found => simp [found] at free
    | noDirectory absent => exact absent place directory
    | tooLong long => exact Nat.not_le.2 short ((long_scratch_iff scratch).1 long)
  · intro stuck
    by_contra free
    refine stuck ⟨?_, ?_, ?_, ?_⟩
    · by_contra nul
      exact free (.nulInPath (by simpa using nul))
    · rcases found : view.find path with obstacle | ⟨place, bytes | _⟩
      · by_cases missing : obstacle = .missing
        · exact .inl (congrArg _ missing)
        · exact absurd (.unreachable obstacle found missing) free
      · exact .inr ⟨place, bytes, rfl⟩
      · exact absurd (.notRegular place found) free
    · by_contra absent
      exact free (.noDirectory fun place found => absent ⟨place, found⟩)
    · by_contra long
      exact free (.tooLong ((long_scratch_iff scratch).2 (Nat.le_of_not_lt long)))

/-- Where a file can be written, its path names the place that the whole of the file goes to. -/
theorem locate_of_writable (wellFormed : view.WellFormed) {existing : Option Place}
    (writable : view.writable path = .ok existing) :
    view.tree.locate view.cwd path = (checkDirectory view.tree view.cwd path.directory).map
      fun directory => existing.getD (directory ++ path.names.getLast?.toList) := by
  have short : (Utf8.encode path.render).length < FileTree.pathLengthLimit := by
    rcases (writable_eq_ok_iff.1 writable).2 with ⟨missing, -⟩ | ⟨place, bytes, file, -⟩
    · exact (find_eq_missing_iff.1 missing).1
    · exact (find_eq_ok_iff.1 file).1
  rw [FileTree.locate, if_neg (Nat.not_le.2 short), checkDirectory, FileTree.find,
    if_neg (Nat.not_le.2 (Path.short_directory short)), Path.start_directory]
  rcases followed : view.tree.follow (path.start view.cwd) path.directory.names with
    obstacle | ⟨directory, _ | _⟩
  · rfl
  · rfl
  · obtain ⟨name, cut, down, short, free⟩ :=
      exists_name_of_writable wellFormed writable followed
    have last : path.names.getLast? = some name := by rw [cut, List.getLast?_concat]
    simp only [last, if_neg down, if_neg (Nat.not_lt.2 short), Except.map, Option.toList_some]
    rcases free with ⟨-, rfl⟩ | ⟨bytes, -, rfl⟩ <;> rfl

/-- The path of the temporary file names a place if there is a directory and room for it. -/
theorem locate_scratchFile (scratch : view.IsScratch temporary path) :
    view.tree.locate view.cwd (view.scratchFile temporary path) =
      (checkScratch view.tree view.cwd (path.directory.absolute view.cwd)).map
        (· ++ [temporary]) := by
  rw [FileTree.locate, checkScratch]
  by_cases long : FileTree.pathLengthLimit ≤
      (Utf8.encode (path.directory.absolute view.cwd).render).length + scratchLength
  · rw [if_pos long, if_pos ((long_scratch_iff scratch).2 long)]
    rfl
  · have within := Nat.lt_of_add_right_lt (Nat.lt_of_not_le long)
    rw [if_neg long, if_neg (mt (long_scratch_iff scratch).1 long), checkDirectory, FileTree.find,
      if_neg (Nat.not_le.2 within), scratchFile]
    generalize path.directory.absolute view.cwd = directory
    have last : (directory.add temporary).names.getLast? = some temporary := List.getLast?_concat
    have down : temporary ≠ Path.up := by
      rintro rfl
      exact absurd scratch.length (by decide)
    have short : ¬FileTree.maxNameLength < (Utf8.encode temporary).length := by
      rw [scratch.length]
      decide
    rw [Path.start_add, Path.directory_add, last]
    rcases view.tree.follow (directory.start view.cwd) directory.names with
      obstacle | ⟨place, _ | _⟩
    · rfl
    · rfl
    · simp only [if_neg down, if_neg short, Except.map]

/-- The directory of the temporary file is at the place that its names spell. -/
theorem eq_place_of_checkScratch (wellFormed : view.WellFormed) {place : Place}
    (checked : checkScratch view.tree view.cwd (path.directory.absolute view.cwd) = .ok place) :
    place = path.directory.place view.cwd := by
  obtain ⟨-, found⟩ := checkScratch_eq_ok_iff.1 checked
  obtain ⟨-, followed⟩ := find_eq_ok_iff.1 found
  have root : (path.directory.absolute view.cwd).start view.cwd = [] :=
    if_pos (isRoot_absolute ..)
  have home : Path.up ∉ path.directory.start view.cwd := by
    rw [Path.start]
    split
    · exact List.not_mem_nil
    · exact fun mem => (wellFormed.tree.named _ _ wellFormed.cwd _ mem).1 rfl
  rw [(FileTree.follow_eq_ok followed).1, root]
  exact Path.follow_eq_append (Path.up_notMem_follow home _)

/-- With the lines in the temporary file, the path names a place only if it did so before; the
obstacle is the same if the path does not hold the temporary name. -/
theorem exists_locate_scratchFile (wellFormed : view.WellFormed)
    (scratch : view.IsScratch temporary path) {obstacle : Obstacle}
    (failed : view.tree.locate view.cwd path = .error obstacle) (bytes : Bytes) :
    ∃ obstacle',
      (view.tree.put (view.scratchFile temporary path).names (.file bytes)).locate view.cwd path =
          .error obstacle' ∧
        (temporary ∉ path.names → obstacle' = obstacle) := by
  obtain ⟨obstacle', failed'⟩ := FileTree.exists_locate_put failed scratch.unused bytes
  refine ⟨obstacle', failed', fun apart => ?_⟩
  have start : view.tree.get? (path.start view.cwd) = some .directory := by
    rw [Path.start]
    split
    · rfl
    · exact wellFormed.cwd
  have aside : ¬(view.scratchFile temporary path).names <+: path.start view.cwd := by
    rintro ⟨rest, same⟩
    have there := scratch.unused
    rw [← same] at start
    by_cases whole : rest = []
    · rw [whole, List.append_nil, there] at start
      contradiction
    · rw [wellFormed.tree.directory_of_append start whole] at there
      contradiction
  have same : (view.tree.put (view.scratchFile temporary path).names (.file bytes)).locate view.cwd
      path = view.tree.locate view.cwd path :=
    FileTree.locate_put_of_notMem apart aside _
  rw [same, failed] at failed'
  exact (Except.error.inj failed').symm

/-- No directory is where a file can be written. -/
theorem free_of_locate (wellFormed : view.WellFormed) {existing : Option Place} {place : Place}
    (writable : view.writable path = .ok existing)
    (aim : view.tree.locate view.cwd path = .ok place) :
    view.tree.get? place ≠ some .directory := by
  obtain ⟨-, directory, name, followed, last, -, -, rfl⟩ := FileTree.locate_eq_ok_iff.1 aim
  obtain ⟨name', cut, -, -, free⟩ := exists_name_of_writable wellFormed writable followed
  rw [cut, List.getLast?_concat, Option.some.injEq] at last
  subst last
  rcases free with ⟨nothing, -⟩ | ⟨bytes, file, -⟩
  · simp [nothing]
  · simp [file]

theorem ne_scratchFile (scratch : view.IsScratch temporary path) {place : Place}
    (aim : view.tree.locate view.cwd path = .ok place) :
    place ≠ (view.scratchFile temporary path).names := by
  obtain ⟨-, directory, name, -, last, -, -, rfl⟩ := FileTree.locate_eq_ok_iff.1 aim
  intro same
  have named := List.singleton_inj.1 (List.append_inj' same rfl).2
  exact scratch.apart (last.trans (congrArg some named))

/-- With the lines in the temporary file, its move decides. -/
theorem replace_of_locate {existing : Option Place} (writable : view.writable path = .ok existing)
    (absent : view.tree.get? (view.scratchFile temporary path).names = none)
    (located : view.tree.locate view.cwd (view.scratchFile temporary path) =
      .ok (view.scratchFile temporary path).names) (lines : List Text) :
    view.replace temporary path lines =
      match (view.tree.put (view.scratchFile temporary path).names
        (.file (Utf8.encode lines.flatten))).move view.cwd
          (view.scratchFile temporary path) path with
      | .error obstacle =>
          (view.tree, .error (.unwritten path.render
            ⟨obstacle, (view.scratchFile temporary path).render, some path.render⟩))
      | .ok tree => (tree.remove view.cwd (view.scratchFile temporary path), .ok ()) := by
  have filled := FileTree.ne_nil_of_get?_eq_none absent
  cases moved : (view.tree.put (view.scratchFile temporary path).names
    (.file (Utf8.encode lines.flatten))).move view.cwd (view.scratchFile temporary path) path <;>
  simp only [replace, writable, FileTree.create, located, bind, Except.bind, pure, Except.pure,
    FileTree.foldl_append filled, List.nil_append, moved, FileTree.remove_put located absent]

/-- All steps together give the tree that is written, or the tree as it was. -/
theorem replace_eq (wellFormed : view.WellFormed) (scratch : view.IsScratch temporary path)
    (lines : List Text) :
    (∃ tree, view.write temporary path lines.flatten = .ok tree ∧
        view.replace temporary path lines = (tree, .ok ()) ∧
        tree.get? (view.scratchFile temporary path).names = none) ∨
      ∃ error error', view.write temporary path lines.flatten = .error error ∧
        view.replace temporary path lines = (view.tree, .error error') ∧
        (temporary ∉ path.names → error' = error) := by
  cases writable : view.writable path with
  | error error =>
      refine .inr ⟨error, error, ?_, ?_, fun _ => rfl⟩
      · simp only [write, writable]
      · simp only [replace, writable]
  | ok existing =>
      cases checked : checkScratch view.tree view.cwd (path.directory.absolute view.cwd) with
      | error obstacle =>
          have made : view.tree.locate view.cwd (view.scratchFile temporary path) =
              .error obstacle := by
            rw [locate_scratchFile scratch, checked]
            rfl
          refine .inr ⟨.unwritten path.render
            ⟨obstacle, (view.scratchFile temporary path).render, none⟩, _, ?_, ?_, fun _ => rfl⟩
          · simp only [write, writable, checked, scratchFile]
          · simp only [replace, writable, FileTree.create, made]
            rfl
      | ok directory =>
          have made : view.tree.locate view.cwd (view.scratchFile temporary path) =
              .ok (view.scratchFile temporary path).names := by
            rw [locate_scratchFile scratch, checked, eq_place_of_checkScratch wellFormed checked]
            rfl
          rw [replace_of_locate writable scratch.unused made]
          cases checked' : checkDirectory view.tree view.cwd path.directory with
          | error obstacle =>
              have aim : view.tree.locate view.cwd path = .error obstacle := by
                rw [locate_of_writable wellFormed writable, checked']
                rfl
              obtain ⟨obstacle', failed, same⟩ :=
                exists_locate_scratchFile wellFormed scratch aim (Utf8.encode lines.flatten)
              rw [FileTree.move_put_of_error made scratch.unused failed]
              refine .inr ⟨.unwritten path.render
                ⟨obstacle, (view.scratchFile temporary path).render, some path.render⟩, _, ?_, rfl,
                fun apart => by rw [same apart]⟩
              simp only [write, writable, checked, checked', scratchFile]
          | ok above =>
              have aim : view.tree.locate view.cwd path =
                  .ok (existing.getD (above ++ path.names.getLast?.toList)) := by
                rw [locate_of_writable wellFormed writable, checked']
                rfl
              have free := free_of_locate wellFormed writable aim
              have apart := ne_scratchFile scratch aim
              rw [FileTree.move_put made scratch.unused aim apart free]
              simp only [FileTree.remove_put_of_ne made scratch.unused apart free]
              refine .inl ⟨_, ?_, rfl, ?_⟩
              · simp only [write, writable, checked, checked']
              · rw [FileTree.get?_put _ _ _ _ (FileTree.ne_nil_of_ne_directory free), if_neg apart,
                  scratch.unused]

/-- Lines are written as a whole or not at all, and nothing else changes.  They are not written
exactly if something keeps the file from being written. -/
theorem replace_atomic (wellFormed : view.WellFormed) (scratch : view.IsScratch temporary path)
    (lines : List Text) :
    (∀ tree, view.replace temporary path lines = (tree, .ok ()) →
        view.HoldsAt tree path (Utf8.encode lines.flatten)) ∧
      (∀ tree error, view.replace temporary path lines = (tree, .error error) →
        tree = view.tree) ∧
      ((∃ error, (view.replace temporary path lines).2 = .error error) ↔
        view.Unwritable temporary path) ∧
      (view.replace temporary path lines).1.get? (view.scratchFile temporary path).names =
        none := by
  rw [unwritable_iff scratch]
  rcases replace_eq wellFormed scratch lines with
    ⟨tree, written, replaced, gone⟩ | ⟨error, error', refused, replaced, -⟩
  · have writable : view.Writable path := (exists_write_iff wellFormed).1 ⟨tree, written⟩
    rw [replaced]
    refine ⟨?_, by simp, ?_, gone⟩
    · rintro tree ⟨⟩
      exact holdsAt_of_write wellFormed written
    · simp [writable]
  · have stuck : ¬view.Writable path := by
      intro writable
      obtain ⟨tree, written⟩ := (exists_write_iff wellFormed).2 writable
      rw [refused] at written
      contradiction
    rw [replaced]
    refine ⟨by simp, ?_, ?_, scratch.unused⟩
    · rintro tree error ⟨⟩
      rfl
    · simp [stuck]

/-- A file is written in a directory that is there, and none in a directory that is not. -/
theorem replace_atomic_directory :
    let view : FileView :=
      ⟨FileTree.empty.plant ["w".toList, "po".toList] .directory, ["w".toList], []⟩
    let temporary := "tmpk3v_9x2a".toList
    let path := Path.ofText "po/sql.pot".toList
    let nowhere := Path.ofText "none/sql.pot".toList
    let lines := ["msgid \"A\"\n".toList, "msgstr \"\"\n".toList]
    let bytes := Utf8.encode "msgid \"A\"\nmsgstr \"\"\n".toList
    let tree := view.tree.put ["w".toList, "po".toList, "sql.pot".toList] (.file bytes)
    let error := AccessError.unwritten "none/sql.pot".toList
      ⟨.missing, "/w/none/tmpk3v_9x2a".toList, none⟩
    view.WellFormed ∧ view.IsScratch temporary path ∧ view.IsScratch temporary nowhere ∧
      view.replace temporary path lines = (tree, .ok ()) ∧ view.HoldsAt tree path bytes ∧
      view.replace temporary nowhere lines = (view.tree, .error error) ∧
      view.Unwritable temporary nowhere := by
  intro view temporary path nowhere lines bytes tree error
  have wellFormed : view.WellFormed := by decide +kernel
  have scratch : view.IsScratch temporary path := by decide +kernel
  have scratch' : view.IsScratch temporary nowhere := by decide +kernel
  have written : view.replace temporary path lines = (tree, .ok ()) := by decide +kernel
  have refused : view.replace temporary nowhere lines = (view.tree, .error error) := by
    decide +kernel
  have joined : Utf8.encode lines.flatten = bytes := by decide +kernel
  obtain ⟨holds, -⟩ := replace_atomic wellFormed scratch lines
  obtain ⟨-, -, fails, -⟩ := replace_atomic wellFormed scratch' lines
  rw [joined] at holds
  exact ⟨wellFormed, scratch, scratch', written, holds tree written, refused,
    fails.1 ⟨error, congrArg Prod.snd refused⟩⟩

/-- In a directory with a path that is nearly too long, no file is written, though its path is short
and leads to nothing and its directory is there. -/
theorem replace_refuses_long_directory :
    let cwd := List.replicate 15 (List.replicate 85 '語') ++ [List.replicate 82 '語']
    let view : FileView := ⟨FileTree.empty.plant cwd .directory, cwd, []⟩
    let temporary := "tmpk3v_9x2a".toList
    let path := Path.ofText "sql.pot".toList
    view.WellFormed ∧ view.IsScratch temporary path ∧ path.hasNul = false ∧
      view.find path = .error .missing ∧ view.find path.directory = .ok (cwd, .directory) ∧
      (view.replace temporary path ["x\n".toList]).2 = .error (.unwritten "sql.pot".toList
        ⟨.nameTooLong, (view.scratchFile temporary path).render, none⟩) := by
  decide +kernel

end FileView

end SeedCatalog
