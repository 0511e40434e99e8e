import Mathlib
import SeedCatalog.Proofs.Catalog.Grouping
import SeedCatalog.Proofs.Catalog.Written
import SeedCatalog.Proofs.Text.Line

/-!
# Reading a written catalog back

A written catalog is a sequence of blocks, and a block tells its parts apart: a line that begins as
a location is one, up to the line feed that its source cannot hold; and the text between double
quotes ends at the first quote that no backslash stands before, whatever lines it seems to be made
of.
-/

namespace SeedCatalog

open Text

/-! ## Locations -/

namespace Location

/-- The number of a line is written with digits and a hyphen, and with nothing else. -/
theorem mem_line {line : Int} {c : Char} (mem : c ∈ (toString line).toList) :
    c.isDigit = true ∨ c = '-' := by
  have digits : ∀ {n : Nat}, c ∈ n.repr.toList → c.isDigit = true := by
    intro n mem
    rw [Nat.toList_repr] at mem
    exact Nat.isDigit_of_mem_toDigits (by decide) (by decide) mem
  cases line with
  | ofNat n => exact .inl (digits mem)
  | negSucc n =>
      have mem : c ∈ ("-" ++ (n + 1).repr).toList := mem
      rw [String.toList_append] at mem
      rcases List.mem_append.1 mem with sign | mem
      · exact .inr (List.mem_singleton.1 sign)
      · exact .inl (digits mem)

/-- Read a location as it is written. -/
def read? (text : Text) : Option Location :=
  (cutLast? ':' text).bind fun cut =>
    (String.ofList cut.2).toInt?.map fun line => ⟨cut.1, line⟩

theorem read?_written (location : Location) : read? location.written = some location := by
  have absent : ':' ∉ (toString location.line).toList := by
    intro mem
    rcases mem_line mem with digit | same <;> contradiction
  have number : (toString location.line).toInt? = some location.line := Int.toInt?_repr _
  rw [read?, written, cutLast?_append_cons absent, Option.bind_some]
  simp only [String.ofList_toList, number, Option.map_some]

theorem newline_not_mem_written {location : Location} (inLine : '\n' ∉ location.source) :
    '\n' ∉ location.written := by
  intro mem
  rcases List.mem_append.1 mem with source | mem
  · exact inLine source
  · rcases List.mem_cons.1 mem with same | mem
    · contradiction
    · rcases mem_line mem with digit | same <;> contradiction

end Location

namespace Catalog

/-! ## The parts of a block -/

theorem length_of_dropPrefix? {start text rest : Text} (read : text.dropPrefix? start = some rest) :
    text.length = start.length + rest.length := by
  obtain ⟨start', rfl, same⟩ := List.dropPrefix?_eq_some_iff.1 read
  rw [List.length_append, eq_of_beq same]

theorem dropPrefix?_append (start rest : Text) : (start ++ rest).dropPrefix? start = some rest :=
  List.dropPrefix?_append_of_beq rest (beq_self_eq_true start)

/-- The text behind the first line of a text. -/
def behindLine (text : Text) : Text :=
  (text.dropWhile (· != '\n')).tail

/-- The text behind the line of a location is shorter. -/
theorem length_behindLine_lt {text rest : Text}
    (read : text.dropPrefix? locationStart = some rest) :
    (behindLine rest).length < text.length := by
  have shorter := length_of_dropPrefix? read
  have suffix := length_dropWhile_le (· != '\n') rest
  simp only [behindLine, List.length_tail, locationStart, List.length_cons,
    List.length_nil] at shorter ⊢
  omega

/-- Read the lines of locations in front of a text, and return the text behind them. -/
def readLocations? (text : Text) : Option (List Location × Text) :=
  match read : text.dropPrefix? locationStart with
  | none => some ([], text)
  | some rest =>
      have := length_behindLine_lt read
      (Location.read? (rest.takeWhile (· != '\n'))).bind fun location =>
        (readLocations? (behindLine rest)).map fun others => (location :: others.1, others.2)
termination_by text.length

/-- Read a text up to the double quote that closes it, given whether a backslash stands before the
first character. -/
def readQuotedFrom? : (escaped : Bool) → Text → Option (Text × Text)
  | _, [] => none
  | escaped, c :: rest =>
      if escaped = false ∧ c = '"' then some ([], rest)
      else if escaped = false ∧ c = '\\' then readQuotedFrom? true rest
      else (readQuotedFrom? false rest).map fun run => (c :: run.1, run.2)

/-- Read a text up to the double quote that closes it, from behind the one that opens it. -/
def readQuoted? (text : Text) : Option (Text × Text) :=
  readQuotedFrom? false text

/-- Read the block of one text, and return what stands behind it. -/
def readBlock? (text : Text) : Option ((Text × List Location) × Text) :=
  (readLocations? text).bind fun (locations, text) =>
    (text.dropPrefix? quotedStart).bind fun text =>
      (readQuoted? text).bind fun (quoted, text) =>
        (text.dropPrefix? blockEnd).map fun text => ((quoted, locations), text)

theorem readQuoted?_escape (text rest : Text) :
    readQuoted? (escape text ++ '"' :: rest) = some (text, rest) := by
  induction text with
  | nil => rfl
  | cons c text ih =>
      rw [readQuoted?] at ih
      rw [readQuoted?, escape]
      split
      · simp [readQuotedFrom?, ih]
      · rename_i plain
        rw [not_or] at plain
        simp [readQuotedFrom?, ih, plain.1, plain.2]

theorem readLocations?_locationLine {location : Location} (inLine : '\n' ∉ location.source)
    (rest : Text) :
    readLocations? (locationLine location ++ rest) =
      (readLocations? rest).map fun others => (location :: others.1, others.2) := by
  have within : ∀ c ∈ location.written, (c != '\n') = true := by
    intro c mem
    rw [bne_iff_ne]
    rintro rfl
    exact location.newline_not_mem_written inLine mem
  have starts : (locationLine location ++ rest).dropPrefix? locationStart =
      some (location.written ++ '\n' :: rest) := by
    rw [locationLine, List.append_assoc, List.append_assoc]
    exact dropPrefix?_append _ _
  have line : (location.written ++ '\n' :: rest).takeWhile (· != '\n') = location.written := by
    rw [List.takeWhile_append_of_pos within]
    exact List.append_nil _
  have behind : behindLine (location.written ++ '\n' :: rest) = rest :=
    congrArg List.tail (List.dropWhile_append_of_pos within)
  rw [readLocations?]
  split
  · rename_i other
    rw [starts] at other
    contradiction
  · rename_i text read
    rw [starts] at read
    cases read
    simp only [line, behind, Location.read?_written, Option.bind_some]

/-- The lines of locations end where a line begins in another way. -/
theorem readLocations?_other {text : Text}
    (other : text.dropPrefix? locationStart = none) : readLocations? text = some ([], text) := by
  rw [readLocations?]
  split
  · rfl
  · rename_i read
    rw [other] at read
    contradiction

theorem readLocations?_locationLines {locations : List Location}
    (inLine : ∀ location ∈ locations, '\n' ∉ location.source) {rest : Text}
    (other : rest.dropPrefix? locationStart = none) :
    readLocations? (locations.flatMap locationLine ++ rest) = some (locations, rest) := by
  induction locations with
  | nil => exact readLocations?_other other
  | cons location locations ih =>
      have ih := ih fun location mem => inLine location (List.mem_cons_of_mem _ mem)
      rw [List.flatMap_cons, List.append_assoc,
        readLocations?_locationLine (inLine location List.mem_cons_self), ih]
      rfl

/-! ## Blocks -/

/-- A block is read up to its end, whatever follows it. -/
theorem readBlock?_block {locations : List Location}
    (inLine : ∀ location ∈ locations, '\n' ∉ location.source) (text rest : Text) :
    readBlock? (block text locations ++ rest) = some ((text, locations), rest) := by
  have whole : block text locations ++ rest =
      locations.flatMap locationLine ++
        (quotedStart ++ (escape text ++ '"' :: (blockEnd ++ rest))) := by
    simp only [block, List.append_assoc, List.cons_append]
  have other : (quotedStart ++ (escape text ++ '"' :: (blockEnd ++ rest))).dropPrefix?
      locationStart = none := rfl
  simp only [whole, readBlock?, readLocations?_locationLines inLine other, Option.bind_some,
    dropPrefix?_append, readQuoted?_escape, Option.map_some]

theorem length_of_readLocations? {text : Text} {read : List Location × Text}
    (done : readLocations? text = some read) : read.2.length ≤ text.length := by
  fun_induction readLocations? text generalizing read with
  | case1 text other =>
      cases done
      exact Nat.le_refl _
  | case2 text rest starts shorter ih =>
      obtain ⟨location, _, done⟩ := Option.bind_eq_some_iff.1 done
      obtain ⟨others, next, rfl⟩ := Option.map_eq_some_iff.1 done
      exact (ih next).trans (Nat.le_of_lt shorter)

theorem length_of_readQuotedFrom? {escaped : Bool} {text : Text} {read : Text × Text}
    (done : readQuotedFrom? escaped text = some read) : read.2.length ≤ text.length := by
  fun_induction readQuotedFrom? escaped text generalizing read with
  | case1 => contradiction
  | case2 escaped c rest closes =>
      cases done
      exact Nat.le_succ _
  | case3 escaped c rest goesOn escapes ih => exact (ih done).trans (Nat.le_succ _)
  | case4 escaped c rest goesOn plain ih =>
      obtain ⟨run, next, rfl⟩ := Option.map_eq_some_iff.1 done
      exact (ih next).trans (Nat.le_succ _)

/-- A block has characters, so that the text behind it is shorter. -/
theorem length_of_readBlock? {text : Text} {read : (Text × List Location) × Text}
    (done : readBlock? text = some read) : read.2.length < text.length := by
  obtain ⟨locations, located, done⟩ := Option.bind_eq_some_iff.1 done
  obtain ⟨inside, opened, done⟩ := Option.bind_eq_some_iff.1 done
  obtain ⟨quoted, closed, done⟩ := Option.bind_eq_some_iff.1 done
  obtain ⟨rest, ended, rfl⟩ := Option.map_eq_some_iff.1 done
  have first := length_of_readLocations? located
  have second := length_of_dropPrefix? opened
  have third : quoted.2.length ≤ inside.length := length_of_readQuotedFrom? closed
  have fourth := length_of_dropPrefix? ended
  simp only [quotedStart, blockEnd, List.length_cons, List.length_nil] at second fourth ⊢
  omega

/-- Read the blocks of a catalog, up to the end of the text. -/
def decode? (text : Text) : Option (List (Text × List Location)) :=
  if text = [] then some []
  else
    match read : readBlock? text with
    | none => none
    | some (entry, rest) =>
        have := length_of_readBlock? read
        (decode? rest).map (entry :: ·)
termination_by text.length

theorem decode?_block {locations : List Location}
    (inLine : ∀ location ∈ locations, '\n' ∉ location.source) (text rest : Text) :
    decode? (block text locations ++ rest) =
      (decode? rest).map ((text, locations) :: ·) := by
  have first := readBlock?_block inLine text rest
  have filled : block text locations ++ rest ≠ [] := by
    intro empty
    rw [empty] at first
    exact absurd (length_of_readBlock? first) (Nat.not_lt_zero _)
  rw [decode?, if_neg filled]
  split
  · rename_i failed
    rw [first] at failed
    contradiction
  · rename_i read
    rw [first] at read
    cases read
    rfl

/-- Blocks are read one after the other. -/
theorem decode?_blocks {entries : List (Text × List Location)}
    (inLine : ∀ entry ∈ entries, ∀ location ∈ entry.2, '\n' ∉ location.source) :
    decode? (entries.flatMap fun entry => block entry.1 entry.2) = some entries := by
  induction entries with
  | nil => rw [decode?]; rfl
  | cons entry entries ih =>
      have ih := ih fun entry mem => inLine entry (List.mem_cons_of_mem _ mem)
      rw [List.flatMap_cons,
        decode?_block (inLine entry List.mem_cons_self), ih]
      rfl

/-! ## The catalog of records -/

/-- A location in a grouping is one of the records. -/
theorem mem_grouping {records : List (Text × Location)} {entry : Text × List Location}
    (mem : entry ∈ grouping records) {location : Location} (among : location ∈ entry.2) :
    (entry.1, location) ∈ records := by
  obtain ⟨text, _, rfl⟩ := List.mem_map.1 mem
  obtain ⟨record, kept, rfl⟩ := List.mem_map.1 among
  obtain ⟨record, same⟩ := List.mem_filter.1 kept
  rw [← of_decide_eq_true same]
  exact record

/-- What is written of records tells their grouping. -/
theorem decode?_of_serialize {records : List (Text × Location)}
    (inLine : ∀ record ∈ records, '\n' ∉ record.2.source) {text : Text}
    (written : (empty.recordAll records).serialize = .ok text) :
    decode? text = some (grouping records) := by
  by_cases short : (empty.recordAll records).IsShort
  · rw [serialize_of_isShort short, entries_recordAll] at written
    cases written
    exact decode?_blocks fun _ mem _ among => inLine _ (mem_grouping mem among)
  · rw [serialize_of_not_isShort short] at written
    contradiction

end Catalog

end SeedCatalog
