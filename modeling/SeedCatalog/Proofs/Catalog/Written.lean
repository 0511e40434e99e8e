import SeedCatalog.Proofs.Catalog.Grouping

/-!
# When a catalog is written

A catalog is written unless one of its lines has a number with too many digits.
-/

namespace SeedCatalog

section

variable {ε α β : Type} {step : α → Except ε β} {items : List α}

theorem mapM_eq_ok {value : α → β} (each : ∀ item ∈ items, step item = .ok (value item)) :
    items.mapM step = .ok (items.map value) := by
  induction items with
  | nil => rfl
  | cons item items ih =>
      rw [List.mapM_cons, each item List.mem_cons_self,
        ih fun item mem => each item (List.mem_cons_of_mem _ mem)]
      rfl

/-- Where there is but one error, one step that fails is enough. -/
theorem mapM_eq_error [Subsingleton ε] {error : ε} {item : α} (mem : item ∈ items)
    (failed : step item = .error error) : items.mapM step = .error error := by
  induction items with
  | nil => contradiction
  | cons first items ih =>
      rw [List.mapM_cons]
      rcases done : step first with error' | value
      · exact congrArg Except.error (Subsingleton.elim ..)
      · have mem : item ∈ items := by
          refine (List.mem_cons.1 mem).resolve_left ?_
          rintro rfl
          rw [failed] at done
          contradiction
        rw [ih mem]
        rfl

end

instance : Subsingleton Text.IntegerError :=
  ⟨fun .tooManyDigits .tooManyDigits => rfl⟩

namespace Location

variable {location : Location}

/-- The number of the line is written. -/
def IsShort (location : Location) : Prop :=
  location.line.natAbs < Text.leastTooLong

instance : Decidable location.IsShort :=
  inferInstanceAs (Decidable (_ < _))

/-- A location as it is written, with all digits. -/
def written (location : Location) : Text :=
  location.source ++ ':' :: (toString location.line).toList

theorem render_of_isShort (short : location.IsShort) : location.render = .ok location.written := by
  have within : location.line.natAbs < Text.leastTooLong := short
  rw [render, Text.ofInteger, if_pos within]
  rfl

theorem render_of_not_isShort (long : ¬location.IsShort) :
    location.render = .error .tooManyDigits := by
  have beyond : ¬location.line.natAbs < Text.leastTooLong := long
  rw [render, Text.ofInteger, if_neg beyond]
  rfl

end Location

namespace Catalog

/-- How the line of a location begins. -/
def locationStart : Text :=
  ['#', ':', ' ']

/-- What stands in front of a quoted text. -/
def quotedStart : Text :=
  ['m', 's', 'g', 'i', 'd', ' ', '"']

/-- What stands behind the double quote that closes a text, up to the end of its block. -/
def blockEnd : Text :=
  ['\n', 'm', 's', 'g', 's', 't', 'r', ' ', '"', '"', '\n', '\n']

/-- The line of a location. -/
def locationLine (location : Location) : Text :=
  locationStart ++ location.written ++ ['\n']

/-- The block of a text. -/
def block (text : Text) (locations : List Location) : Text :=
  locations.flatMap locationLine ++ (quotedStart ++ (escape text ++ '"' :: blockEnd))

/-- The lines of the block of a text. -/
def blockLines (text : Text) (locations : List Location) : List Text :=
  locations.map locationLine ++
    [quotedStart ++ escape text ++ ['"', '\n'],
      ['m', 's', 'g', 's', 't', 'r', ' ', '"', '"', '\n'], ['\n']]

theorem flatten_blockLines (text : Text) (locations : List Location) :
    (blockLines text locations).flatten = block text locations := by
  rw [blockLines, List.flatten_append, block, List.flatMap]
  congr 1
  simp [blockEnd]

theorem renderEntry_of_isShort {locations : List Location}
    (short : ∀ location ∈ locations, location.IsShort) (text : Text) :
    renderEntry text locations = .ok (blockLines text locations) := by
  rw [renderEntry, mapM_eq_ok fun location mem => Location.render_of_isShort (short location mem),
    Except.map, List.map_map]
  rfl

theorem renderEntry_of_not_isShort {locations : List Location} {location : Location}
    (mem : location ∈ locations) (long : ¬location.IsShort) (text : Text) :
    renderEntry text locations = .error .tooManyDigits := by
  rw [renderEntry, mapM_eq_error mem (Location.render_of_not_isShort long)]
  rfl

/-- All numbers of lines in a catalog are written. -/
def IsShort (catalog : Catalog) : Prop :=
  ∀ entry ∈ catalog.entries.entries, ∀ location ∈ entry.2, location.IsShort

variable {catalog : Catalog}

theorem isShort_iff : catalog.IsShort ↔
    ∀ text, ∀ location ∈ catalog.locations text, location.IsShort := by
  constructor
  · intro short text location among
    rw [locations] at among
    cases found : catalog.entries.get? text with
    | none => simp [found] at among
    | some locations =>
        rw [found, Option.getD_some] at among
        exact short (text, locations) (OrderedMap.mem_entries_iff.2 found) location among
  · intro short entry mem location among
    exact short entry.1 location (locations_of_mem mem ▸ among)

/-- The numbers of a catalog stay short when records with short numbers are added, and only then. -/
theorem isShort_recordAll_iff {records : List (Text × Location)} :
    (catalog.recordAll records).IsShort ↔
      catalog.IsShort ∧ ∀ record ∈ records, record.2.IsShort := by
  simp only [isShort_iff, locations_recordAll, List.mem_append, List.mem_map, List.mem_filter,
    decide_eq_true_eq]
  constructor
  · intro short
    refine ⟨fun text location among => short text location (.inl among), fun record mem => ?_⟩
    exact short record.1 record.2 (.inr ⟨record, ⟨mem, rfl⟩, rfl⟩)
  · rintro ⟨before, added⟩ text location (among | ⟨record, ⟨mem, -⟩, rfl⟩)
    · exact before text location among
    · exact added record mem

theorem isShort_empty : empty.IsShort :=
  nofun

/-- A catalog is written block by block if all its numbers are. -/
theorem serialize_of_isShort (short : catalog.IsShort) :
    catalog.serialize =
      .ok (catalog.entries.entries.flatMap fun entry => block entry.1 entry.2) := by
  rw [serialize, render,
    mapM_eq_ok fun entry mem => renderEntry_of_isShort (short entry mem) entry.1]
  simp only [Except.map, List.flatMap, ← flatten_blockLines, List.flatten_flatten, List.map_map]
  rfl

/-- Nothing is written of a catalog with a number that is not. -/
theorem serialize_of_not_isShort (long : ¬catalog.IsShort) :
    catalog.serialize = .error .tooManyDigits := by
  simp only [IsShort, Classical.not_forall] at long
  obtain ⟨entry, mem, location, among, long⟩ := long
  rw [serialize, render, mapM_eq_error mem (renderEntry_of_not_isShort among long entry.1)]
  rfl

end Catalog

end SeedCatalog
