import SeedCatalog.Proofs.Registry
import SeedCatalog.Proofs.Sql.LineComment
import SeedCatalog.Proofs.Text.Blank
import SeedCatalog.Proofs.Text.Line
import SeedCatalog.Sql.Token

/-!
# Unquoted names

An unquoted ASCII name is read back whole wherever no character follows it that
would continue it.  It stands for its lower case, and the lower case stands for
itself, so that a table of such a name can be looked up by what the registry
stored.
-/

namespace SeedCatalog

open Sql

/-! ## ASCII characters -/

/-- What holds of the first 128 characters holds of every ASCII character. -/
theorem forall_ascii {p : Char → Prop} (each : ∀ n : Fin 128, p (Char.ofNat n)) {c : Char}
    (ascii : c.toNat < 128) : p c := by
  have holds := each ⟨c.toNat, ascii⟩
  rwa [Char.ofNat_toNat] at holds

/-- Whether a character is a space, a tab or a line feed. -/
def isGap (c : Char) : Bool :=
  c == ' ' || c == '\t' || c == '\n'

/-- Whether a character may stand in an unquoted ASCII name. -/
def isNamePart (c : Char) : Bool :=
  c.isAlphanum || c == '_' || c == '$'

/-- Whether a character may stand in a bare ASCII word. -/
def isBarePart (c : Char) : Bool :=
  c.isAlphanum || c == '_' || c == '.'

theorem toNat_of_isAlphanum {c : Char} (alphanum : c.isAlphanum = true) : c.toNat < 128 := by
  delta Char.isAlphanum Char.isAlpha Char.isUpper Char.isLower Char.isDigit at alphanum
  simp only [Bool.or_eq_true, Bool.and_eq_true, decide_eq_true_eq, UInt32.le_iff_toNat_le,
    ge_iff_le] at alphanum
  change c.val.toNat < 128
  rcases alphanum with (⟨_, upper⟩ | ⟨_, lower⟩) | ⟨_, digit⟩
  · exact Nat.lt_of_le_of_lt upper (by decide)
  · exact Nat.lt_of_le_of_lt lower (by decide)
  · exact Nat.lt_of_le_of_lt digit (by decide)

theorem toNat_of_isNamePart {c : Char} (part : isNamePart c = true) : c.toNat < 128 := by
  simp only [isNamePart, Bool.or_eq_true, beq_iff_eq] at part
  rcases part with (alphanum | rfl) | rfl
  · exact toNat_of_isAlphanum alphanum
  · decide
  · decide

theorem toNat_of_isBarePart {c : Char} (part : isBarePart c = true) : c.toNat < 128 := by
  simp only [isBarePart, Bool.or_eq_true, beq_iff_eq] at part
  rcases part with (alphanum | rfl) | rfl
  · exact toNat_of_isAlphanum alphanum
  · decide
  · decide

/-! ## Blanks and word characters -/

/-- The letters and numbers outside ASCII leave the blanks out. -/
theorem blank_not_mem_wordRanges : ∀ range ∈ wordRanges,
    range.2 < 0x85 ∨ (0x85 < range.1 ∧ range.2 < 0xA0) ∨ (0xA0 < range.1 ∧ range.2 < 0x1680) ∨
      (0x1680 < range.1 ∧ range.2 < 0x2000) ∨ (0x205F < range.1 ∧ range.2 < 0x3000) ∨
      0x3000 < range.1 := by
  decide +kernel

/-- No blank belongs to a word. -/
theorem not_isWord_of_isBlank {c : Char} (blank : isBlank c = true) : isWord c = false := by
  by_cases ascii : c.toNat < 128
  · exact forall_ascii (p := fun c => isBlank c = true → isWord c = false) (by decide) ascii blank
  · rw [isWord, if_neg ascii, CharRanges.covers, List.any_eq_false]
    intro range mem
    have apart := blank_not_mem_wordRanges range mem
    simp only [isBlank, Bool.or_eq_true, Bool.and_eq_true, decide_eq_true_eq, beq_iff_eq]
      at blank ⊢
    omega

theorem not_isBlank_of_isWord {c : Char} (word : isWord c = true) : isBlank c = false := by
  cases blank : isBlank c with
  | false => rfl
  | true => simp [not_isWord_of_isBlank blank] at word

theorem isInert_of_isWord {c : Char} (word : isWord c = true) : isInert c = true := by
  simp only [isInert, Bool.and_eq_true, bne_iff_ne]
  refine ⟨⟨⟨?_, ?_⟩, ?_⟩, ?_⟩
  all_goals
    rintro rfl
    contradiction

theorem isWord_or_eq_of_continuesIdentifier {c : Char} (continues : continuesIdentifier c = true) :
    isWord c = true ∨ c = '$' := by
  simpa [continuesIdentifier] using continues

theorem not_continuesIdentifier_of_isBlank {c : Char} (blank : isBlank c = true) :
    continuesIdentifier c = false := by
  have noDollar : c ≠ '$' := by
    rintro rfl
    contradiction
  simp [continuesIdentifier, not_isWord_of_isBlank blank, noDollar]

theorem not_isBlank_of_continuesIdentifier {c : Char} (continues : continuesIdentifier c = true) :
    isBlank c = false := by
  cases blank : isBlank c with
  | false => rfl
  | true => simp [not_continuesIdentifier_of_isBlank blank] at continues

theorem isInert_of_continuesIdentifier {c : Char} (continues : continuesIdentifier c = true) :
    isInert c = true := by
  rcases isWord_or_eq_of_continuesIdentifier continues with word | rfl
  · exact isInert_of_isWord word
  · rfl

theorem isWord_of_beginsIdentifier {c : Char} (begins : beginsIdentifier c = true) :
    isWord c = true := by
  have ascii : c.toNat < 128 := by
    simp only [beginsIdentifier, Bool.or_eq_true, beq_iff_eq] at begins
    rcases begins with alpha | rfl
    · exact toNat_of_isAlphanum (by simp [Char.isAlphanum, alpha])
    · decide
  rw [isWord_of_ascii ascii]
  simp only [beginsIdentifier, Bool.or_eq_true] at begins
  rcases begins with alpha | underscore
  · simp [Char.isAlphanum, alpha]
  · simp [underscore]

/-! ## Gaps -/

/-- The text is made of spaces, tabs and line feeds. -/
def Text.IsGap (text : Text) : Prop :=
  text.all isGap = true

theorem eq_of_isGap {c : Char} (gap : isGap c = true) : c = ' ' ∨ c = '\t' ∨ c = '\n' := by
  simpa [isGap, or_assoc] using gap

namespace Text.IsGap

variable {gap : Text}

theorem nil : IsGap [] :=
  rfl

theorem append {second : Text} (spaced : gap.IsGap) (spaced' : second.IsGap) :
    (gap ++ second).IsGap := by
  rw [IsGap, List.all_append, spaced, spaced']
  rfl

theorem allBlank (spaced : gap.IsGap) : gap.allBlank = true := by
  rw [Text.allBlank, List.all_eq_true]
  intro c mem
  rcases eq_of_isGap (List.all_eq_true.1 spaced c mem) with rfl | rfl | rfl <;> rfl

theorem closed (spaced : gap.IsGap) : Closed gap := by
  apply closed_of_all
  rw [List.all_eq_true]
  intro c mem
  rcases eq_of_isGap (List.all_eq_true.1 spaced c mem) with rfl | rfl | rfl <;> rfl

end Text.IsGap

/-- Whether a text does not go on with a character of a class. -/
def Text.stopsAt (p : Char → Bool) (text : Text) : Bool :=
  !text.head?.any p

theorem Text.stopsAt_append {p : Char → Bool} {first second : Text}
    (stops : first.all fun c => !p c) (stops' : second.stopsAt p = true) :
    (first ++ second).stopsAt p = true := by
  cases first with
  | nil => exact stops'
  | cons c first => simp_all [Text.stopsAt]

/-! ## The characters of names and bare words -/

theorem not_isBlank_of_isNamePart {c : Char} (part : isNamePart c = true) : isBlank c = false :=
  forall_ascii (p := fun c => isNamePart c = true → isBlank c = false) (by decide)
    (toNat_of_isNamePart part) part

theorem ne_dot_of_isNamePart {c : Char} (part : isNamePart c = true) : c ≠ '.' := by
  rintro rfl
  contradiction

theorem continuesIdentifier_of_isNamePart {c : Char} (part : isNamePart c = true) :
    continuesIdentifier c = true :=
  forall_ascii (p := fun c => isNamePart c = true → continuesIdentifier c = true)
    (by decide +kernel) (toNat_of_isNamePart part) part

theorem isNamePart_toLower {c : Char} (part : isNamePart c = true) :
    isNamePart c.toLower = true :=
  forall_ascii (p := fun c => isNamePart c = true → isNamePart c.toLower = true) (by decide)
    (toNat_of_isNamePart part) part

theorem toLower_toLower_of_isNamePart {c : Char} (part : isNamePart c = true) :
    c.toLower.toLower = c.toLower :=
  forall_ascii (p := fun c => c.toLower.toLower = c.toLower) (by decide)
    (toNat_of_isNamePart part)

theorem isInert_of_isBarePart {c : Char} (part : isBarePart c = true) : isInert c = true :=
  forall_ascii (p := fun c => isBarePart c = true → isInert c = true) (by decide)
    (toNat_of_isBarePart part) part

theorem not_isBlank_of_isBarePart {c : Char} (part : isBarePart c = true) : isBlank c = false :=
  forall_ascii (p := fun c => isBarePart c = true → isBlank c = false) (by decide)
    (toNat_of_isBarePart part) part

/-! ## Names -/

/-- An unquoted name.  Behind its first character there may be letters of any script. -/
structure UnquotedName where
  text : Text
  begins : text.head?.any beginsIdentifier = true
  continues : text.all continuesIdentifier = true

namespace UnquotedName

variable (name : UnquotedName)

/-- A name has a first letter. -/
theorem exists_cons : ∃ c others, name.text = c :: others ∧ beginsIdentifier c = true := by
  have begins := name.begins
  cases written : name.text with
  | nil =>
      rw [written] at begins
      contradiction
  | cons c others =>
      rw [written] at begins
      exact ⟨c, others, rfl, begins⟩

theorem continuesIdentifier_of_mem {c : Char} (mem : c ∈ name.text) :
    continuesIdentifier c = true :=
  List.all_eq_true.1 name.continues c mem

theorem closed : Closed name.text := by
  apply closed_of_all
  rw [List.all_eq_true]
  intro c mem
  exact isInert_of_continuesIdentifier (name.continuesIdentifier_of_mem mem)

/-- A name is read whole where no character follows that would continue it. -/
theorem identifier?_eq {rest : Text} (stops : rest.stopsAt continuesIdentifier = true) :
    identifier? (name.text ++ rest) = some (name.text, rest) := by
  obtain ⟨c, others, written, begins⟩ := name.exists_cons
  have noQuote : c ≠ '"' := by
    rintro rfl
    contradiction
  have continues : ∀ d ∈ others, continuesIdentifier d = true := by
    intro d mem
    apply name.continuesIdentifier_of_mem
    rw [written]
    exact List.mem_cons_of_mem c mem
  have taken : rest.takeWhile continuesIdentifier = [] ∧
      rest.dropWhile continuesIdentifier = rest := by
    cases rest with
    | nil => exact ⟨rfl, rfl⟩
    | cons d rest => simp_all [Text.stopsAt]
  rw [written, List.cons_append, identifier?, if_neg noQuote, if_pos begins,
    List.takeWhile_append_of_pos continues, List.dropWhile_append_of_pos continues, taken.1,
    taken.2, List.append_nil]

end UnquotedName

/-- An unquoted ASCII name. -/
structure PlainName where
  text : Text
  begins : text.head?.any beginsIdentifier = true
  parts : text.all isNamePart = true

namespace PlainName

variable (name : PlainName)

theorem isNamePart_of_mem {c : Char} (mem : c ∈ name.text) : isNamePart c = true :=
  List.all_eq_true.1 name.parts c mem

@[reducible]
def unquoted : UnquotedName where
  text := name.text
  begins := name.begins
  continues := by
    rw [List.all_eq_true]
    intro c mem
    exact continuesIdentifier_of_isNamePart (name.isNamePart_of_mem mem)

theorem closed : Closed name.text :=
  name.unquoted.closed

end PlainName

/-! ## What a name stands for -/

theorem partsFrom_of_all {text : Text} (parts : text.all isNamePart = true) :
    Identifier.partsFrom false text = [text] := by
  induction text with
  | nil => rfl
  | cons c rest ih =>
      rw [List.all_cons, Bool.and_eq_true] at parts
      have noQuote : c ≠ '"' := by
        rintro rfl
        simp [isNamePart] at parts
      have noDot := ne_dot_of_isNamePart parts.1
      rw [Identifier.partsFrom, if_neg noQuote, if_neg (fun dot => noDot dot.1), ih parts.2]
      rfl

/-- A dot ends a part. -/
theorem partsFrom_dot {text : Text} (parts : text.all isNamePart = true) (rest : Text) :
    Identifier.partsFrom false (text ++ '.' :: rest) =
      text :: Identifier.partsFrom false rest := by
  induction text with
  | nil => rfl
  | cons c text ih =>
      rw [List.all_cons, Bool.and_eq_true] at parts
      have noQuote : c ≠ '"' := by
        rintro rfl
        simp [isNamePart] at parts
      have noDot := ne_dot_of_isNamePart parts.1
      rw [List.cons_append, Identifier.partsFrom, if_neg noQuote, if_neg (fun dot => noDot dot.1),
        ih parts.2]
      rfl

theorem strip_of_all {text : Text} (parts : text.all isNamePart = true) : text.strip = text := by
  have filled : ∀ c ∈ text, ¬isBlank c = true := by
    intro c mem
    rw [not_isBlank_of_isNamePart (List.all_eq_true.1 parts c mem)]
    simp
  have keep : ∀ line : Text, (∀ c ∈ line, ¬isBlank c = true) → line.dropWhile isBlank = line := by
    intro line filled
    cases line with
    | nil => rfl
    | cons c line => exact List.dropWhile_cons_of_neg (filled c List.mem_cons_self)
  rw [Text.strip, Text.skipBlanks, keep text filled, Text.dropEndWhile,
    keep _ fun c mem => filled c (List.mem_reverse.1 mem), List.reverse_reverse]

theorem normalizePart_of_all {text : Text} (parts : text.all isNamePart = true) :
    Identifier.normalizePart text = text.lower := by
  have unquoted : Identifier.isQuoted text = false := by
    cases text with
    | nil => rfl
    | cons c rest =>
        have noQuote : c ≠ '"' := by
          rintro rfl
          simp [isNamePart] at parts
        simp [Identifier.isQuoted, noQuote]
  rw [Identifier.normalizePart, strip_of_all parts]
  simp [unquoted]

/-- Unquoted, an identifier stands for its lower case. -/
theorem normalize_of_all {text : Text} (parts : text.all isNamePart = true) :
    Identifier.normalize text = text.lower := by
  rw [Identifier.normalize, Identifier.parts, partsFrom_of_all parts, List.map_singleton, Text.join,
    normalizePart_of_all parts]

theorem normalize_dot {first second : Text} (parts : first.all isNamePart = true)
    (parts' : second.all isNamePart = true) :
    Identifier.normalize (first ++ '.' :: second) = first.lower ++ '.' :: second.lower := by
  rw [Identifier.normalize, Identifier.parts, partsFrom_dot parts, partsFrom_of_all parts',
    List.map_cons, List.map_singleton, Text.join, Text.join, normalizePart_of_all parts,
    normalizePart_of_all parts', List.append_assoc, List.singleton_append]
  simp

theorem lower_of_all {text : Text} (parts : text.all isNamePart = true) :
    text.lower = text.map Char.toLower :=
  Text.lower_of_ascii fun c mem => toNat_of_isNamePart (List.all_eq_true.1 parts c mem)

theorem all_isNamePart_lower {text : Text} (parts : text.all isNamePart = true) :
    text.lower.all isNamePart = true := by
  rw [lower_of_all parts, List.all_map, List.all_eq_true]
  intro c mem
  exact isNamePart_toLower (List.all_eq_true.1 parts c mem)

theorem lower_lower_of_all {text : Text} (parts : text.all isNamePart = true) :
    text.lower.lower = text.lower := by
  rw [lower_of_all (all_isNamePart_lower parts), lower_of_all parts, List.map_map]
  apply List.map_congr_left
  intro c mem
  exact toLower_toLower_of_isNamePart (List.all_eq_true.1 parts c mem)

/-- The lower case of a name stands for itself. -/
theorem normalize_lower {text : Text} (parts : text.all isNamePart = true) :
    Identifier.normalize text.lower = text.lower := by
  rw [normalize_of_all (all_isNamePart_lower parts), lower_lower_of_all parts]

/-! ## References to tables -/

/-- An unquoted reference to a table: its name, perhaps behind the schema that it is in. -/
structure UnquotedReference where
  schema : Option UnquotedName
  name : UnquotedName

namespace UnquotedReference

variable (reference : UnquotedReference)

/-- The reference as it is written. -/
def text : Text :=
  match reference.schema with
  | none => reference.name.text
  | some schema => schema.text ++ '.' :: reference.name.text

theorem closed : Closed reference.text := by
  unfold text
  split
  · exact reference.name.closed
  · rename_i schema _
    exact schema.closed.append ((closed_singleton rfl).append reference.name.closed)

/-- A reference begins with a whole name. -/
theorem exists_name_append : ∃ (first : UnquotedName) (behind : Text),
    reference.text = first.text ++ behind := by
  unfold text
  split
  · exact ⟨reference.name, [], (List.append_nil _).symm⟩
  · rename_i schema _
    exact ⟨schema, _, rfl⟩

end UnquotedReference

/-- An unquoted ASCII reference to a table. -/
structure PlainReference where
  schema : Option PlainName
  name : PlainName

namespace PlainReference

variable (reference : PlainReference)

/-- The reference as it is written. -/
def text : Text :=
  match reference.schema with
  | none => reference.name.text
  | some schema => schema.text ++ '.' :: reference.name.text

def unquoted : UnquotedReference where
  schema := reference.schema.map PlainName.unquoted
  name := reference.name.unquoted

theorem text_unquoted : reference.unquoted.text = reference.text := by
  unfold unquoted UnquotedReference.text text
  cases reference.schema <;> rfl

theorem closed : Closed reference.text := by
  rw [← reference.text_unquoted]
  exact reference.unquoted.closed

/-- What a reference stands for stands for itself. -/
theorem normalize_normalize :
    Identifier.normalize (Identifier.normalize reference.text) =
      Identifier.normalize reference.text := by
  have parts := reference.name.parts
  unfold text
  split
  · rw [normalize_of_all parts, normalize_lower parts]
  · rename_i schema _
    rw [normalize_dot schema.parts parts,
      normalize_dot (all_isNamePart_lower schema.parts) (all_isNamePart_lower parts),
      lower_lower_of_all schema.parts, lower_lower_of_all parts]

end PlainReference

namespace Registry

variable {registry : Registry} {table : PlainName}

/-- The registry lists the lower case of a column under the lower case of a table. -/
def lists (registry : Registry) (table column : PlainName) : Bool :=
  (registry.tables.get? table.text.lower).any fun names => names.contains column.text.lower

/-- A table that is not registered is not found by the name that was kept of it. -/
theorem resolve_normalize_of_unknown {reference : PlainReference}
    (unknown : registry.resolve reference.text = none) :
    registry.resolve (Identifier.normalize reference.text) = none := by
  have stored : registry.storedName reference.text = Identifier.normalize reference.text := by
    rw [storedName, unknown, Option.getD_none]
  rw [← stored, resolve_storedName (by rw [stored, reference.normalize_normalize]), unknown]

theorem resolve_plainName (known : registry.tables.contains table.text.lower = true) :
    registry.resolve table.text = some table.text.lower := by
  rw [← normalize_of_all table.parts] at known
  rw [resolve_of_contains known, normalize_of_all table.parts]

/-- The stored name of a table has the columns that are listed under it. -/
theorem isTranslatable_lower (known : registry.tables.contains table.text.lower = true)
    (column : PlainName) :
    registry.isTranslatable table.text.lower column.text = registry.lists table column := by
  have settled := normalize_lower table.parts
  rw [← settled] at known
  rw [isTranslatable, columns, resolve_of_contains known, settled, Option.bind_some, lists,
    normalize_of_all column.parts]
  cases registry.tables.get? table.text.lower with
  | none => simp
  | some names => simp

end Registry

end SeedCatalog
