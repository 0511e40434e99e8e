import SeedCatalog.Proofs.Sql.Name
import SeedCatalog.Proofs.Sql.Quote

/-!
# Reading tokens that were written

Each reader finds its token behind blanks, and leaves what stands behind it.  A
column whose comma or parenthesis has not come yet is no column, but the next
line may complete it.
-/

namespace SeedCatalog.Sql

open Text

/-! ## Marks -/

section

variable {lead : Text} (blank : lead.allBlank = true)
include blank

theorem mark?_eq {c : Char} (filled : isBlank c = false) (rest : Text) :
    mark? c (lead ++ c :: rest) = some rest := by
  simp [mark?, skipBlanks_lead blank filled]

theorem mark?_of_ne {c d : Char} (filled : isBlank d = false) (other : d ≠ c) (rest : Text) :
    mark? c (lead ++ d :: rest) = none := by
  simp [mark?, skipBlanks_lead blank filled, other]

end

/-! ## Keywords -/

/-- The text is a word, which is given in capitals, in letters of either case. -/
def Spells (word text : Text) : Prop :=
  letters? word text = some []

instance (word text : Text) : Decidable (Spells word text) :=
  inferInstanceAs (Decidable (letters? word text = some []))

/-- The forms of a capital letter are letters. -/
theorem isWord_of_isFormOf {letter c : Char} (capital : letter.isUpper = true)
    (form : isFormOf letter c = true) : isWord c = true := by
  have isAlpha (c : Char) : c.isAlpha = (c.isUpper || c.isLower) := rfl
  simp only [isFormOf, Bool.or_eq_true, Bool.and_eq_true, beq_iff_eq] at form
  rcases form with (same | ⟨-, dotted | dotless⟩) | ⟨-, long⟩
  · by_cases lower : c.isLower = true
    · exact isWord_of_beginsIdentifier (by simp [beginsIdentifier, isAlpha, lower])
    · have isLower : c.isLower = (decide (c.val ≥ 'a'.val) && decide (c.val ≤ 'z'.val)) := rfl
      rw [isLower, Bool.and_eq_true, decide_eq_true_eq, decide_eq_true_eq] at lower
      have kept : c.toUpper = c := dif_neg lower
      rw [← kept, same]
      exact isWord_of_beginsIdentifier (by simp [beginsIdentifier, isAlpha, capital])
  · have same : c = Char.ofNat 0x130 := by rw [← dotted, Char.ofNat_toNat]
    rw [same]
    decide +kernel
  · have same : c = Char.ofNat 0x131 := by rw [← dotless, Char.ofNat_toNat]
    rw [same]
    decide +kernel
  · have same : c = Char.ofNat 0x17F := by rw [← long, Char.ofNat_toNat]
    rw [same]
    decide +kernel

theorem letters?_append {word written after : Text} (spelled : letters? word written = some after)
    (rest : Text) : letters? word (written ++ rest) = some (after ++ rest) := by
  induction word generalizing written with
  | nil =>
      rw [letters?, Option.some.injEq] at spelled
      rw [letters?, spelled]
  | cons letter word ih =>
      cases written with
      | nil => contradiction
      | cons c written =>
          rw [letters?] at spelled
          rw [List.cons_append, letters?]
          split at spelled
          · rename_i form
            rw [if_pos form, ih spelled]
          · contradiction

namespace Spells

variable {word written : Text}

theorem all_isWord (spells : Spells word written) (capitals : word.all Char.isUpper = true) :
    written.all isWord = true := by
  induction word generalizing written with
  | nil =>
      cases Option.some.inj spells
      rfl
  | cons letter word ih =>
      cases written with
      | nil => contradiction
      | cons c written =>
          rw [List.all_cons, Bool.and_eq_true] at capitals
          rw [Spells, letters?] at spells
          split at spells
          · rename_i form
            rw [List.all_cons, isWord_of_isFormOf capitals.1 form, ih spells capitals.2]
            rfl
          · contradiction

theorem exists_cons (spells : Spells word written) (capitals : word.all Char.isUpper = true)
    (filled : word ≠ []) : ∃ c others, written = c :: others ∧ isWord c = true := by
  cases written with
  | nil =>
      cases word with
      | nil => contradiction
      | cons letter word => contradiction
  | cons c others =>
      have letters := spells.all_isWord capitals
      rw [List.all_cons, Bool.and_eq_true] at letters
      exact ⟨c, others, rfl, letters.1⟩

/-- A keyword is read where no further word character follows it. -/
theorem keyword?_append (spells : Spells word written) {rest : Text}
    (stops : rest.stopsAt isWord = true) : keyword? word (written ++ rest) = some rest := by
  have noWord : beginsWithWord rest = false := by
    simpa [beginsWithWord, stopsAt] using stops
  rw [keyword?, letters?_append spells, List.nil_append]
  simp [noWord]

section

variable {lead : Text} (blank : lead.allBlank = true)
include blank

theorem skipBlanks_eq (spells : Spells word written) (capitals : word.all Char.isUpper = true)
    (filled : word ≠ []) (rest : Text) :
    skipBlanks (lead ++ (written ++ rest)) = written ++ rest := by
  obtain ⟨c, others, rfl, letter⟩ := spells.exists_cons capitals filled
  rw [List.cons_append, skipBlanks_lead blank (not_isBlank_of_isWord letter)]

theorem skipBlanks_cons (spells : Spells word written) (capitals : word.all Char.isUpper = true)
    (filled : word ≠ []) (rest : Text) :
    ∃ c others, skipBlanks (lead ++ (written ++ rest)) = c :: others ∧ c ≠ '/' := by
  obtain ⟨c, others, written_eq, letter⟩ := spells.exists_cons capitals filled
  refine ⟨c, others ++ rest, ?_, ?_⟩
  · rw [spells.skipBlanks_eq blank capitals filled, written_eq, List.cons_append]
  · rintro rfl
    contradiction

end

end Spells

section

variable {lead written rest : Text} (blank : lead.allBlank = true)
  (stops : rest.stopsAt isWord = true)
include blank stops

theorem insert?_eq (spells : Spells "INSERT".toList written) :
    insert? (lead ++ (written ++ rest)) = some rest := by
  rw [insert?, spells.skipBlanks_eq blank rfl (by simp)]
  exact spells.keyword?_append stops

theorem into?_eq (spells : Spells "INTO".toList written) :
    into? (lead ++ (written ++ rest)) = some rest := by
  rw [into?, spells.skipBlanks_eq blank rfl (by simp)]
  exact spells.keyword?_append stops

theorem values?_eq (spells : Spells "VALUES".toList written) :
    values? (lead ++ (written ++ rest)) = some rest := by
  rw [values?, spells.skipBlanks_eq blank rfl (by simp)]
  exact spells.keyword?_append stops

theorem copy?_eq : copy? (lead ++ ("COPY".toList ++ rest)) = some rest := by
  have spells : Spells "COPY".toList "COPY".toList := rfl
  have skipped : skipBlanks (lead ++ ("COPY".toList ++ rest)) = 'C' :: ("OPY".toList ++ rest) :=
    spells.skipBlanks_eq blank rfl (by simp) rest
  rw [copy?, skipped]
  exact spells.keyword?_append stops

end

/-! ## Names -/

/-- The comma or the closing parenthesis that ends a column or a value. -/
def endMark (isLast : Bool) : Char :=
  if isLast then ')' else ','

theorem not_isBlank_endMark (isLast : Bool) : isBlank (endMark isLast) = false := by
  cases isLast <;> rfl

/-- Blanks do not go on with a character of a class that has no blanks. -/
theorem stopsAt_lead {p : Char → Bool} (apart : ∀ c, isBlank c = true → p c = false)
    {lead rest : Text} (blank : lead.allBlank = true) (stops : rest.stopsAt p = true) :
    (lead ++ rest).stopsAt p = true := by
  apply stopsAt_append _ stops
  rw [List.all_eq_true]
  intro c mem
  rw [apart c (List.all_eq_true.1 blank c mem), Bool.not_false]

section

variable {lead : Text} (blank : lead.allBlank = true)
include blank

/-- Behind blanks stands a whole name. -/
theorem skipBlanks_name (name : UnquotedName) (rest : Text) :
    skipBlanks (lead ++ (name.text ++ rest)) = name.text ++ rest := by
  obtain ⟨c, others, written, begins⟩ := name.exists_cons
  have filled := not_isBlank_of_isWord (isWord_of_beginsIdentifier begins)
  rw [written, List.cons_append, skipBlanks_lead blank filled]

theorem skipBlanks_name_cons (name : UnquotedName) (rest : Text) :
    ∃ c others, (lead ++ (name.text ++ rest)).skipBlanks = c :: others ∧ c ≠ '/' := by
  obtain ⟨c, others, written, begins⟩ := name.exists_cons
  refine ⟨c, others ++ rest, by rw [skipBlanks_name blank, written, List.cons_append], ?_⟩
  rintro rfl
  contradiction

theorem skipBlanks_reference_cons (reference : UnquotedReference) (rest : Text) :
    ∃ c others, (lead ++ (reference.text ++ rest)).skipBlanks = c :: others ∧ c ≠ '/' := by
  obtain ⟨first, behind, written⟩ := reference.exists_name_append
  rw [written, List.append_assoc]
  exact skipBlanks_name_cons blank first (behind ++ rest)

end

/-- A dot and a name right behind it are read as they are written. -/
theorem qualification?_eq {rest : Text} (name : UnquotedName)
    (stops : rest.stopsAt continuesIdentifier = true) :
    qualification? ('.' :: (name.text ++ rest)) = some ('.' :: name.text, rest) := by
  have noGap : (name.text ++ rest).takeWhile isBlank = [] := by
    obtain ⟨c, others, written, begins⟩ := name.exists_cons
    have filled := not_isBlank_of_isWord (isWord_of_beginsIdentifier begins)
    rw [written, List.cons_append, List.takeWhile_cons_of_neg (by simp [filled])]
  have skipped : skipBlanks ('.' :: (name.text ++ rest)) = '.' :: (name.text ++ rest) :=
    skipBlanks_of_not_isBlank rfl _
  have name_eq : skipBlanks (name.text ++ rest) = name.text ++ rest :=
    skipBlanks_name (rfl : Text.allBlank [] = true) name rest
  rw [qualification?, skipped]
  simp only [if_true, name_eq, name.identifier?_eq stops, noGap, Option.map_some]
  rfl

/-- A table is read whole, with its schema and the dot between them. -/
theorem tableName?_eq {lead rest : Text} (blank : lead.allBlank = true)
    (reference : UnquotedReference) (stops : rest.stopsAt continuesIdentifier = true)
    (unqualified : rest.skipBlanks.head? ≠ some '.') :
    tableName? (lead ++ (reference.text ++ rest)) = some (reference.text, rest) := by
  obtain ⟨schema, name⟩ := reference
  cases schema with
  | none =>
      have noSecond : qualification? rest = none := by
        unfold qualification?
        split
        · rfl
        · rename_i skipped
          rw [if_neg]
          rintro rfl
          exact unqualified (by rw [skipped]; rfl)
      rw [UnquotedReference.text, tableName?, skipBlanks_name blank, name.identifier?_eq stops,
        Option.map_some, noSecond]
  | some schema =>
      have dot : Text.stopsAt continuesIdentifier ('.' :: (name.text ++ rest)) = true := by
        have noPart : continuesIdentifier '.' = false := by decide +kernel
        simp [Text.stopsAt, noPart]
      have written : UnquotedReference.text ⟨some schema, name⟩ ++ rest =
          schema.text ++ '.' :: (name.text ++ rest) := by
        simp [UnquotedReference.text]
      rw [written, tableName?, skipBlanks_name blank, schema.identifier?_eq dot, Option.map_some,
        qualification?_eq name stops]
      rfl

/-- A column is read together with what ends it. -/
theorem column?_eq {lead trail : Text} (blank : lead.allBlank = true) (name : UnquotedName)
    (blank' : trail.allBlank = true) (isLast : Bool) (rest : Text) :
    column? (lead ++ (name.text ++ (trail ++ endMark isLast :: rest))) =
      some ⟨name.text, isLast, rest⟩ := by
  have stops : (trail ++ endMark isLast :: rest).stopsAt continuesIdentifier = true := by
    apply stopsAt_lead (fun _ => not_continuesIdentifier_of_isBlank) blank'
    cases isLast <;> rfl
  rw [column?, skipBlanks_name blank, name.identifier?_eq stops]
  simp only [skipBlanks_lead blank' (not_isBlank_endMark isLast)]
  cases isLast <;> rfl

theorem stopsAt_of_allBlank {trail : Text} (blank : trail.allBlank = true) :
    trail.stopsAt continuesIdentifier = true := by
  rw [← List.append_nil trail]
  exact stopsAt_lead (fun _ => not_continuesIdentifier_of_isBlank) blank rfl

/-- A column that nothing ends is no column. -/
theorem column?_of_allBlank {lead trail : Text} (blank : lead.allBlank = true)
    (name : UnquotedName) (blank' : trail.allBlank = true) :
    column? (lead ++ (name.text ++ trail)) = none := by
  have stops := stopsAt_of_allBlank blank'
  rw [column?, skipBlanks_name blank, name.identifier?_eq stops]
  simp only [skipBlanks_eq_nil_iff.2 blank']

/-- A column that nothing ends may be completed by the next line. -/
theorem columnMayFollow_of_allBlank {lead trail : Text} (blank : lead.allBlank = true)
    (name : UnquotedName) (blank' : trail.allBlank = true) :
    columnMayFollow (lead ++ (name.text ++ trail)) = true := by
  have stops := stopsAt_of_allBlank blank'
  rw [columnMayFollow, skipBlanks_name blank, name.identifier?_eq stops, Option.any_some, blank',
    Bool.or_true]

end SeedCatalog.Sql
