import SeedCatalog.Proofs.Sql.Name

/-!
# Reading identifiers part by part

An identifier is written part by part: unquoted ASCII words, and texts in double
quotes with their own quotes doubled, with dots between them and any blanks
around the parts.  Read back, it has exactly these parts, whatever the quoted
texts hold.
-/

namespace SeedCatalog

open Text

/-- Blanks around a text that begins and ends with other characters are stripped. -/
theorem Text.strip_blanks {lead text trail : Text} (blank : lead.allBlank = true)
    (blank' : trail.allBlank = true) (filled : text ≠ [])
    (begins : ∀ c, text.head? = some c → isBlank c = false)
    (ends : ∀ c, text.getLast? = some c → isBlank c = false) :
    (lead ++ (text ++ trail)).strip = text := by
  rcases List.exists_cons_of_ne_nil filled with ⟨c, others, written⟩
  have first := begins c (by rw [written]; rfl)
  have skipped : skipBlanks (lead ++ (text ++ trail)) = text ++ trail := by
    rw [written, List.cons_append, skipBlanks_lead blank first]
  have reversed : allBlank trail.reverse = true := by
    rwa [allBlank, List.all_reverse]
  have kept : skipBlanks (trail.reverse ++ text.reverse) = text.reverse := by
    rcases List.exists_cons_of_ne_nil (List.reverse_ne_nil_iff.2 filled) with ⟨d, rest, turned⟩
    have last : text.getLast? = some d := by
      rw [← List.head?_reverse, turned]
      rfl
    rw [turned, skipBlanks_lead reversed (ends d last)]
  rw [strip, skipped, dropEndWhile, List.reverse_append]
  exact (congrArg List.reverse kept).trans (List.reverse_reverse text)

namespace Identifier

/-- What the parts of an identifier stand for, in order. -/
def names (identifier : Text) : List Text :=
  (parts identifier).map normalizePart

/-- An identifier stands for its names with dots between them. -/
theorem normalize_eq_join (identifier : Text) :
    normalize identifier = join ['.'] (names identifier) :=
  rfl

/-! ## Where the dots between parts are -/

/-- No dot in the text stands between two parts, and it ends outside quotes. -/
def Unbroken (text : Text) : Prop :=
  ∀ rest first others, partsFrom false rest = first :: others →
    partsFrom false (text ++ rest) = (text ++ first) :: others

theorem Unbroken.append {first second : Text} (unbroken : Unbroken first)
    (unbroken' : Unbroken second) : Unbroken (first ++ second) := by
  intro rest piece others cut
  rw [List.append_assoc, List.append_assoc]
  exact unbroken _ _ _ (unbroken' _ _ _ cut)

theorem unbroken_of_forall {text : Text} (plain : ∀ c ∈ text, c ≠ '"' ∧ c ≠ '.') :
    Unbroken text := by
  intro rest first others cut
  induction text with
  | nil => exact cut
  | cons c text ih =>
      rcases plain c List.mem_cons_self with ⟨noQuote, noDot⟩
      have ih := ih fun d mem => plain d (List.mem_cons_of_mem c mem)
      rw [List.cons_append, partsFrom, if_neg noQuote, if_neg (fun dot => noDot dot.1), ih]
      rfl

theorem unbroken_of_allBlank {text : Text} (blank : text.allBlank = true) : Unbroken text := by
  apply unbroken_of_forall
  intro c mem
  have blank : isBlank c = true := List.all_eq_true.1 blank c mem
  constructor
  · rintro rfl
    contradiction
  · rintro rfl
    contradiction

/-- Between quotes whose inside is doubled, every dot stands inside. -/
theorem unbroken_quoted (text : Text) : Unbroken ('"' :: double '"' text ++ ['"']) := by
  intro rest first others cut
  have inside : partsFrom true (double '"' text ++ '"' :: rest) =
      (double '"' text ++ '"' :: first) :: others := by
    induction text with
    | nil =>
        rw [double, List.nil_append, partsFrom, if_pos rfl, Bool.not_true, cut]
        rfl
    | cons c text ih =>
        by_cases quote : c = '"'
        · rw [double, if_pos quote, List.cons_append, List.cons_append, partsFrom, if_pos rfl,
            Bool.not_true, partsFrom, if_pos rfl, Bool.not_false, ih]
          rfl
        · rw [double, if_neg quote, List.cons_append, partsFrom, if_neg quote,
            if_neg (by simp), ih]
          rfl
  have written : '"' :: double '"' text ++ ['"'] ++ rest =
      '"' :: (double '"' text ++ '"' :: rest) := by simp
  rw [written, partsFrom, if_pos rfl, Bool.not_false, inside]
  simp [consToFirst]

/-- Unbroken texts with dots between them are cut at these dots. -/
theorem parts_join {pieces : List Text} (filled : pieces ≠ [])
    (unbroken : ∀ piece ∈ pieces, Unbroken piece) : parts (join ['.'] pieces) = pieces := by
  induction pieces with
  | nil => contradiction
  | cons piece pieces ih =>
      have whole := unbroken piece List.mem_cons_self
      cases pieces with
      | nil => simpa [join, parts] using whole [] [] [] rfl
      | cons next others =>
          have ih := ih (by simp) fun piece mem => unbroken piece (List.mem_cons_of_mem _ mem)
          have dot : partsFrom false ('.' :: join ['.'] (next :: others)) =
              [] :: next :: others := by
            rw [partsFrom, if_neg (by decide), if_pos (by decide)]
            exact congrArg _ ih
          rw [join_cons_cons, List.append_assoc, parts, List.singleton_append, whole _ _ _ dot,
            List.append_nil]

theorem partsFrom_ne_nil (quoted : Bool) (text : Text) : partsFrom quoted text ≠ [] := by
  cases text with
  | nil => simp [partsFrom]
  | cons c rest =>
      have notEmpty (pieces : List Text) : consToFirst c pieces ≠ [] := by
        cases pieces <;> simp [consToFirst]
      rw [partsFrom]
      split
      · exact notEmpty _
      · split
        · simp
        · exact notEmpty _

theorem names_ne_nil (identifier : Text) : names identifier ≠ [] := by
  rw [names, Ne, List.map_eq_nil_iff]
  exact partsFrom_ne_nil false identifier

/-! ## Written parts -/

/-- A part of an identifier: an unquoted ASCII word, or any text in double quotes. -/
inductive Part where
  | word (text : Text) (filled : text ≠ []) (parts : text.all isNamePart = true)
  | quoted (text : Text)

namespace Part

/-- The part as it is written. -/
def written : Part → Text
  | .word text _ _ => text
  | .quoted text => '"' :: double '"' text ++ ['"']

/-- What the part stands for: the lower case of a word, and a quoted text as it is. -/
def name : Part → Text
  | .word text _ _ => text.map Char.toLower
  | .quoted text => text

theorem unbroken (part : Part) : Unbroken part.written := by
  cases part with
  | word text filled parts =>
      apply unbroken_of_forall
      intro c mem
      have namePart := List.all_eq_true.1 parts c mem
      constructor
      · rintro rfl
        contradiction
      · exact ne_dot_of_isNamePart namePart
  | quoted text => exact unbroken_quoted text

/-- Blanks around a part do not change what it stands for. -/
theorem normalizePart_blanks (part : Part) {lead trail : Text} (blank : lead.allBlank = true)
    (blank' : trail.allBlank = true) :
    normalizePart (lead ++ (part.written ++ trail)) = part.name := by
  cases part with
  | word text filled parts =>
      have filledAt (c : Char) (mem : c ∈ text) : isBlank c = false :=
        not_isBlank_of_isNamePart (List.all_eq_true.1 parts c mem)
      have stripped : (lead ++ (text ++ trail)).strip = text.strip := by
        rw [strip_of_all parts]
        apply strip_blanks blank blank' filled
        · intro c first
          exact filledAt c (List.mem_of_head? first)
        · intro c last
          exact filledAt c (List.mem_of_getLast? last)
      have same := normalizePart_of_all parts
      rw [normalizePart, ← stripped] at same
      exact same.trans (lower_of_all parts)
  | quoted text =>
      have first : ('"' :: double '"' text ++ ['"']).head? = some '"' := rfl
      have last : ('"' :: double '"' text ++ ['"']).getLast? = some '"' := List.getLast?_concat
      have inside : ('"' :: double '"' text ++ ['"']).tail.dropLast = double '"' text :=
        List.dropLast_concat
      have stripped : (lead ++ ('"' :: double '"' text ++ ['"'] ++ trail)).strip =
          '"' :: double '"' text ++ ['"'] := by
        apply strip_blanks blank blank' (by simp)
        · intro c same
          cases first.symm.trans same
          rfl
        · intro c same
          cases last.symm.trans same
          rfl
      have quoted : isQuoted ('"' :: double '"' text ++ ['"']) = true := by
        rw [isQuoted, first, last]
        simp
      rw [normalizePart, written, stripped, quoted, if_pos rfl, inside, undouble_double]
      rfl

end Part

/-- A part with blanks in front of it and behind it. -/
structure SpacedPart where
  lead : Text := []
  part : Part
  trail : Text := []
  blank : lead.allBlank = true := by rfl
  blank' : trail.allBlank = true := by rfl

/-- The part as it is written, with its blanks. -/
def SpacedPart.written (spaced : SpacedPart) : Text :=
  spaced.lead ++ (spaced.part.written ++ spaced.trail)

def SpacedPart.name (spaced : SpacedPart) : Text :=
  spaced.part.name

/-- Parts as they are written, with dots between them. -/
def write (parts : List SpacedPart) : Text :=
  join ['.'] (parts.map SpacedPart.written)

/-- A written identifier is read back as its parts. -/
theorem names_write {parts : List SpacedPart} (filled : parts ≠ []) :
    names (write parts) = parts.map SpacedPart.name := by
  have cut : Identifier.parts (write parts) = parts.map SpacedPart.written := by
    apply parts_join (by simpa using filled)
    intro piece mem
    rcases List.mem_map.1 mem with ⟨⟨lead, part, trail, blank, blank'⟩, -, rfl⟩
    exact (unbroken_of_allBlank blank).append (part.unbroken.append (unbroken_of_allBlank blank'))
  rw [names, cut, List.map_map]
  apply List.map_congr_left
  rintro ⟨lead, part, trail, blank, blank'⟩ -
  exact part.normalizePart_blanks blank blank'

/-- A written identifier stands for its parts with dots between them: for quoted texts as they are,
and for words in lower case. -/
theorem normalize_write (parts : List SpacedPart) :
    normalize (write parts) = join ['.'] (parts.map SpacedPart.name) := by
  cases parts with
  | nil => rfl
  | cons part parts => rw [normalize_eq_join, names_write (List.cons_ne_nil part parts)]

/-- A dot, a blank and quotes inside a quoted text are its own. -/
example : normalize "\tPublic .\n\" a.\"\"B\"\" \" ".toList = "public. a.\"B\" ".toList := by
  decide +kernel

end Identifier

end SeedCatalog
