import Mathlib.Data.List.TakeWhile
import SeedCatalog.Text.Lines

/-!
# Cutting a text into lines and fields

A text is taken apart line by line from its front: a piece without a line feed
joins the first line of what follows it.  Cutting fields that were joined by a
character which none of them holds gives the fields back.
-/

namespace SeedCatalog.Text

/-! ## Lines -/

/-- The first line of a text; the empty text has an empty one. -/
def firstLine (text : Text) : Text :=
  text.lines.headD []

/-- The lines behind the first one. -/
def otherLines (text : Text) : List Text :=
  text.lines.tail

theorem lines_cons {c : Char} (noFeed : c ≠ '\n') (rest : Text) :
    lines (c :: rest) = consToFirst c (lines rest) := by
  rw [lines, if_neg noFeed]

@[simp]
theorem firstLine_newline (rest : Text) : firstLine ('\n' :: rest) = ['\n'] :=
  rfl

@[simp]
theorem otherLines_newline (rest : Text) : otherLines ('\n' :: rest) = lines rest :=
  rfl

theorem firstLine_cons {c : Char} (noFeed : c ≠ '\n') (rest : Text) :
    firstLine (c :: rest) = c :: firstLine rest := by
  rw [firstLine, lines_cons noFeed, firstLine]
  cases lines rest with
  | nil => rfl
  | cons line others => rfl

theorem otherLines_cons {c : Char} (noFeed : c ≠ '\n') (rest : Text) :
    otherLines (c :: rest) = otherLines rest := by
  rw [otherLines, lines_cons noFeed, otherLines]
  cases lines rest with
  | nil => rfl
  | cons line others => rfl

/-- A piece without a line feed joins the first line of what follows it. -/
theorem firstLine_append {piece : Text} (noFeed : '\n' ∉ piece) (rest : Text) :
    firstLine (piece ++ rest) = piece ++ firstLine rest := by
  induction piece with
  | nil => rfl
  | cons c piece ih =>
      rw [List.mem_cons, not_or] at noFeed
      rw [List.cons_append, firstLine_cons (Ne.symm noFeed.1), ih noFeed.2, List.cons_append]

theorem otherLines_append {piece : Text} (noFeed : '\n' ∉ piece) (rest : Text) :
    otherLines (piece ++ rest) = otherLines rest := by
  induction piece with
  | nil => rfl
  | cons c piece ih =>
      rw [List.mem_cons, not_or] at noFeed
      rw [List.cons_append, otherLines_cons (Ne.symm noFeed.1), ih noFeed.2]

theorem lines_of_ne_nil {text : Text} (filled : text ≠ []) :
    lines text = firstLine text :: otherLines text := by
  match text with
  | c :: rest =>
      by_cases feed : c = '\n'
      · subst feed
        rfl
      · rw [firstLine, otherLines, lines_cons feed]
        cases lines rest with
        | nil => rfl
        | cons line others => rfl

theorem firstLine_append_otherLines (text : Text) :
    firstLine text ++ (otherLines text).flatten = text := by
  by_cases filled : text = []
  · subst filled
    rfl
  · have whole := flatten_lines text
    rwa [lines_of_ne_nil filled, List.flatten_cons] at whole

theorem lines_of_notMem {text : Text} (filled : text ≠ []) (noFeed : '\n' ∉ text) :
    lines text = [text] := by
  have first := firstLine_append noFeed []
  have others := otherLines_append noFeed []
  rw [List.append_nil] at first others
  rw [lines_of_ne_nil filled, first, others]
  simp [firstLine, otherLines, lines]

theorem lines_append_newline {piece : Text} (noFeed : '\n' ∉ piece) (rest : Text) :
    lines (piece ++ '\n' :: rest) = (piece ++ ['\n']) :: lines rest := by
  rw [lines_of_ne_nil (by simp), firstLine_append noFeed, otherLines_append noFeed,
    firstLine_newline, otherLines_newline]

/-- What holds of the empty text, of a last line, and of a text behind a line, holds of every
text. -/
theorem lineInduction {motive : Text → Prop} (nil : motive [])
    (last : ∀ {text}, text ≠ [] → '\n' ∉ text → motive text)
    (line : ∀ {piece rest}, '\n' ∉ piece → motive rest → motive (piece ++ '\n' :: rest))
    (text : Text) : motive text := by
  induction counted : text.count '\n' generalizing text with
  | zero =>
      by_cases filled : text = []
      · rw [filled]
        exact nil
      · exact last filled (List.count_eq_zero.1 counted)
  | succ breaks ih =>
      have mem : '\n' ∈ text := by
        rw [← List.count_pos_iff]
        omega
      obtain ⟨piece, rest, rfl, noFeed⟩ := List.eq_append_cons_of_mem mem
      rw [List.count_append, List.count_eq_zero_of_not_mem noFeed, List.count_cons_self] at counted
      exact line noFeed (ih rest (by omega))

/-! ## Line ends -/

/-- The last character of the text, if it has one, is no line end. -/
def Unended (text : Text) : Prop :=
  ∀ c, text.getLast? = some c → c ≠ '\r' ∧ c ≠ '\n'

theorem unended_concat {c : Char} (noReturn : c ≠ '\r') (noFeed : c ≠ '\n') (text : Text) :
    Unended (text ++ [c]) := by
  intro d last
  rw [List.getLast?_concat, Option.some.injEq] at last
  exact last ▸ ⟨noReturn, noFeed⟩

theorem unended_of_forall {text : Text} (noEnd : ∀ c ∈ text, c ≠ '\r' ∧ c ≠ '\n') :
    Unended text :=
  fun c last => noEnd c (List.mem_of_getLast? last)

@[simp]
theorem dropLineEnd_nil : dropLineEnd [] = [] :=
  rfl

/-- Line ends alone are dropped. -/
theorem dropLineEnd_of_forall {lineEnd : Text} (ends : ∀ c ∈ lineEnd, c = '\r' ∨ c = '\n') :
    dropLineEnd lineEnd = [] := by
  rw [dropLineEnd, dropEndWhile, List.reverse_eq_nil_iff, List.dropWhile_eq_nil_iff]
  intro c mem
  simpa using ends c (List.mem_reverse.1 mem)

theorem dropLineEnd_isPrefix (line : Text) : dropLineEnd line <+: line := by
  have dropped := List.dropWhile_suffix (fun c : Char => c = '\r' || c = '\n') (l := line.reverse)
  rw [← List.reverse_prefix, List.reverse_reverse] at dropped
  exact dropped

/-- Nothing but a line end is dropped. -/
theorem exists_dropLineEnd_append (line : Text) :
    ∃ lineEnd, line = dropLineEnd line ++ lineEnd ∧ ∀ c ∈ lineEnd, c = '\r' ∨ c = '\n' := by
  refine ⟨(line.reverse.takeWhile fun c => c = '\r' || c = '\n').reverse, ?_, ?_⟩
  · rw [dropLineEnd, dropEndWhile, ← List.reverse_append, List.takeWhile_append_dropWhile,
      List.reverse_reverse]
  · intro c mem
    have among := List.mem_takeWhile_imp (List.mem_reverse.1 mem)
    simpa using among

theorem Unended.append_left {text : Text} (unended : Unended text) (filled : text ≠ [])
    (first : Text) : Unended (first ++ text) := by
  intro c last
  rw [List.getLast?_append, List.getLast?_eq_some_getLast filled, Option.some_or] at last
  exact unended c (by rw [List.getLast?_eq_some_getLast filled, last])

/-- Line ends are dropped behind a text that has none at its end. -/
theorem dropLineEnd_append {text : Text} (unended : Unended text) (line : Text) :
    dropLineEnd (text ++ line) = text ++ dropLineEnd line := by
  rw [dropLineEnd, dropEndWhile, List.reverse_append, List.dropWhile_append]
  split
  · rename_i allEnds
    rw [List.isEmpty_iff] at allEnds
    have kept : text.reverse.dropWhile (fun c => c = '\r' || c = '\n') = text.reverse := by
      rw [List.dropWhile_eq_self_iff]
      intro nonempty
      have last := unended text.reverse[0] (by
        rw [← List.head?_reverse, List.head?_eq_getElem?, List.getElem?_eq_getElem nonempty])
      simpa using last
    rw [kept, dropLineEnd, dropEndWhile, allEnds, List.reverse_reverse, List.reverse_nil,
      List.append_nil]
  · rw [List.reverse_append, List.reverse_reverse, dropLineEnd, dropEndWhile]

/-! ## Fields -/

theorem splitOn_cons_self (d : Char) (rest : Text) :
    splitOn [d] (d :: rest) = [] :: splitOn [d] rest := by
  simp [splitOn, splitOnFrom]

theorem splitOn_cons {c d : Char} (other : c ≠ d) (rest : Text) :
    splitOn [d] (c :: rest) = consToFirst c (splitOn [d] rest) := by
  simp [splitOn, splitOnFrom, other.symm]

theorem flatten_consToFirst (c : Char) (pieces : List Text) :
    (consToFirst c pieces).flatten = c :: pieces.flatten := by
  cases pieces <;> rfl

/-- The pieces hold all characters but the separators. -/
theorem flatten_splitOn (d : Char) (text : Text) :
    (splitOn [d] text).flatten = text.filter (· ≠ d) := by
  induction text with
  | nil => rfl
  | cons c rest ih =>
      by_cases separator : c = d
      · subst separator
        rw [splitOn_cons_self, List.flatten_cons, List.nil_append, ih,
          List.filter_cons_of_neg (by simp)]
      · rw [splitOn_cons separator, flatten_consToFirst, ih,
          List.filter_cons_of_pos (by simpa using separator)]

theorem join_cons_cons (separator field next : Text) (others : List Text) :
    join separator (field :: next :: others) =
      field ++ separator ++ join separator (next :: others) :=
  rfl

theorem join_append_last (separator : Text) {fields : List Text} (filled : fields ≠ [])
    (last : Text) :
    join separator (fields ++ [last]) = join separator fields ++ separator ++ last := by
  induction fields with
  | nil => contradiction
  | cons field fields ih =>
      cases fields with
      | nil => rfl
      | cons next others =>
          rw [List.cons_append, List.cons_append, join_cons_cons, ← List.cons_append,
            ih (by simp), join_cons_cons]
          simp only [List.append_assoc]

/-- Joined fields hold what the fields hold, and the separator. -/
theorem mem_join {c d : Char} {fields : List Text} (mem : c ∈ join [d] fields) :
    c = d ∨ ∃ field ∈ fields, c ∈ field := by
  induction fields with
  | nil => contradiction
  | cons field fields ih =>
      cases fields with
      | nil => exact .inr ⟨field, List.mem_cons_self, mem⟩
      | cons next others =>
          rw [join_cons_cons, List.mem_append, List.mem_append, List.mem_singleton] at mem
          rcases mem with (mem | separator) | mem
          · exact .inr ⟨field, List.mem_cons_self, mem⟩
          · exact .inl separator
          · rcases ih mem with separator | ⟨other, among, mem⟩
            · exact .inl separator
            · exact .inr ⟨other, List.mem_cons_of_mem field among, mem⟩

/-- A field without the separator joins the first piece of what follows it. -/
theorem splitOn_append {d : Char} {field rest first : Text} {others : List Text}
    (noSeparator : d ∉ field) (cut : splitOn [d] rest = first :: others) :
    splitOn [d] (field ++ rest) = (field ++ first) :: others := by
  induction field with
  | nil => exact cut
  | cons c field ih =>
      rw [List.mem_cons, not_or] at noSeparator
      rw [List.cons_append, splitOn_cons (Ne.symm noSeparator.1), ih noSeparator.2]
      rfl

/-- Fields that do not hold the separator are cut as they were joined. -/
theorem splitOn_join {d : Char} {fields : List Text} (filled : fields ≠ [])
    (noSeparator : ∀ field ∈ fields, d ∉ field) : splitOn [d] (join [d] fields) = fields := by
  induction fields with
  | nil => contradiction
  | cons field fields ih =>
      have alone := noSeparator field List.mem_cons_self
      cases fields with
      | nil =>
          rw [join, ← List.append_nil field, splitOn_append alone rfl]
      | cons next others =>
          have ih := ih (by simp) fun field mem => noSeparator field (List.mem_cons_of_mem _ mem)
          have cut : splitOn [d] ([d] ++ join [d] (next :: others)) = [] :: next :: others := by
            rw [List.singleton_append, splitOn_cons_self, ih]
          rw [join_cons_cons, List.append_assoc, splitOn_append alone cut, List.append_nil]

/-! ## The last separator -/

theorem cutLast?_of_not_mem {separator : Char} {text : Text} (absent : separator ∉ text) :
    cutLast? separator text = none := by
  induction text with
  | nil => rfl
  | cons c rest ih =>
      rw [List.mem_cons, not_or] at absent
      rw [cutLast?, ih absent.2]
      exact if_neg (Ne.symm absent.1)

theorem cutLast?_append_cons {separator : Char} {after : Text} (absent : separator ∉ after)
    (before : Text) : cutLast? separator (before ++ separator :: after) = some (before, after) := by
  induction before with
  | nil =>
      rw [List.nil_append, cutLast?, cutLast?_of_not_mem absent]
      exact if_pos rfl
  | cons c before ih => rw [List.cons_append, cutLast?, ih]

end SeedCatalog.Text
