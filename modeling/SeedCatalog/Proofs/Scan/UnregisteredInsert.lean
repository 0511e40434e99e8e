import SeedCatalog.Proofs.Scan.Boundary
import SeedCatalog.Proofs.Scan.Layout
import SeedCatalog.Proofs.Scan.LineInsert
import SeedCatalog.Proofs.Sql.Skimmed

/-!
# Inserts into tables that are not registered

An INSERT whose table is not registered is left behind its table, and the rest
of it is skipped line by line between statements.  Between statements no text
waits for the next line, so that a literal that runs over a line end is not read
as one: if one of its lines holds the word INSERT or COPY or opens a block
comment, this counts.  A literal that stands on one line is skipped as a whole,
whatever it holds.
-/

namespace SeedCatalog.Scan

open SeedCatalog.Sql Text

/-! ## How a statement is written -/

/-- A piece of white space, perhaps an empty one. -/
structure WhiteSpace where
  text : Text
  blank : text.allBlank = true

/-- Something with white space around it. -/
structure Padded (α : Type) where
  before : WhiteSpace
  content : α
  after : WhiteSpace

namespace Padded

variable {α : Type} (write : α → Text)

/-- The text of an item, given how its content is written. -/
def text (item : Padded α) : Text :=
  item.before.text ++ (write item.content ++ item.after.text)

/-- Items with commas between them, up to a mark behind the last of them. -/
def list (last : Char) (item : Padded α) : List (Padded α) → Text
  | [] => item.text write ++ [last]
  | next :: others => item.text write ++ ',' :: list last next others

/-- A list begins with its first item. -/
theorem exists_list_eq (last : Char) (item : Padded α) (others : List (Padded α)) :
    ∃ behind, item.list write last others =
      item.before.text ++ (write item.content ++ behind) := by
  cases others with
  | nil => exact ⟨item.after.text ++ [last], by simp only [list, text, List.append_assoc]⟩
  | cons next others =>
      exact ⟨item.after.text ++ ',' :: next.list write last others,
        by simp only [list, text, List.append_assoc]⟩

end Padded

/-- A value that is skipped: a word, or a literal of any text. -/
inductive SkippedValue where
  | bare (word : SkippedWord)
  | quoted (content : Text)

namespace SkippedValue

def written : SkippedValue → Text
  | .bare word => word.text
  | .quoted content => literal content

/-- What stands inside the literal, if the value is one. -/
def content? : SkippedValue → Option Text
  | .bare _ => none
  | .quoted content => some content

end SkippedValue

/-- A row of values. -/
structure SkippedRow where
  first : Padded SkippedValue
  others : List (Padded SkippedValue)

def SkippedRow.text (row : SkippedRow) : Text :=
  '(' :: row.first.list SkippedValue.written ')' row.others

/-- An INSERT statement with columns, of which nothing is asked for. -/
structure SkippedInsert where
  beforeInsert : WhiteSpace
  insert : Keyword "INSERT".toList
  beforeInto : WhiteSpace
  into : Keyword "INTO".toList
  beforeTable : WhiteSpace
  table : PlainReference
  beforeColumns : WhiteSpace
  column : Padded SkippedWord
  columns : List (Padded SkippedWord)
  beforeValues : WhiteSpace
  values : Keyword "VALUES".toList
  row : Padded SkippedRow
  rows : List (Padded SkippedRow)
  intoApart : beforeInto.text ≠ []
  tableApart : beforeTable.text ≠ []

namespace SkippedInsert

variable (insert : SkippedInsert)

/-- What stands behind the table. -/
def body : Text :=
  insert.beforeColumns.text ++
    '(' :: (insert.column.list SkippedWord.text ')' insert.columns ++
      (insert.beforeValues.text ++ (insert.values.text ++
        insert.row.list SkippedRow.text ';' insert.rows)))

def text : Text :=
  insert.beforeInsert.text ++ (insert.insert.text ++ (insert.beforeInto.text ++
    (insert.into.text ++ (insert.beforeTable.text ++ (insert.table.text ++ insert.body)))))

/-- What stands inside the literals. -/
def contents : List Text :=
  (insert.row :: insert.rows).flatMap fun row =>
    (row.content.first :: row.content.others).filterMap fun value => value.content.content?

end SkippedInsert

/-! ## What stands behind the table -/

variable {inLiteral : Char → Prop}

theorem SkippedValue.skimmedBefore {value : SkippedValue}
    (among : ∀ content, value.content? = some content → ∀ c ∈ content, inLiteral c) :
    SkimmedBefore inLiteral value.written := by
  cases value with
  | bare word => exact word.skimmedBefore
  | quoted content => exact skimmedBefore_literal (among content rfl)

theorem Padded.skimmed_list {α : Type} {write : α → Text} {last : Char}
    (mark : isMark last = true) {item : Padded α} {others : List (Padded α)}
    (each : ∀ other ∈ item :: others, SkimmedBefore inLiteral (write other.content))
    {rest : Text} (skimmed : Skimmed inLiteral false rest false) :
    Skimmed inLiteral false (item.list write last others ++ rest) false := by
  have step {item : Padded α} (first : SkimmedBefore inLiteral (write item.content)) {c : Char}
      (mark : isMark c = true) {rest : Text} (skimmed : Skimmed inLiteral false rest false) :
      Skimmed inLiteral false (item.text write ++ c :: rest) false := by
    have stops : (item.after.text ++ c :: rest).stopsAt continuesValue = true :=
      stopsAt_lead not_continuesValue_of_isBlank item.after.blank
        (by simp [stopsAt, not_continuesValue_of_isMark mark])
    have behind := first _ stops ((Skimmed.mark mark skimmed).append_blank item.after.blank)
    have whole := behind.append_blank item.before.blank
    simpa only [Padded.text, List.append_assoc] using whole
  induction others generalizing item with
  | nil =>
      have whole := step (each item List.mem_cons_self) mark skimmed
      simpa only [list, List.append_assoc, List.singleton_append] using whole
  | cons next others ih =>
      have behind := ih fun other mem => each other (List.mem_cons_of_mem item mem)
      have whole := step (each item List.mem_cons_self) (c := ',') rfl behind
      simpa only [list, List.append_assoc, List.cons_append] using whole

theorem SkippedRow.skimmedBefore {row : SkippedRow}
    (among : ∀ value ∈ row.first :: row.others,
      ∀ content, value.content.content? = some content → ∀ c ∈ content, inLiteral c) :
    SkimmedBefore inLiteral row.text := fun _ _ skimmed =>
  .mark rfl (Padded.skimmed_list (rfl : isMark ')' = true)
    (fun value mem => SkippedValue.skimmedBefore (among value mem)) skimmed)

namespace Keyword

variable {word : Text} (keyword : Keyword word) (capitals : word.all Char.isUpper = true)
include capitals

theorem isPlain : IsPlain keyword.text := by
  rw [IsPlain, List.all_eq_true]
  intro c mem
  exact isPlain_of_isWord (List.all_eq_true.1 (keyword.spells.all_isWord capitals) c mem)

theorem text_ne_nil (filled : word ≠ []) : keyword.text ≠ [] := by
  obtain ⟨c, others, written, _⟩ := keyword.spells.exists_cons capitals filled
  simp [written]

end Keyword

/-- The letters V, I and C have no form in common. -/
theorem not_isFormOf {letter c : Char} (form : isFormOf 'V' c = true)
    (other : letter = 'I' ∨ letter = 'C') : isFormOf letter c = false := by
  have upper : c.toUpper = 'V' := by simpa [isFormOf] using form
  have noI : c.toNat ≠ 0x130 ∧ c.toNat ≠ 0x131 := by
    constructor
    all_goals
      intro same
      rw [← Char.ofNat_toNat c, same] at upper
      exact absurd upper (by decide)
  rcases other with rfl | rfl <;> simp [isFormOf, upper, noI]

theorem Keyword.not_spells (values : Keyword "VALUES".toList) {letter : Char} {word : Text}
    (other : letter = 'I' ∨ letter = 'C') : ¬Spells (letter :: word) values.text := by
  intro spells
  have spells' := values.spells
  cases written : values.text with
  | nil => simp [Spells, letters?, written] at spells
  | cons c others =>
      have form : isFormOf 'V' c = true := by
        by_contra noForm
        simp [Spells, letters?, written, noForm] at spells'
      simp [Spells, letters?, written, not_isFormOf form other] at spells

/-- The word in front of the rows begins no statement. -/
def Keyword.skipped (values : Keyword "VALUES".toList) : SkippedWord where
  text := values.text
  letters := values.spells.all_isWord rfl
  filled := values.text_ne_nil rfl nofun
  noInsert := values.not_spells (.inl rfl)
  noCopy := values.not_spells (.inr rfl)

namespace SkippedInsert

variable {insert : SkippedInsert}

theorem skimmed_body (among : ∀ content ∈ insert.contents, ∀ c ∈ content, inLiteral c) :
    Skimmed inLiteral false insert.body false := by
  have each : ∀ row ∈ insert.row :: insert.rows,
      SkimmedBefore inLiteral (SkippedRow.text row.content) := by
    intro row mem
    refine SkippedRow.skimmedBefore fun value mem' content within => among content ?_
    exact List.mem_flatMap.2 ⟨row, mem, List.mem_filterMap.2 ⟨value, mem', within⟩⟩
  have rows : Skimmed inLiteral false (insert.row.list SkippedRow.text ';' insert.rows) false := by
    have whole := Padded.skimmed_list (rfl : isMark ';' = true) each .nil
    rwa [List.append_nil] at whole
  have apart : (insert.row.list SkippedRow.text ';' insert.rows).stopsAt continuesValue = true := by
    obtain ⟨behind, begins⟩ := insert.row.exists_list_eq SkippedRow.text ';' insert.rows
    rw [begins]
    exact stopsAt_lead not_continuesValue_of_isBlank insert.row.before.blank rfl
  have values := insert.values.skipped.skimmedBefore _ apart rows
  have words : ∀ column ∈ insert.column :: insert.columns,
      SkimmedBefore inLiteral (SkippedWord.text column.content) :=
    fun column _ => column.content.skimmedBefore
  have columns := Padded.skimmed_list (rfl : isMark ')' = true) words
    (values.append_blank insert.beforeValues.blank)
  exact (Skimmed.mark rfl columns).append_blank insert.beforeColumns.blank

theorem body_ne_nil : insert.body ≠ [] := by
  simp [body]

end SkippedInsert

variable {registry : Registry} {delimiter : Text} {phase phase' : Phase} {content rest : Text}

/-! ## Lines that are skipped -/

/-- A text of a class that skipping does not leave tells nothing. -/
theorem textAccount_of_skippable {P : Text → Prop} (skippable : Skippable P) {text : Text}
    (holds : P text) (line : Int) :
    textAccount registry delimiter { line } text = .rest { line } := by
  -- The induction is on the length: a token that is skipped leaves a shorter text of the class.
  induction length : text.length using Nat.strongRecOn generalizing text with
  | ind length' ih =>
      by_cases blank : text.allBlank = true
      · rw [textAccount_of_needsInput (step_of_allBlank rfl blank) rfl]
        rfl
      · obtain ⟨rest, skipped, holds'⟩ := (skippable.skipToken?_eq holds).resolve_left blank
        have step : Cursor.step registry delimiter { line } text =
            .ok (Cursor.advance { line } .idle rest) := by
          rw [Cursor.step, if_neg (Phase.ne_dataBlock rfl), if_neg (Phase.ne_comment rfl),
            if_neg blank, skippable.commentOpening?_eq_none holds]
          simp only [Cursor.stepToken, Cursor.stepIdle, skippable.insert?_eq_none holds,
            skippable.copy?_eq_none holds, skipped]
        rw [textAccount_of_silent step rfl rfl]
        exact ih _ (length ▸ length_of_skipToken? skipped) holds' rfl

/-- A line that is skipped to its end: it is quiet, or it is made of words, marks and whole
literals. -/
def SkippedLine (line : Text) : Prop :=
  isQuiet false line = true ∨ Skimmed (fun _ => True) false line false

theorem SkippedLine.textAccount_eq {line : Text} (skipped : SkippedLine line) (number : Int) :
    textAccount registry delimiter { line := number }
        (dropLineComment (dropLineEnd line) ++ ['\n']) =
      .rest { line := number } := by
  rcases skipped with quiet | skimmed
  · exact textAccount_of_skippable skippable_isQuiet (isQuiet_dropLineComment quiet) number
  · exact textAccount_of_skippable (skippable_skimmed _) skimmed.dropLineComment number

theorem account_of_skippedLines {lines : List Text} (skipped : ∀ line ∈ lines, SkippedLine line)
    (number : Int) :
    account registry delimiter { line := number } lines =
      .rest { line := number + lines.length } := by
  induction lines generalizing number with
  | nil => simp [account]
  | cons line lines ih =>
      rw [List.forall_mem_cons] at skipped
      have first : lineAccount registry delimiter { line := number } line =
          .rest { line := number + 1 } :=
        skipped.1.textAccount_eq (number + 1)
      rw [account, first, Account.rest_andThen, ih skipped.2, List.length_cons, Int.natCast_succ]
      congr 2
      omega

/-! ## Content that tells nothing -/

/-- What the scan of content tells, from a place in its first line. -/
def onward (registry : Registry) (delimiter : Text) (cursor : Cursor) (content : Text) : Account :=
  (textAccount registry delimiter cursor (seen content)).andThen
    (account registry delimiter · content.otherLines)

/-- The content tells nothing from a phase on, and is left between statements. -/
def IsSilent (registry : Registry) (delimiter : Text) (phase : Phase) (content : Text) : Prop :=
  ∀ line, onward registry delimiter { phase, line } content =
    .rest { line := line + content.otherLines.length }

theorem isSilent_of_skippedLines (filled : content ≠ [])
    (skipped : ∀ line ∈ content.lines, SkippedLine line) :
    IsSilent registry delimiter .idle content := by
  intro line
  rw [lines_of_ne_nil filled, List.forall_mem_cons] at skipped
  rw [onward, seen, skipped.1.textAccount_eq, Account.rest_andThen,
    account_of_skippedLines skipped.2]

/-- Of a line of white space, white space is seen. -/
theorem allBlank_seen {piece : Text} (noFeed : '\n' ∉ piece) (blank : piece.allBlank = true)
    (rest : Text) : (seen (piece ++ '\n' :: rest)).allBlank = true := by
  obtain ⟨lineEnd, cut, _⟩ := exists_dropLineEnd_append (piece ++ ['\n'])
  have whole : (piece ++ ['\n']).allBlank = true := by
    rw [allBlank, List.all_append, Bool.and_eq_true]
    exact ⟨blank, rfl⟩
  have kept : (dropLineEnd (piece ++ ['\n'])).allBlank = true := by
    rw [cut, allBlank, List.all_append, Bool.and_eq_true] at whole
    exact whole.1
  rw [seen, firstLine_append noFeed, firstLine_newline,
    (closed_of_allBlank kept).dropLineComment_eq, allBlank, List.all_append, Bool.and_eq_true]
  exact ⟨kept, rfl⟩

namespace IsSilent

/-- Content that tells nothing in its lines tells nothing. -/
theorem account_eq (tokens : phase.readsTokens = true) (filled : content ≠ [])
    (silent : IsSilent registry delimiter phase content) (line : Int) :
    account registry delimiter { phase, line } content.lines =
      .rest { line := line + content.lines.length } := by
  have whole := silent (line + 1)
  rw [lines_of_ne_nil filled, account, lineAccount]
  simp only [prepareLine, if_neg (Phase.ne_dataBlock tokens),
    decide_eq_false (Phase.ne_comment tokens), List.nil_append]
  rw [onward, seen] at whole
  rw [whole, List.length_cons, Int.natCast_succ]
  congr 2
  omega

/-- White space is passed over, line by line. -/
theorem behind_blank (tokens : phase.readsTokens = true) {gap : Text}
    (blank : gap.allBlank = true) (filled : rest ≠ [])
    (silent : ∀ lead : Text, lead.allBlank = true → '\n' ∉ lead →
      IsSilent registry delimiter phase (lead ++ rest)) :
    IsSilent registry delimiter phase (gap ++ rest) := by
  induction gap using lineInduction with
  | nil => exact silent [] rfl List.not_mem_nil
  | last _ noFeed => exact silent _ blank noFeed
  | @line piece gap noFeed ih =>
      rw [allBlank, List.all_append, List.all_cons, Bool.and_eq_true, Bool.and_eq_true] at blank
      intro line
      have step : Cursor.step registry delimiter { phase, line }
          (seen (piece ++ '\n' :: (gap ++ rest))) = .ok (Cursor.await { phase, line } []) :=
        step_of_allBlank tokens (allBlank_seen noFeed blank.1 _)
      rw [List.append_assoc, List.cons_append, onward, textAccount_of_needsInput step rfl,
        otherLines_append noFeed, otherLines_newline]
      exact (ih blank.2.2).account_eq tokens (by simp [filled]) line

/-- A token is taken, and white space in front of it is passed over. -/
theorem behind_token (tokens : phase.readsTokens = true) (blank : WhiteSpace) {token : Text}
    (plain : IsPlain token) (filled : token ≠ [])
    (step : ∀ {line : Int} {lead : Text}, lead.allBlank = true →
      Cursor.step registry delimiter { phase, line } (lead ++ (token ++ seen rest)) =
        .ok (Cursor.advance { phase, line } phase' (seen rest)))
    (silent : IsSilent registry delimiter phase' rest) :
    IsSilent registry delimiter phase (blank.text ++ (token ++ rest)) := by
  refine behind_blank tokens blank.blank (by simp [filled]) ?_
  intro lead leads noFeed line
  have noFeed' : '\n' ∉ lead ++ token := by simp [noFeed, plain.notMem]
  have unended := plain.unended.append_left filled lead
  have closed := (closed_of_allBlank leads).append plain.closed
  rw [← List.append_assoc, onward, seen_append noFeed' unended closed, otherLines_append noFeed',
    List.append_assoc, textAccount_of_silent (step leads) rfl rfl]
  exact silent line

end IsSilent

/-! ## The statement -/

theorem isPlain_reference (reference : PlainReference) : IsPlain reference.text := by
  unfold PlainReference.text
  split
  · exact isPlain_name _
  · rename_i schema _
    rw [IsPlain, List.all_append, List.all_cons, isPlain_name, isPlain_name]
    rfl

theorem reference_ne_nil (reference : PlainReference) : reference.text ≠ [] := by
  have filled : reference.name.text ≠ [] := by
    intro none
    have begins := reference.name.begins
    rw [none] at begins
    contradiction
  unfold PlainReference.text
  split
  · exact filled
  · simp

/-- White space that is not empty ends a word. -/
theorem WhiteSpace.stopsAt_isWord (space : WhiteSpace) (filled : space.text ≠ []) (rest : Text) :
    (space.text ++ rest).stopsAt isWord = true := by
  obtain ⟨c, others, written⟩ := List.exists_cons_of_ne_nil filled
  have blank := space.blank
  rw [written, allBlank, List.all_cons, Bool.and_eq_true] at blank
  simp [written, stopsAt, not_isWord_of_isBlank blank.1]

namespace SkippedInsert

variable {insert : SkippedInsert}

/-- A line behind the table is skipped to its end, if it is quiet in case that it begins or ends
inside a literal. -/
theorem skippedLine_of_mem_lines
    (quiet : ∀ line ∈ brokenLines false insert.body.lines, isQuiet false line = true) :
    ∀ line ∈ insert.body.lines, SkippedLine line := by
  intro line mem
  have skimmed : Skimmed (fun _ => True) false insert.body false :=
    skimmed_body fun _ _ _ _ => trivial
  rcases skimmed.of_mem_lines mem with broken | whole
  · exact .inl (quiet line broken)
  · exact .inr whole

/-- If every literal stands on one line, no line begins or ends inside of one. -/
theorem brokenLines_body_eq_nil (oneLine : ∀ content ∈ insert.contents, '\n' ∉ content) :
    brokenLines false insert.body.lines = [] := by
  have skimmed : Skimmed (· ≠ '\n') false insert.body false := by
    apply skimmed_body
    rintro content mem c mem' rfl
    exact oneLine content mem mem'
  exact skimmed.brokenLines_eq_nil (by simp)

theorem isSilent_text (unknown : registry.resolve insert.table.text = none)
    (quiet : ∀ line ∈ brokenLines false insert.body.lines, isQuiet false line = true) :
    IsSilent registry delimiter .idle insert.text := by
  have stops : (seen insert.body).stopsAt continuesIdentifier = true :=
    stopsAt_seen_of_stopsAt rfl
      (stopsAt_lead (fun _ => not_continuesIdentifier_of_isBlank) insert.beforeColumns.blank rfl)
  have unqualified : (seen insert.body).skipBlanks.head? ≠ some '.' := by
    apply head?_skipBlanks_seen_of_ne
    rw [body, skipBlanks_lead insert.beforeColumns.blank rfl]
    simp
  have behindTable : IsSilent registry delimiter .idle insert.body :=
    isSilent_of_skippedLines insert.body_ne_nil (skippedLine_of_mem_lines quiet)
  have behindInto : IsSilent registry delimiter .afterInto
      (insert.beforeTable.text ++ (insert.table.text ++ insert.body)) := by
    refine .behind_token rfl insert.beforeTable (isPlain_reference _) (reference_ne_nil _) ?_
      behindTable
    intro line lead blank
    rw [← insert.table.text_unquoted] at unknown ⊢
    exact step_insertUnknown blank insert.table.unquoted stops unqualified unknown rfl
  have behindInsert : IsSilent registry delimiter .afterInsert
      (insert.beforeInto.text ++ (insert.into.text ++ (insert.beforeTable.text ++
        (insert.table.text ++ insert.body)))) := by
    refine .behind_token rfl insert.beforeInto (insert.into.isPlain rfl)
      (insert.into.text_ne_nil rfl nofun) ?_ behindInto
    intro line lead blank
    have apart := insert.beforeTable.stopsAt_isWord insert.tableApart
      (insert.table.text ++ insert.body)
    exact step_into blank (stopsAt_seen_of_stopsAt rfl apart) rfl insert.into.spells
  refine .behind_token rfl insert.beforeInsert (insert.insert.isPlain rfl)
    (insert.insert.text_ne_nil rfl nofun) ?_ behindInsert
  intro line lead blank
  exact step_insert blank (stopsAt_seen_of_stopsAt rfl
    (insert.beforeInto.stopsAt_isWord insert.intoApart _)) rfl insert.insert.spells

theorem text_ne_nil : insert.text ≠ [] := by
  simp [text, insert.insert.text_ne_nil rfl nofun]

end SkippedInsert

/-- Content that tells nothing leaves no trace but the number of its lines. -/
theorem IsSilent.scanLines_eq (filled : content ≠ [])
    (silent : IsSilent registry delimiter .idle content) (source : Text) {raws : List Text}
    (read : raws.map dropLineEnd = content.lines.map dropLineEnd) (further : List Text) :
    scanLines registry delimiter source raws = ⟨[], [], none⟩ ∧
      cursorBehind registry delimiter raws = { line := raws.length } ∧
      scanLines registry delimiter source (raws ++ further) =
        (scanLines registry delimiter source further).shift raws.length := by
  have count : raws.length = content.lines.length := by
    have lengths := congrArg List.length read
    rwa [List.length_map, List.length_map] at lengths
  have silent : account registry delimiter {} raws = .rest { line := raws.length } := by
    have whole := silent.account_eq rfl filled 0
    rw [account_congr read, count]
    simpa using whole
  have fresh : ({ line := raws.length } : Cursor) = ({} : Cursor).shift raws.length := by
    simp [Cursor.shift]
  refine ⟨?_, cursorBehind_eq ?_, ?_⟩
  · rw [scanLines_eq_report, silent]
    rfl
  · rw [silent]
    rfl
  · rw [scanLines_eq_report, scanLines_eq_report, account_append, silent, Account.rest_andThen,
      fresh, account_shift, Account.report_shift]

/-- An INSERT into a table that is not registered tells nothing, and what stands behind it is
reported as an input of its own, if the lines that begin or end inside a literal are quiet. -/
theorem scanLines_unregisteredInsert {insert : SkippedInsert}
    (unknown : registry.resolve insert.table.text = none)
    (quiet : ∀ line ∈ brokenLines false insert.body.lines, isQuiet false line = true)
    (source : Text) {raws : List Text}
    (read : raws.map dropLineEnd = insert.text.lines.map dropLineEnd) (further : List Text) :
    scanLines registry delimiter source raws = ⟨[], [], none⟩ ∧
      cursorBehind registry delimiter raws = { line := raws.length } ∧
      scanLines registry delimiter source (raws ++ further) =
        (scanLines registry delimiter source further).shift raws.length :=
  (SkippedInsert.isSilent_text unknown quiet).scanLines_eq insert.text_ne_nil source read further

/-- Two rows on seven lines: a literal that stands on one line holds a statement and opens a
comment, and one that runs over three lines holds quotes and hyphens. -/
theorem scanLines_unregisteredInsert_rows :
    let registry := Registry.ofTables [("menu_node".toList, ["label".toList])]
    let empty : WhiteSpace := ⟨[], rfl⟩
    let newline : WhiteSpace := ⟨['\n', ' '], rfl⟩
    let id : SkippedWord :=
      ⟨"id".toList, by decide +kernel, nofun, by decide +kernel, by decide +kernel⟩
    let one : SkippedWord :=
      ⟨"1".toList, by decide +kernel, nofun, by decide +kernel, by decide +kernel⟩
    let bare (word : SkippedWord) : Padded SkippedValue := ⟨empty, .bare word, empty⟩
    let quoted (content : Text) : Padded SkippedValue := ⟨newline, .quoted content, empty⟩
    let insert : SkippedInsert :=
      { beforeInsert := empty, insert := ⟨"Insert".toList, rfl⟩
        beforeInto := newline, into := ⟨"INTO".toList, rfl⟩
        beforeTable := ⟨[' '], rfl⟩
        table := ⟨some ⟨"Audit".toList, rfl, rfl⟩, ⟨"note".toList, rfl, rfl⟩⟩
        beforeColumns := empty, column := ⟨empty, id, empty⟩, columns := [⟨newline, id, empty⟩]
        beforeValues := ⟨[' '], rfl⟩, values := ⟨"VALUES".toList, rfl⟩
        row := ⟨empty, ⟨bare one, [quoted "/* -- INSERT INTO menu_node".toList]⟩, empty⟩
        rows := [⟨empty, ⟨bare one, [quoted "It's -- a\n\"line\";\n--'".toList]⟩, empty⟩]
        intoApart := nofun, tableApart := nofun }
    let raws := (insert.text ++ ['\r', '\n']).lines
    let further := ["INSERT INTO menu_node (label) VALUES ('A');\n".toList]
    registry.resolve insert.table.text = none ∧
      (∀ line ∈ brokenLines false insert.body.lines, isQuiet false line = true) ∧
      raws.map dropLineEnd = insert.text.lines.map dropLineEnd ∧
      scanLines registry ['\t'] "f".toList raws = ⟨[], [], none⟩ ∧
      scanLines registry ['\t'] "f".toList (raws ++ further) =
        ⟨[("A".toList, ⟨"f".toList, 8⟩)], [], none⟩ := by
  intro registry empty newline id one bare quoted insert raws further
  have unknown : registry.resolve insert.table.text = none := by decide +kernel
  have quiet : ∀ line ∈ brokenLines false insert.body.lines, isQuiet false line = true := by
    decide +kernel
  have read : raws.map dropLineEnd = insert.text.lines.map dropLineEnd := by decide +kernel
  have count : raws.length = 7 := by decide +kernel
  obtain ⟨silent, -, report⟩ :=
    scanLines_unregisteredInsert unknown quiet "f".toList read further
  have fresh : scanLines registry ['\t'] "f".toList further =
      ⟨[("A".toList, ⟨"f".toList, 1⟩)], [], none⟩ := by
    decide +kernel
  rw [fresh, count] at report
  exact ⟨unknown, quiet, read, silent, report⟩

/-- Where every literal stands on one line, the statement tells nothing whatever its literals
hold. -/
theorem scanLines_oneLineLiterals {insert : SkippedInsert}
    (unknown : registry.resolve insert.table.text = none)
    (oneLine : ∀ content ∈ insert.contents, '\n' ∉ content) (source : Text) {raws : List Text}
    (read : raws.map dropLineEnd = insert.text.lines.map dropLineEnd) (further : List Text) :
    scanLines registry delimiter source raws = ⟨[], [], none⟩ ∧
      cursorBehind registry delimiter raws = { line := raws.length } ∧
      scanLines registry delimiter source (raws ++ further) =
        (scanLines registry delimiter source further).shift raws.length := by
  have unbroken := SkippedInsert.brokenLines_body_eq_nil oneLine
  have silent : IsSilent registry delimiter .idle insert.text :=
    SkippedInsert.isSilent_text unknown (by simp [unbroken])
  exact silent.scanLines_eq insert.text_ne_nil source read further

/-- Three literals of two or three lines: the first makes a statement warn, a text of the second is
recorded, and what stands behind the third is not scanned. -/
theorem brokenLiterals_mislead :
    let registry := Registry.ofTables [("menu_node".toList, ["label".toList])]
    let empty : WhiteSpace := ⟨[], rfl⟩
    let space : WhiteSpace := ⟨[' '], rfl⟩
    let column : SkippedWord :=
      ⟨"body".toList, by decide +kernel, nofun, by decide +kernel, by decide +kernel⟩
    let insert (content : Text) : SkippedInsert :=
      { beforeInsert := empty, insert := ⟨"INSERT".toList, rfl⟩
        beforeInto := space, into := ⟨"INTO".toList, rfl⟩
        beforeTable := space, table := ⟨none, ⟨"note".toList, rfl, rfl⟩⟩
        beforeColumns := space, column := ⟨empty, column, empty⟩, columns := []
        beforeValues := space, values := ⟨"VALUES".toList, rfl⟩
        row := ⟨space, ⟨⟨empty, .quoted content, empty⟩, []⟩, empty⟩, rows := []
        intoApart := nofun, tableApart := nofun }
    let scan (content : Text) (further : List Text) : Report :=
      scanLines registry ['\t'] "f".toList (((insert content).text ++ ['\n']).lines ++ further)
    let further := ["INSERT INTO menu_node (label) VALUES ('A');\n".toList]
    (insert ['a']).text = "INSERT INTO note (body) VALUES ('a');".toList ∧
      registry.resolve "note".toList = none ∧
      scan "Please\ninsert a coin".toList [] = ⟨[], [⟨"f".toList, 2, .intoMissing⟩], none⟩ ∧
      scan "see\nINSERT INTO menu_node (label) VALUES (1);\n".toList [] =
        ⟨[("1".toList, ⟨"f".toList, 2⟩)], [], none⟩ ∧
      scan "a\n/* b".toList further = ⟨[], [], none⟩ ∧
      scanLines registry ['\t'] "f".toList further =
        ⟨[("A".toList, ⟨"f".toList, 1⟩)], [], none⟩ := by
  intro registry empty space column insert scan further
  refine ⟨?_, ?_, ?_, ?_, ?_, ?_⟩
  all_goals decide +kernel

end SeedCatalog.Scan
