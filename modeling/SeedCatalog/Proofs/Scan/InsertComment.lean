import SeedCatalog.Proofs.Scan.Comment
import SeedCatalog.Proofs.Scan.Layout
import SeedCatalog.Proofs.Scan.LineInsert

/-!
# Comments inside a statement

A statement on one line is followed token by token.  In front of a token a
comment leaves no trace, and behind a value the reader of values passes over it.
Behind a column there is no reader of comments, and a bare word may be read on
into a comment; a statement that tolerates its comments has none at these
places.
-/

namespace SeedCatalog.Scan

open SeedCatalog.Sql Text

variable {registry : Registry} {delimiter source : Text} {line : Int}

/-! ## Spacing -/

/-- The text neither opens a line comment nor ends the line. -/
structure InLine (text : Text) : Prop where
  closed : Closed text
  notMem : '\n' ∉ text

namespace InLine

theorem append {first second : Text} (inLine : InLine first) (inLine' : InLine second) :
    InLine (first ++ second) := by
  constructor
  · exact inLine.closed.append inLine'.closed
  · simp [inLine.notMem, inLine'.notMem]

theorem of_isPlain {text : Text} (plain : IsPlain text) : InLine text :=
  ⟨plain.closed, plain.notMem⟩

end InLine

theorem inLine_word {text : Text} (word : text.all isWord = true) : InLine text := by
  constructor
  · apply closed_of_all
    rw [List.all_eq_true]
    exact fun c mem => isInert_of_isWord (List.all_eq_true.1 word c mem)
  · intro mem
    have feed := not_isBlank_of_isWord (List.all_eq_true.1 word '\n' mem)
    contradiction

theorem inLine_name (name : UnquotedName) : InLine name.text := by
  refine ⟨name.closed, fun mem => ?_⟩
  have feed := not_isBlank_of_continuesIdentifier (name.continuesIdentifier_of_mem mem)
  contradiction

theorem inLine_reference (reference : UnquotedReference) : InLine reference.text := by
  unfold UnquotedReference.text
  split
  · exact inLine_name reference.name
  · rename_i schema _
    have dot : InLine ['.'] := .of_isPlain rfl
    exact (inLine_name schema).append (dot.append (inLine_name reference.name))

namespace Spacing

variable (spacing : Spacing)

theorem comments : Comments ClosesFirst spacing.text := by
  induction spacing with
  | nil => exact .nil
  | cons spacer spacing ih =>
      cases spacer with
      | blank c blank inLine => exact .blank blank ih
      | comment body first inLine =>
          rw [text_cons, Spacer.text, blockComment_append]
          exact .comment first ih

theorem inLine : InLine spacing.text := by
  induction spacing with
  | nil => exact ⟨closed_nil, List.not_mem_nil⟩
  | cons spacer spacing ih =>
      refine InLine.append ?_ ih
      cases spacer with
      | blank c blank inLine =>
          have allBlank : Text.allBlank [c] = true := by simp [allBlank, blank]
          exact ⟨closed_of_allBlank allBlank, by simpa [Spacer.text] using inLine.symm⟩
      | comment body first inLine =>
          exact ⟨closed_blockComment first, by simp [Spacer.text, blockComment, inLine]⟩

theorem allBlank_plain : spacing.plain.text.allBlank = true := by
  induction spacing with
  | nil => rfl
  | cons spacer spacing ih =>
      cases spacer with
      | blank c blank inLine =>
          have kept : (plain (.blank c blank inLine :: spacing)).text =
              c :: (plain spacing).text := rfl
          rw [kept, allBlank, List.all_cons, blank]
          exact ih
      | comment body first inLine => exact ih

theorem ne_nil_of_plain {spacing : Spacing} (apart : spacing.plain ≠ []) : spacing ≠ [] := by
  rintro rfl
  contradiction

/-- White space and comments do not go on with a character of a class that has neither blanks nor
the slash. -/
theorem stopsAt {p : Char → Bool} (apart : ∀ c, isBlank c = true → p c = false)
    (noSlash : p '/' = false) {rest : Text} (ends : spacing ≠ [] ∨ rest.stopsAt p = true) :
    (spacing.text ++ rest).stopsAt p = true := by
  cases spacing with
  | nil => exact ends.resolve_left (by simp)
  | cons spacer spacing =>
      cases spacer with
      | blank c blank inLine => simp [Spacer.text, Text.stopsAt, apart c blank]
      | comment body first inLine => simp [Spacer.text, blockComment, Text.stopsAt, noSlash]

/-- Behind the blanks stands the first character behind the spacing, or a comment. -/
theorem head?_skipBlanks {d : Char} (noSlash : '/' ≠ d) {rest : Text}
    (other : rest.skipBlanks.head? ≠ some d) :
    (spacing.text ++ rest).skipBlanks.head? ≠ some d := by
  induction spacing with
  | nil => exact other
  | cons spacer spacing ih =>
      cases spacer with
      | blank c blank inLine =>
          have allBlank : Text.allBlank [c] = true := by simp [allBlank, blank]
          rw [text_cons, Spacer.text, List.append_assoc, skipBlanks_append allBlank]
          exact ih
      | comment body first inLine =>
          rw [text_cons, Spacer.text, List.append_assoc, blockComment_append,
            skipBlanks_of_not_isBlank rfl]
          simpa using noSlash

/-- Comments in front of a token leave no trace. -/
theorem exists_lead {cursor : Cursor} (tokens : cursor.phase.readsTokens = true)
    (noResume : cursor.resume = none) {lead : Text} (blank : lead.allBlank = true) :
    ∃ lead', lead'.allBlank = true ∧ ∀ rest,
      textAccount registry delimiter cursor (lead ++ (spacing.text ++ rest)) =
        textAccount registry delimiter cursor (lead' ++ rest) := by
  induction spacing generalizing lead with
  | nil => exact ⟨lead, blank, fun rest => rfl⟩
  | cons spacer spacing ih =>
      cases spacer with
      | blank c isBlank inLine =>
          have longer : (lead ++ [c]).allBlank = true := by
            rw [allBlank, List.all_append, List.all_cons, isBlank]
            simpa [allBlank] using blank
          obtain ⟨lead', blank', same⟩ := ih longer
          refine ⟨lead', blank', fun rest => ?_⟩
          rw [← same rest]
          simp [Spacer.text]
      | comment body first inLine =>
          have nothing : Text.allBlank [] = true := rfl
          obtain ⟨lead', blank', same⟩ := ih nothing
          refine ⟨lead', blank', fun rest => ?_⟩
          rw [← same rest, text_cons, List.append_assoc, Spacer.text,
            textAccount_comment (Phase.ne_dataBlock tokens) (Phase.ne_comment tokens) noResume blank
              first]
          rfl

end Spacing

/-- A token is taken behind white space and comments, if it is taken behind blanks. -/
theorem textAccount_token {cursor : Cursor} (tokens : cursor.phase.readsTokens = true)
    (noResume : cursor.resume = none) (spacing : Spacing) {text : Text} {transition : Transition}
    (step : ∀ lead, lead.allBlank = true →
      cursor.step registry delimiter (lead ++ text) = .ok transition)
    (going : transition.needsInput = false) :
    textAccount registry delimiter cursor (spacing.text ++ text) =
      (textAccount registry delimiter transition.cursor transition.remainder).after
        transition.events := by
  have nothing : Text.allBlank [] = true := rfl
  obtain ⟨lead, blank, same⟩ := spacing.exists_lead tokens noResume nothing
  have passed := same text
  rw [List.nil_append] at passed
  rw [passed, textAccount_of_going (step lead blank) going]

/-- A token that tells nothing is passed over, together with what stands before it. -/
theorem textAccount_silentToken {cursor : Cursor} (tokens : cursor.phase.readsTokens = true)
    (noResume : cursor.resume = none) (spacing : Spacing) {text : Text} {transition : Transition}
    (step : ∀ lead, lead.allBlank = true →
      cursor.step registry delimiter (lead ++ text) = .ok transition)
    (going : transition.needsInput = false) (silent : transition.events = []) :
    textAccount registry delimiter cursor (spacing.text ++ text) =
      textAccount registry delimiter transition.cursor transition.remainder := by
  rw [textAccount_token tokens noResume spacing step going, silent, Account.after_nil]

/-! ## Columns -/

section

variable {reading : Statement}

theorem textAccount_column (isOpen : reading.columnsOpen = true) (item : Spaced UnquotedName)
    (uncommented : item.after.plain = item.after) (isLast : Bool) (rest : Text) :
    textAccount registry delimiter { phase := .columnList, line, statement := some reading }
        (item.text UnquotedName.text ++ endMark isLast :: rest) =
      textAccount registry delimiter
        { phase := if isLast then .beforeValues else .columnList
          line
          statement := some (reading.withColumn item.content.text) }
        rest := by
  have blank' : item.after.text.allBlank = true := by
    rw [← uncommented]
    exact item.after.allBlank_plain
  have step : ∀ lead : Text, lead.allBlank = true →
      Cursor.step registry delimiter { phase := .columnList, line, statement := some reading }
        (lead ++ (item.content.text ++ (item.after.text ++ endMark isLast :: rest))) = .ok _ :=
    fun lead blank => step_column .columns rfl isOpen blank item.content blank' isLast rest
  rw [Spaced.text, List.append_assoc, List.append_assoc]
  exact textAccount_silentToken rfl rfl item.before step rfl rfl

/-- The columns of a list are read one after the other. -/
theorem textAccount_lineColumns (isOpen : reading.columnsOpen = true) (item : Spaced UnquotedName)
    (others : List (Spaced UnquotedName))
    (uncommented : ∀ other ∈ item :: others, other.after.plain = other.after) (rest : Text) :
    textAccount registry delimiter { phase := .columnList, line, statement := some reading }
        (item.list UnquotedName.text others ++ rest) =
      textAccount registry delimiter
        { phase := .beforeValues
          line
          statement := some (reading.withNames
            ((item :: others).map fun item => item.content.text)) }
        rest := by
  induction others generalizing reading item with
  | nil =>
      have column := uncommented item List.mem_cons_self
      rw [Spaced.list, List.append_assoc, List.singleton_append,
        textAccount_column isOpen item column true rest]
      rfl
  | cons next others ih =>
      have column := uncommented item List.mem_cons_self
      have isOpen' : (reading.withColumn item.content.text).columnsOpen = true := isOpen
      rw [Spaced.list, List.append_assoc, List.cons_append,
        textAccount_column isOpen item column false]
      exact ih isOpen' next fun other mem => uncommented other (List.mem_cons_of_mem item mem)

/-! ## Rows and their values -/

/-- A comma announces a further row. -/
theorem textAccount_comma (spacing : Spacing) (rest : Text) :
    textAccount registry delimiter { phase := .afterTuple, line, statement := some reading }
        (spacing.text ++ ',' :: rest) =
      textAccount registry delimiter { phase := .beforeTuple, line, statement := some reading }
        rest := by
  have step : ∀ lead : Text, lead.allBlank = true →
      Cursor.step registry delimiter { phase := .afterTuple, line, statement := some reading }
          (lead ++ ',' :: rest) = .ok
        { cursor := { phase := .beforeTuple, line, statement := some reading }
          remainder := rest } :=
    fun lead blank => step_nextTuple blank rest rfl
  exact textAccount_silentToken rfl rfl spacing step rfl rfl

/-- The semicolon ends the statement. -/
theorem textAccount_semicolon (spacing : Spacing) (rest : Text) :
    textAccount registry delimiter { phase := .afterTuple, line, statement := some reading }
        (spacing.text ++ ';' :: rest) =
      textAccount registry delimiter { line } rest := by
  have step : ∀ lead : Text, lead.allBlank = true →
      Cursor.step registry delimiter { phase := .afterTuple, line, statement := some reading }
          (lead ++ ';' :: rest) = .ok { cursor := { line }, remainder := rest } :=
    fun lead blank => step_endTuples blank rest rfl
  exact textAccount_silentToken rfl rfl spacing step rfl rfl

variable {asks : Nat → Bool}
  (translates : ∀ position : Nat, reading.isTranslatable registry (position + 1) = asks position)
include translates

/-- A value is found if it is asked for, whatever comments stand behind it that it tolerates. -/
theorem textAccount_value (position : Nat) (item : Spaced LineValue)
    (tolerates : Tolerates (asks position) item.content.value item.after.text) (isLast : Bool)
    (rest : Text) :
    textAccount registry delimiter
        { phase := .tuple, line, statement := some { reading with ordinal := position } }
        (item.text LineValue.written ++ endMark isLast :: rest) =
      (textAccount registry delimiter
        { phase := if isLast then .afterTuple else .tuple
          line
          statement := some { reading with ordinal := (position + 1 : Nat) } }
        rest).after
        ((if asks position then [item.content.value.text] else []).map (Event.found · line)) := by
  have step : ∀ lead : Text, lead.allBlank = true →
      Cursor.step registry delimiter
          { phase := .tuple, line, statement := some { reading with ordinal := position } }
          (lead ++ (item.content.written ++ (item.after.text ++ endMark isLast :: rest))) = .ok
        { cursor :=
            { phase := if isLast then .afterTuple else .tuple
              line
              statement := some { reading with ordinal := (position + 1 : Nat) } }
          remainder := rest
          found := if asks position then [item.content.value.text] else [] } := by
    intro lead blank
    obtain ⟨c, others, skipped, noSlash⟩ :=
      skipBlanks_value_cons blank item.content.value (item.after.text ++ endMark isLast :: rest)
    obtain ⟨read, value, text⟩ :=
      exists_value?_comments blank item.after.comments isLast rest tolerates
    have found : (if reading.isTranslatable registry (position + 1) then [read.text] else []) =
        if asks position then [item.content.value.text] else [] := by
      rw [translates]
      cases asked : asks position with
      | true => rw [text asked]
      | false => rfl
    have taken : Cursor.step registry delimiter
        { phase := .tuple, line, statement := some { reading with ordinal := position } }
        (lead ++ (item.content.written ++ (item.after.text ++ endMark isLast :: rest))) = .ok _ :=
      step_of_value? rfl rfl skipped noSlash value
    rw [← found]
    exact taken
  have found := textAccount_token rfl rfl item.before step rfl
  rw [Spaced.text, List.append_assoc, List.append_assoc, found, Transition.events,
    Option.toList_none, List.map_nil, List.append_nil]

/-- The values of a row are read one after the other. -/
theorem textAccount_values (position : Nat) (item : Spaced LineValue)
    (others : List (Spaced LineValue))
    (tolerates : ∀ index other, (item :: others)[index]? = some other →
      Tolerates (asks (position + index)) other.content.value other.after.text) (rest : Text) :
    textAccount registry delimiter
        { phase := .tuple, line, statement := some { reading with ordinal := position } }
        (item.list LineValue.written others ++ rest) =
      (textAccount registry delimiter
        { phase := .afterTuple
          line
          statement := some { reading with ordinal := (position + 1 + others.length : Nat) } }
        rest).after
        ((askedFrom asks position ((item :: others).map fun item => item.content.value.text)).map
          (Event.found · line)) := by
  have first := tolerates 0 item rfl
  induction others generalizing position item with
  | nil =>
      rw [Spaced.list, List.append_assoc, List.singleton_append,
        textAccount_value translates position item first true]
      simp [askedFrom]
  | cons next others ih =>
      have behind : ∀ index other, (next :: others)[index]? = some other →
          Tolerates (asks (position + 1 + index)) other.content.value other.after.text := by
        intro index other found
        rw [Nat.add_right_comm]
        exact tolerates (index + 1) other found
      have ih := ih (position + 1) next behind (behind 0 next rfl)
      have number : position + 1 + (next :: others).length = position + 1 + 1 + others.length := by
        rw [List.length_cons]
        omega
      rw [Spaced.list, List.append_assoc, List.cons_append,
        textAccount_value translates position item first false, number, List.map_cons, askedFrom,
        List.map_append]
      simp only [Bool.false_eq_true, if_false]
      rw [ih, Account.after_after]

/-- A row is read up to its closing parenthesis. -/
theorem textAccount_row (row : LineRow) (tolerates : row.ToleratesComments asks) (rest : Text) :
    textAccount registry delimiter { phase := .beforeTuple, line, statement := some reading }
        (row.before.text ++ '(' :: (row.first.list LineValue.written row.others ++ rest)) =
      (textAccount registry delimiter
        { phase := .afterTuple
          line
          statement := some { reading with ordinal := (0 + 1 + row.others.length : Nat) } }
        rest).after ((row.found asks).map (Event.found · line)) := by
  have step : ∀ lead : Text, lead.allBlank = true →
      Cursor.step registry delimiter { phase := .beforeTuple, line, statement := some reading }
          (lead ++ '(' :: (row.first.list LineValue.written row.others ++ rest)) = .ok
        { cursor :=
            { phase := .tuple, line, statement := some { reading with ordinal := (0 : Nat) } }
          remainder := row.first.list LineValue.written row.others ++ rest } :=
    fun lead blank => step_openTuple blank _ rfl rfl
  have values : ∀ index other, (row.first :: row.others)[index]? = some other →
      Tolerates (asks (0 + index)) other.content.value other.after.text := by
    intro index other found
    rw [Nat.zero_add]
    exact tolerates index other found
  rw [textAccount_silentToken rfl rfl row.before step rfl rfl]
  exact textAccount_values translates 0 row.first row.others values rest

/-- Rows are read one after the other, up to the semicolon. -/
theorem textAccount_rows (row : LineRow) (others : List LineRow)
    (tolerates : ∀ other ∈ row :: others, other.ToleratesComments asks) (rest : Text) :
    textAccount registry delimiter { phase := .beforeTuple, line, statement := some reading }
        (row.list others ++ rest) =
      (textAccount registry delimiter { line } rest).after
        (((row :: others).flatMap (LineRow.found asks)).map (Event.found · line)) := by
  have first := tolerates row List.mem_cons_self
  induction others generalizing reading row with
  | nil =>
      have written : row.list [] ++ rest =
          row.before.text ++ '(' :: (row.first.list LineValue.written row.others ++
            (row.after.text ++ ';' :: rest)) := by
        simp [LineRow.list, LineRow.text]
      rw [written, textAccount_row translates row first, textAccount_semicolon,
        List.flatMap_singleton]
  | cons next others ih =>
      have translates' : ∀ ordinal position : Nat,
          Statement.isTranslatable registry { reading with ordinal } (position + 1) =
            asks position :=
        fun _ => translates
      have written : row.list (next :: others) ++ rest =
          row.before.text ++ '(' :: (row.first.list LineValue.written row.others ++
            (row.after.text ++ ',' :: (next.list others ++ rest))) := by
        simp [LineRow.list, LineRow.text]
      have behind : ∀ other ∈ next :: others, other.ToleratesComments asks :=
        fun other mem => tolerates other (List.mem_cons_of_mem row mem)
      rw [written, textAccount_row translates row first, textAccount_comma,
        ih (translates' _) next behind (behind next List.mem_cons_self), Account.after_after,
        ← List.map_append]
      rfl

end

/-! ## Statements -/

section

variable {rest : Text} (spacing : Spacing)

theorem textAccount_insert (word : Keyword "INSERT".toList) (stops : rest.stopsAt isWord = true) :
    textAccount registry delimiter { line } (spacing.text ++ (word.text ++ rest)) =
      textAccount registry delimiter { phase := .afterInsert, line } rest := by
  have step : ∀ lead : Text, lead.allBlank = true →
      Cursor.step registry delimiter { line } (lead ++ (word.text ++ rest)) = .ok
        { cursor := { phase := .afterInsert, line }, remainder := rest } :=
    fun lead blank => step_insert blank stops rfl word.spells
  exact textAccount_silentToken rfl rfl spacing step rfl rfl

theorem textAccount_into (word : Keyword "INTO".toList) (stops : rest.stopsAt isWord = true) :
    textAccount registry delimiter { phase := .afterInsert, line }
        (spacing.text ++ (word.text ++ rest)) =
      textAccount registry delimiter { phase := .afterInto, line } rest := by
  have step : ∀ lead : Text, lead.allBlank = true →
      Cursor.step registry delimiter { phase := .afterInsert, line }
          (lead ++ (word.text ++ rest)) = .ok
        { cursor := { phase := .afterInto, line }, remainder := rest } :=
    fun lead blank => step_into blank stops rfl word.spells
  exact textAccount_silentToken rfl rfl spacing step rfl rfl

theorem textAccount_insertTable {reference : UnquotedReference} {table : Text}
    (resolved : registry.resolve reference.text = some table)
    (stops : rest.stopsAt continuesIdentifier = true)
    (unqualified : rest.skipBlanks.head? ≠ some '.') :
    textAccount registry delimiter { phase := .afterInto, line }
        (spacing.text ++ (reference.text ++ rest)) =
      textAccount registry delimiter { phase := .columnList, line, statement := some { table } }
        rest := by
  have step : ∀ lead : Text, lead.allBlank = true →
      Cursor.step registry delimiter { phase := .afterInto, line }
          (lead ++ (reference.text ++ rest)) = .ok
        { cursor := { phase := .columnList, line, statement := some { table } }
          remainder := rest } :=
    fun lead blank => step_insertTable blank reference stops unqualified resolved rfl
  exact textAccount_silentToken rfl rfl spacing step rfl rfl

theorem textAccount_openColumns {reading : Statement} (notOpen : reading.columnsOpen = false) :
    textAccount registry delimiter { phase := .columnList, line, statement := some reading }
        (spacing.text ++ '(' :: rest) =
      textAccount registry delimiter
        { phase := .columnList, line, statement := some { reading with columnsOpen := true } }
        rest := by
  have step : ∀ lead : Text, lead.allBlank = true →
      Cursor.step registry delimiter { phase := .columnList, line, statement := some reading }
          (lead ++ '(' :: rest) = .ok
        { cursor :=
            { phase := .columnList, line, statement := some { reading with columnsOpen := true } }
          remainder := rest } :=
    fun lead blank => step_openColumns .columns rfl notOpen blank rest
  exact textAccount_silentToken rfl rfl spacing step rfl rfl

theorem textAccount_valuesWord {reading : Statement} (word : Keyword "VALUES".toList)
    (stops : rest.stopsAt isWord = true) :
    textAccount registry delimiter { phase := .beforeValues, line, statement := some reading }
        (spacing.text ++ (word.text ++ rest)) =
      textAccount registry delimiter { phase := .beforeTuple, line, statement := some reading }
        rest := by
  have step : ∀ lead : Text, lead.allBlank = true →
      Cursor.step registry delimiter { phase := .beforeValues, line, statement := some reading }
          (lead ++ (word.text ++ rest)) = .ok
        { cursor := { phase := .beforeTuple, line, statement := some reading }
          remainder := rest } :=
    fun lead blank => step_values blank stops rfl rfl word.spells
  exact textAccount_silentToken rfl rfl spacing step rfl rfl

end

namespace LineInsert

variable (written : LineInsert)

/-- The statement as it stands behind its column list. -/
def reading (table : Text) : Statement :=
  Statement.withNames { table, columnsOpen := true } written.names

theorem isTranslatable_reading (table : Text) (position : Nat) :
    (written.reading table).isTranslatable registry (position + 1) =
      written.asks registry table position := by
  rw [Statement.isTranslatable, reading, (Statement.numbers_withNames _ _).numbered,
    Statement.table_withNames]
  rfl

variable {table : Text} (resolved : registry.resolve written.table.text = some table)
  (tolerates : written.ToleratesComments registry table)
include resolved tolerates

/-- A statement is read up to its rows. -/
theorem textAccount_opening {rest : Text} (stops : rest.stopsAt isWord = true) :
    textAccount registry delimiter { line } (written.opening ++ rest) =
      textAccount registry delimiter
        { phase := .beforeTuple, line, statement := some (written.reading table) } rest := by
  have text : written.opening ++ rest =
      written.beforeInsert.text ++ (written.insert.text ++
        (written.beforeInto.text ++ (written.into.text ++
          (written.beforeTable.text ++ (written.table.text ++
            (written.beforeColumns.text ++ '(' ::
              (written.column.list UnquotedName.text written.columns ++
                (written.beforeValues.text ++ (written.values.text ++ rest))))))))) := by
    simp [opening]
  have intoApart := Spacing.ne_nil_of_plain written.intoApart
  have tableApart := Spacing.ne_nil_of_plain written.tableApart
  have unqualified (rest : Text) : (skipBlanks ('(' :: rest)).head? ≠ some '.' := nofun
  rw [text,
    textAccount_insert _ _ (written.beforeInto.stopsAt (fun _ => not_isWord_of_isBlank) rfl
      (.inl intoApart)),
    textAccount_into _ _ (written.beforeTable.stopsAt (fun _ => not_isWord_of_isBlank) rfl
      (.inl tableApart)),
    textAccount_insertTable _ resolved
      (written.beforeColumns.stopsAt (fun _ => not_continuesIdentifier_of_isBlank) rfl (.inr rfl))
      (written.beforeColumns.head?_skipBlanks (by decide) (unqualified _)),
    textAccount_openColumns _ rfl,
    textAccount_lineColumns rfl _ _ tolerates.columns, textAccount_valuesWord _ _ stops]
  rfl

/-- A statement tells what it is asked for, whatever comments it tolerates. -/
theorem textAccount_text (rest : Text) :
    textAccount registry delimiter { line } (written.text ++ rest) =
      (textAccount registry delimiter { line } rest).after
        ((written.found registry table).map (Event.found · line)) := by
  have stops : (written.row.list written.rows ++ rest).stopsAt isWord = true := by
    obtain ⟨others, begins⟩ := written.row.exists_list_eq written.rows
    rw [begins, List.append_assoc]
    exact written.row.before.stopsAt (fun _ => not_isWord_of_isBlank) rfl (.inr rfl)
  rw [text, List.append_assoc, written.textAccount_opening resolved tolerates stops,
    textAccount_rows (written.isTranslatable_reading table) written.row written.rows
      tolerates.values]
  rfl

end LineInsert

/-! ## Statements as part of a line -/

theorem Keyword.inLine {word : Text} (keyword : Keyword word)
    (capitals : word.all Char.isUpper = true) : InLine keyword.text :=
  inLine_word (keyword.spells.all_isWord capitals)

theorem inLine_value (value : LineValue) : InLine value.written :=
  ⟨value.value.closed, value.inLine⟩

theorem Spaced.inLine_list {α : Type} {write : α → Text}
    (inLine : ∀ content, InLine (write content)) (item : Spaced α) (others : List (Spaced α)) :
    InLine (item.list write others) := by
  have text (item : Spaced α) : InLine (item.text write) :=
    item.before.inLine.append ((inLine item.content).append item.after.inLine)
  induction others generalizing item with
  | nil => exact (text item).append (.of_isPlain (isPlain_endMark true))
  | cons next others ih =>
      have mark : InLine [endMark false] := .of_isPlain (isPlain_endMark false)
      exact (text item).append (mark.append (ih next))

namespace LineRow

theorem inLine_text (row : LineRow) : InLine row.text := by
  have mark : InLine ['('] := .of_isPlain rfl
  have values := Spaced.inLine_list inLine_value row.first row.others
  exact row.before.inLine.append (mark.append (values.append row.after.inLine))

theorem inLine_list (row : LineRow) (others : List LineRow) : InLine (row.list others) := by
  induction others generalizing row with
  | nil => exact row.inLine_text.append (.of_isPlain rfl)
  | cons next others ih =>
      have mark : InLine [','] := .of_isPlain rfl
      exact row.inLine_text.append (mark.append (ih next))

theorem exists_list_eq_concat (row : LineRow) (others : List LineRow) :
    ∃ front, row.list others = front ++ [';'] := by
  induction others generalizing row with
  | nil => exact ⟨row.text, rfl⟩
  | cons next others ih =>
      obtain ⟨front, same⟩ := ih next
      refine ⟨row.text ++ ',' :: front, ?_⟩
      rw [list, same]
      simp

end LineRow

namespace LineInsert

variable (written : LineInsert)

theorem inLine_text : InLine written.text := by
  have mark : InLine ['('] := .of_isPlain rfl
  have columns := Spaced.inLine_list inLine_name written.column written.columns
  have values := written.beforeValues.inLine.append (written.values.inLine rfl)
  have list := written.beforeColumns.inLine.append (mark.append (columns.append values))
  have table := written.beforeTable.inLine.append ((inLine_reference written.table).append list)
  have into := written.beforeInto.inLine.append ((written.into.inLine rfl).append table)
  have opening : InLine written.opening :=
    written.beforeInsert.inLine.append ((written.insert.inLine rfl).append into)
  exact opening.append (written.row.inLine_list written.rows)

theorem unended_text : Unended written.text := by
  obtain ⟨front, same⟩ := written.row.exists_list_eq_concat written.rows
  rw [text, same, ← List.append_assoc]
  exact unended_concat (by decide) (by decide) _

/-- What stands behind a statement is scanned behind what the statement tells. -/
theorem scanText_append {table : Text} (resolved : registry.resolve written.table.text = some table)
    (tolerates : written.ToleratesComments registry table) (rest : Text) :
    scanText registry delimiter source (written.text ++ rest) =
      (((textAccount registry delimiter { line := 1 }
          (dropLineComment (dropLineEnd rest.firstLine) ++ ['\n'])).after
        ((written.found registry table).map (Event.found · 1))).andThen
          (account registry delimiter · rest.otherLines)).report source := by
  have inLine := written.inLine_text
  have filled : written.text ++ rest ≠ [] := by
    obtain ⟨front, same⟩ := written.row.exists_list_eq_concat written.rows
    simp [text, same]
  rw [scanText_eq_reportFrom, reportFrom_eq rfl filled, firstLine_append inLine.notMem,
    otherLines_append inLine.notMem, List.nil_append, dropLineEnd_append written.unended_text,
    inLine.closed, List.append_assoc]
  exact congrArg
    (fun told : Account => (told.andThen (account registry delimiter · rest.otherLines)).report
      source)
    (written.textAccount_text resolved tolerates _)

/-! ## Without the comments -/

theorem names_plain : written.plain.names = written.names := by
  simp [names, plain, Spaced.plain]

theorem found_plain (registry : Registry) (table : Text) :
    written.plain.found registry table = written.found registry table := by
  have asks : written.plain.asks registry table = written.asks registry table := by
    funext position
    rw [LineInsert.asks, names_plain, LineInsert.asks]
  have row (row : LineRow) (asks : Nat → Bool) : row.plain.found asks = row.found asks := by
    simp [LineRow.found, LineRow.items, LineRow.plain, Spaced.plain, Function.comp_def]
  rw [found, asks]
  simp [found, plain, row, List.flatMap_map]

/-- Where there are no comments, there is nothing to tolerate. -/
theorem toleratesComments_plain (registry : Registry) (table : Text) :
    written.plain.ToleratesComments registry table := by
  constructor
  · intro item mem
    have columns : written.plain.column :: written.plain.columns =
        (written.column :: written.columns).map Spaced.plain := rfl
    rw [columns] at mem
    obtain ⟨item, -, rfl⟩ := List.mem_map.1 mem
    exact item.after.plain_plain
  · intro row mem position item found
    have rows : written.plain.row :: written.plain.rows =
        (written.row :: written.rows).map LineRow.plain := rfl
    rw [rows] at mem
    obtain ⟨row, -, rfl⟩ := List.mem_map.1 mem
    have items : row.plain.items = row.items.map Spaced.plain := rfl
    rw [items, List.getElem?_map] at found
    obtain ⟨item, -, rfl⟩ := Option.map_eq_some_iff.1 found
    exact .blank _ item.after.allBlank_plain

end LineInsert

/-- A statement that tolerates its comments is reported as it would be without them: the same
records at the same places, and the same warnings, whatever stands behind the statement. -/
theorem scanText_plain (written : LineInsert) {table : Text}
    (resolved : registry.resolve written.table.text = some table)
    (tolerates : written.ToleratesComments registry table) (rest : Text) :
    scanText registry delimiter source (written.text ++ rest) =
      scanText registry delimiter source (written.plain.text ++ rest) := by
  have resolved' : registry.resolve written.plain.table.text = some table := resolved
  have tolerates' := written.toleratesComments_plain registry table
  rw [written.scanText_append resolved tolerates,
    written.plain.scanText_append resolved' tolerates', written.found_plain]

/-- Comments between the words, around the marks, and behind values of each kind. -/
theorem scanText_plain_rows :
    let registry := Registry.ofTables [("menu_node".toList, ["label".toList])]
    let comment : Spacer := .comment " (a, 'b'); ".toList (by decide +kernel) (by decide +kernel)
    let id : UnquotedName := ⟨"id".toList, rfl, rfl⟩
    let label : UnquotedName := ⟨"Label".toList, rfl, rfl⟩
    let table : UnquotedName := ⟨"Menu_Node".toList, rfl, rfl⟩
    let number : LineValue := ⟨.bare "12".toList (by simp) rfl, by decide +kernel⟩
    let letter : LineValue := ⟨.bare "x".toList (by simp) rfl, by decide +kernel⟩
    let quoted : LineValue := ⟨.literal "it's".toList (by decide +kernel), by decide +kernel⟩
    let statement : LineInsert :=
      { beforeInsert := [comment], insert := ⟨"Insert".toList, rfl⟩
        beforeInto := [comment, .space], into := ⟨"INTO".toList, rfl⟩
        beforeTable := [.space, comment], table := ⟨none, table⟩
        beforeColumns := [comment], column := ⟨[comment], id, []⟩
        columns := [⟨[.space, comment], label, [.space]⟩]
        beforeValues := [comment, comment], values := ⟨"values".toList, rfl⟩
        row := ⟨[comment], ⟨[comment], number, [.space, comment]⟩, [⟨[], quoted, [comment]⟩], []⟩
        rows := [⟨[.space], ⟨[], number, []⟩, [⟨[comment], letter, [comment]⟩], [comment]⟩]
        intoApart := by simp [Spacing.plain, Spacer.isComment, Spacer.space, comment]
        tableApart := by simp [Spacing.plain, Spacer.isComment, Spacer.space, comment] }
    registry.resolve statement.table.text = some "menu_node".toList ∧
      statement.ToleratesComments registry "menu_node".toList ∧
      statement.plain.text =
        "Insert INTO Menu_Node(id, Label )values(12 ,'it''s'), (12,x);".toList ∧
      scanText registry ['\t'] "f".toList (statement.text ++ "\n(".toList) =
        ⟨[("it's".toList, ⟨"f".toList, 1⟩), ("x".toList, ⟨"f".toList, 1⟩)], [], none⟩ := by
  intro registry comment id label table number letter quoted statement
  have resolved : registry.resolve statement.table.text = some "menu_node".toList := by
    decide +kernel
  have tolerates : statement.ToleratesComments registry "menu_node".toList := by
    constructor
    · intro item mem
      cases mem with
      | head => rfl
      | tail _ mem =>
          cases mem with
          | head => rfl
          | tail _ mem => contradiction
    · have stopped (asked : Bool) : Tolerates asked number.value
          ([' '] ++ '/' :: '*' :: ([' '] ++ '(' :: "a, 'b'); */".toList)) :=
        .stopped _ _ _ rfl rfl (by decide +kernel) (.inl rfl) _
      intro row mem position item found
      cases mem with
      | head =>
          match position, found with
          | 0, rfl => exact stopped _
          | 1, rfl => exact .literal _ _ _
      | tail _ mem =>
          cases mem with
          | head =>
              match position, found with
              | 0, rfl => exact .blank _ rfl
              | 1, rfl => exact .letter _ _ _ rfl
          | tail _ mem => contradiction
  have plain : statement.plain.text =
      "Insert INTO Menu_Node(id, Label )values(12 ,'it''s'), (12,x);".toList := by
    decide +kernel
  have report : scanText registry ['\t'] "f".toList
      (statement.plain.text ++ "\n(".toList) =
      ⟨[("it's".toList, ⟨"f".toList, 1⟩), ("x".toList, ⟨"f".toList, 1⟩)], [], none⟩ := by
    decide +kernel
  rw [← scanText_plain statement resolved tolerates] at report
  exact ⟨resolved, tolerates, plain, report⟩

/-- Comments are not passed over everywhere.  Behind a column a comment makes the list of columns
malformed, so that the statement is given up, and behind a word it becomes a part of the value. -/
theorem comments_are_read_on :
    let comment : Spacer := .comment " c ".toList (by decide +kernel) (by decide +kernel)
    let a : UnquotedName := ⟨['a'], rfl, rfl⟩
    let b : UnquotedName := ⟨['b'], rfl, rfl⟩
    let x : LineValue := ⟨.literal ['x'] (by decide +kernel), by decide +kernel⟩
    let y : LineValue := ⟨.literal ['y'] (by decide +kernel), by decide +kernel⟩
    let word : LineValue := ⟨.bare ['a', 'b'] (by simp) rfl, by decide +kernel⟩
    let written (column : Spaced UnquotedName) (columns : List (Spaced UnquotedName))
        (value : Spaced LineValue) (values : List (Spaced LineValue)) : LineInsert :=
      { beforeInsert := [], insert := ⟨"INSERT".toList, rfl⟩
        beforeInto := [.space], into := ⟨"INTO".toList, rfl⟩
        beforeTable := [.space], table := ⟨none, ⟨['t'], rfl, rfl⟩⟩
        beforeColumns := [.space], column, columns
        beforeValues := [.space], values := ⟨"VALUES".toList, rfl⟩
        row := ⟨[.space], value, values, []⟩
        rows := []
        intoApart := by simp [Spacing.plain, Spacer.isComment, Spacer.space]
        tableApart := by simp [Spacing.plain, Spacer.isComment, Spacer.space] }
    let behindColumn :=
      written ⟨[], a, [.space, comment]⟩ [⟨[.space], b, []⟩] ⟨[], x, []⟩ [⟨[.space], y, []⟩]
    let behindWord := written ⟨[], a, []⟩ [] ⟨[], word, [.space, comment]⟩ []
    let registry := Registry.ofTables [(['t'], [['a'], ['b']])]
    let line : Location := ⟨['f'], 1⟩
    behindColumn.text = "INSERT INTO t (a /* c */, b) VALUES ('x', 'y');".toList ∧
      scanText registry ['\t'] ['f'] behindColumn.text =
        ⟨[], [⟨['f'], 1, .malformedColumns ['t']⟩], none⟩ ∧
      scanText registry ['\t'] ['f'] behindColumn.plain.text =
        ⟨[(['x'], line), (['y'], line)], [], none⟩ ∧
      behindWord.text = "INSERT INTO t (a) VALUES (ab /* c */);".toList ∧
      scanText registry ['\t'] ['f'] behindWord.text =
        ⟨[("ab /* c */".toList, line)], [], none⟩ ∧
      scanText registry ['\t'] ['f'] behindWord.plain.text = ⟨[(['a', 'b'], line)], [], none⟩ := by
  intro comment a b x y word written behindColumn behindWord registry line
  refine ⟨?_, ?_, ?_, ?_, ?_, ?_⟩ <;> decide +kernel

end SeedCatalog.Scan
