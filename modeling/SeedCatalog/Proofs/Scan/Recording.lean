import SeedCatalog.Proofs.Registry
import SeedCatalog.Proofs.Scan.Move
import SeedCatalog.Proofs.Scan.Reach

/-!
# What is recorded of a statement

The registry is asked twice about a table: once when its name is read, which
decides whether the statement is registered, and again for every value, under
the name that the statement keeps.  The second question goes through the same
normalization as the first, and a quoted name need not survive that.
-/

namespace SeedCatalog.Scan

open SeedCatalog.Sql

/-! ## The two answers -/

/-- The registry lists the column at a position under the key that the written table resolves
to. -/
def Statement.Asks (registry : Registry) (statement : Statement) (written : Text)
    (ordinal : Int) : Prop :=
  statement.registered = true ∧
    ∃ column ∈ statement.columns.get? ordinal, ∃ key ∈ registry.resolve written,
      ∃ names ∈ registry.tables.get? key, Identifier.normalize column ∈ names

instance (registry : Registry) (statement : Statement) (written : Text) (ordinal : Int) :
    Decidable (statement.Asks registry written ordinal) :=
  inferInstanceAs (Decidable (_ ∧ _))

/-- Texts with their positions, the first of them at a given one. -/
def numberedFrom (ordinal : Int) : List Text → List (Int × Text)
  | [] => []
  | text :: texts => (ordinal, text) :: numberedFrom (ordinal + 1) texts

/-- The values that a step reads, with their positions: one value of a tuple, or the fields of a
row. -/
def Cursor.valuesRead (cursor : Cursor) (text : Text) : List (Int × Text) :=
  match cursor.phase, cursor.statement with
  | .tuple, some statement =>
      (value? text).toList.map fun token => (statement.ordinal + 1, token.value.text)
  | .dataBlock, some statement =>
      if text = ['\\', '.'] ∨ text = [] then []
      else numberedFrom 1 (Text.splitOn statement.delimiter text)
  | _, _ => []

variable {registry : Registry} {delimiter : Text}

theorem Statement.isTranslatable_iff {statement : Statement} {ordinal : Int} :
    statement.isTranslatable registry ordinal = true ↔
      ∃ column, statement.columns.get? ordinal = some column ∧
        Identifier.normalize column ∈ registry.columns statement.table := by
  simp [Statement.isTranslatable, Registry.isTranslatable, Option.any_eq_true]

/-- A table that does not resolve has no columns. -/
theorem Statement.asks_iff {statement : Statement} {written : Text}
    (gate : statement.registered = (registry.resolve written).isSome) {ordinal : Int} :
    statement.Asks registry written ordinal ↔
      ∃ column, statement.columns.get? ordinal = some column ∧
        Identifier.normalize column ∈ registry.columns written := by
  constructor
  · rintro ⟨_, column, mapped, key, resolved, names, stored, mem⟩
    exact ⟨column, mapped, Registry.mem_columns_iff.2 ⟨key, names, resolved, stored, mem⟩⟩
  · rintro ⟨column, mapped, mem⟩
    obtain ⟨key, names, resolved, stored, mem⟩ := Registry.mem_columns_iff.1 mem
    exact ⟨by rw [gate, resolved, Option.isSome_some], column, mapped, key, resolved, names, stored,
      mem⟩

/-- The two answers on a value agree exactly if they agree on its column. -/
theorem Statement.isTranslatable_iff_asks_iff {statement : Statement} {written : Text}
    (gate : statement.registered = (registry.resolve written).isSome)
    (named : statement.table = registry.storedName written) (ordinal : Int) :
    ((statement.isTranslatable registry ordinal = true ↔
        statement.Asks registry written ordinal) ↔
      ∀ column, statement.columns.get? ordinal = some column →
        (Identifier.normalize column ∈ registry.columns (registry.storedName written) ↔
          Identifier.normalize column ∈ registry.columns written)) := by
  rw [Statement.isTranslatable_iff, Statement.asks_iff gate, named]
  cases mapped : statement.columns.get? ordinal with
  | none => simp
  | some column => simp

/-! ## The name of a statement -/

theorem Closes.readsTable_eq {phase closed : Phase} (closes : Closes phase closed) :
    phase.readsTable = false := by
  cases closes <;> rfl

theorem Waits.readsTable_eq {statement : Statement} {phase : Phase}
    (waits : Waits statement phase) : phase.readsTable = false := by
  cases waits <;> rfl

/-- A statement keeps the name of the table that was read last, and whether it resolved. -/
def Cursor.Names (registry : Registry) (written : Option Text) (cursor : Cursor) : Prop :=
  ∀ statement, cursor.statement = some statement → ∃ name, written = some name ∧
    statement.registered = (registry.resolve name).isSome ∧
    statement.table = registry.storedName name

theorem tableName?_of_allBlank {text : Text} (blank : text.allBlank = true) :
    tableName? text = none := by
  rw [tableName?, Text.skipBlanks_eq_nil_iff.2 blank]
  rfl

theorem tableName?_of_commentOpening? {text rest : Text}
    (opening : commentOpening? text = some rest) : tableName? text = none := by
  unfold commentOpening? at opening
  split at opening
  · rename_i skipped
    rw [tableName?, skipped]
    rfl
  · contradiction

namespace Cursor

variable {cursor : Cursor} {text : Text}

theorem tableRead_of_phase (elsewhere : cursor.phase.readsTable = false) :
    cursor.tableRead text = none := by
  simp [tableRead, elsewhere]

theorem tableRead_of_tableName? (unread : tableName? text = none) :
    cursor.tableRead text = none := by
  simp [tableRead, unread]

theorem tableRead_eq_some {name rest : Text}
    (reads : cursor.phase.readsTable = true)
    (read : tableName? text = some (name, rest)) : cursor.tableRead text = some name := by
  simp [tableRead, reads, read]

namespace Names

variable {written : Option Text}

theorem of_none {cursor : Cursor} (absent : cursor.statement = none) :
    cursor.Names registry written := by
  intro statement reading
  rw [absent] at reading
  contradiction

/-- A step that changes no statement keeps its name. -/
theorem keep {next : Cursor} (names : cursor.Names registry written)
    (unread : cursor.tableRead text = none) (same : next.statement = cursor.statement) :
    next.Names registry ((cursor.tableRead text).or written) := by
  intro statement reading
  obtain ⟨name, read, gate, named⟩ := names statement (same ▸ reading)
  exact ⟨name, by rw [unread, Option.none_or, read], gate, named⟩

/-- A step that reads no table keeps the name of the statement. -/
theorem keep_name {next : Cursor} {statement previous : Statement}
    (names : cursor.Names registry written) (elsewhere : cursor.phase.readsTable = false)
    (reading : cursor.statement = some previous) (goes : next.statement = some statement)
    (registered : statement.registered = previous.registered)
    (table : statement.table = previous.table) :
    next.Names registry ((cursor.tableRead text).or written) := by
  intro other same
  rw [goes, Option.some.injEq] at same
  subst other
  obtain ⟨name, read, gate, named⟩ := names previous reading
  exact ⟨name, by rw [tableRead_of_phase elsewhere, Option.none_or, read],
    registered.trans gate, table.trans named⟩

/-- A step that reads a table begins a statement under the stored name. -/
theorem of_tableRead {next : Cursor} {name : Text} {statement : Statement}
    (read : cursor.tableRead text = some name) (begun : next.statement = some statement)
    (gate : statement.registered = (registry.resolve name).isSome)
    (named : statement.table = registry.storedName name) :
    next.Names registry ((cursor.tableRead text).or written) := by
  intro other reading
  rw [begun, Option.some.injEq] at reading
  subst other
  exact ⟨name, by rw [read, Option.some_or], gate, named⟩

/-- Every rule of the scanner keeps the name of the statement. -/
theorem of_move {transition : Transition} (names : cursor.Names registry written)
    (move : Move registry delimiter cursor text transition) :
    transition.cursor.Names registry ((cursor.tableRead text).or written) := by
  cases move with
  | giveUp problem outside => exact of_none rfl
  | pause outside noRows blank =>
      exact names.keep (tableRead_of_tableName? (tableName?_of_allBlank blank)) rfl
  | stay inside unclosed => exact names.keep (tableRead_of_phase (by rw [inside]; rfl)) rfl
  | openComment outside noRows opening =>
      exact names.keep (tableRead_of_tableName? (tableName?_of_commentOpening? opening)) rfl
  | closeComment inside closing =>
      exact names.keep (tableRead_of_phase (by rw [inside]; rfl)) rfl
  | insert phase read => exact names.keep (tableRead_of_phase (by rw [phase]; rfl)) rfl
  | copy phase read => exact names.keep (tableRead_of_phase (by rw [phase]; rfl)) rfl
  | skip phase read => exact names.keep (tableRead_of_phase (by rw [phase]; rfl)) rfl
  | into phase read => exact names.keep (tableRead_of_phase (by rw [phase]; rfl)) rfl
  | insertTable phase read resolved =>
      exact of_tableRead (tableRead_eq_some (by rw [phase]; rfl) read) rfl (by simp [resolved])
        (by simp [Registry.storedName, resolved])
  | insertUnknown phase read unknown => exact of_none rfl
  | copyTable phase read resolved =>
      exact of_tableRead (tableRead_eq_some (by rw [phase]; rfl) read) rfl (by simp [resolved])
        (by simp [Registry.storedName, resolved])
  | copyUnknown phase read unknown =>
      exact of_tableRead (tableRead_eq_some (by rw [phase]; rfl) read) rfl (by simp [unknown])
        (by simp [Registry.storedName, unknown])
  | openColumns phase reading notOpen read =>
      exact names.keep_name phase.readsTable_eq reading rfl rfl rfl
  | column phase reading isOpen read =>
      exact names.keep_name phase.readsTable_eq reading rfl rfl rfl
  | wait reading phase filled => exact names.keep (tableRead_of_phase phase.readsTable_eq) rfl
  | values phase reading read => exact names.keep (tableRead_of_phase (by rw [phase]; rfl)) rfl
  | openTuple phase reading read =>
      exact names.keep_name (by rw [phase]; rfl) reading rfl rfl rfl
  | value phase reading read => exact names.keep_name (by rw [phase]; rfl) reading rfl rfl rfl
  | nextTuple phase read => exact names.keep (tableRead_of_phase (by rw [phase]; rfl)) rfl
  | endTuples phase noComma => exact of_none rfl
  | fromStdin phase reading read =>
      have elsewhere : cursor.phase.readsTable = false := by
        rcases phase with phase | ⟨phase, _⟩ <;> rw [phase] <;> rfl
      exact names.keep_name elsewhere reading rfl rfl rfl
  | delimiterOption phase reading read =>
      exact names.keep_name (by rw [phase]; rfl) reading rfl rfl rfl
  | beginRows phase reading ended =>
      have elsewhere : cursor.phase.readsTable = false := by
        rcases phase with phase | phase <;> rw [phase] <;> rfl
      exact names.keep_name elsewhere reading rfl rfl rfl
  | emptyRow phase reading empty => exact names.keep_name (by rw [phase]; rfl) reading rfl rfl rfl
  | row phase reading going filled cut =>
      exact names.keep_name (by rw [phase]; rfl) reading rfl rfl rfl

end Names

end Cursor

/-- At every place that is reached the statement keeps the name of the table read last. -/
theorem Reached.names {written : Option Text} {cursor : Cursor} {text : Text}
    (reached : Reached registry delimiter written cursor text) :
    cursor.Names registry written := by
  induction reached with
  | first raw => exact .of_none rfl
  | step _ taken _ ih => exact ih.of_move (.of_step taken)
  | line _ taken _ _ ih => exact ih.of_move (.of_step taken)

/-! ## What a step finds -/

theorem Cursor.translatableFields_eq (statement : Statement) (ordinal : Int) (fields : List Text) :
    translatableFields registry statement ordinal fields =
      ((numberedFrom ordinal fields).filter fun value =>
        statement.isTranslatable registry value.1).map Prod.snd := by
  induction fields generalizing ordinal with
  | nil => rfl
  | cons field fields ih =>
      rw [translatableFields, numberedFrom, List.filter_cons, ih]
      split <;> rfl

theorem value?_of_commentOpening? {text rest : Text}
    (opening : commentOpening? text = some rest) : value? text = none := by
  unfold commentOpening? at opening
  split at opening
  · rename_i skipped
    rw [value?, skipped]
    rfl
  · contradiction

theorem value?_of_allBlank {text : Text} (blank : text.allBlank = true) : value? text = none := by
  rw [value?, Text.skipBlanks_eq_nil_iff.2 blank]

/-- Outside tuples and rows nothing is found. -/
theorem Move.found_eq_nil {cursor : Cursor} {text : Text} {transition : Transition}
    (move : Move registry delimiter cursor text transition) (noTuple : cursor.phase ≠ .tuple)
    (noRows : cursor.phase ≠ .dataBlock) : transition.found = [] := by
  cases move with
  | value phase reading read => exact absurd phase noTuple
  | row phase reading going filled cut => exact absurd phase noRows
  | _ => rfl

namespace Cursor

variable {cursor : Cursor} {text : Text} {transition : Transition} {statement : Statement}

theorem found_eq_of_tuple (phase : cursor.phase = .tuple)
    (reading : cursor.statement = some statement)
    (taken : cursor.step registry delimiter text = .ok transition) :
    transition.found = ((cursor.valuesRead text).filter fun value =>
      statement.isTranslatable registry value.1).map Prod.snd := by
  have values : cursor.valuesRead text =
      (value? text).toList.map fun token => (statement.ordinal + 1, token.value.text) := by
    simp only [valuesRead, phase, reading]
  rw [values]
  simp only [step, phase, reduceCtorEq, if_false] at taken
  split at taken
  · rename_i blank
    rw [readsLineEnd, phase] at taken
    cases taken
    rw [value?_of_allBlank blank]
    rfl
  · split at taken
    · rename_i opening
      cases taken
      rw [value?_of_commentOpening? opening]
      rfl
    · simp only [stepToken, phase, reading] at taken
      cases taken
      unfold stepTuple
      cases value? text with
      | none =>
          simp only
          split <;> rfl
      | some token =>
          cases translatable : statement.isTranslatable registry (statement.ordinal + 1) <;>
            simp [translatable]

theorem found_eq_of_dataBlock (phase : cursor.phase = .dataBlock)
    (reading : cursor.statement = some statement)
    (taken : cursor.step registry delimiter text = .ok transition) :
    transition.found = ((cursor.valuesRead text).filter fun value =>
      statement.isTranslatable registry value.1).map Prod.snd := by
  have values : cursor.valuesRead text =
      if text = ['\\', '.'] ∨ text = [] then []
      else numberedFrom 1 (Text.splitOn statement.delimiter text) := by
    simp only [valuesRead, phase, reading]
  rw [values]
  simp only [step, phase, reading, if_true, stepDataBlock] at taken
  split at taken
  · rename_i noFields
    cases taken
    rw [if_pos (.inl noFields)]
    rfl
  · rename_i going
    split at taken
    · rename_i empty
      cases taken
      rw [if_pos (.inr empty)]
      rfl
    · rename_i filled
      split at taken
      · contradiction
      · cases taken
        rw [if_neg (not_or.2 ⟨going, filled⟩)]
        exact translatableFields_eq statement 1 _

/-- A step finds the values that it reads and that the second answer lists. -/
theorem found_eq (reading : cursor.statement = some statement)
    (taken : cursor.step registry delimiter text = .ok transition) :
    transition.found = ((cursor.valuesRead text).filter fun value =>
      statement.isTranslatable registry value.1).map Prod.snd := by
  by_cases tuple : cursor.phase = .tuple
  · exact found_eq_of_tuple tuple reading taken
  · by_cases rows : cursor.phase = .dataBlock
    · exact found_eq_of_dataBlock rows reading taken
    · rw [(Move.of_step taken).found_eq_nil tuple rows]
      have none : cursor.valuesRead text = [] := by
        unfold valuesRead
        split
        · exact absurd ‹_› tuple
        · exact absurd ‹_› rows
        · rfl
      rw [none]
      rfl

end Cursor

/-- Every step finds the values at the positions of columns which the second answer of the registry
lists.  It agrees with the first answer on a value exactly if both or neither list the column. -/
theorem found_agrees_iff {written : Option Text} {cursor : Cursor} {text : Text}
    {transition : Transition} {statement : Statement}
    (reached : Reached registry delimiter written cursor text)
    (reading : cursor.statement = some statement)
    (taken : cursor.step registry delimiter text = .ok transition) :
    ∃ name, written = some name ∧
      transition.found = ((cursor.valuesRead text).filter fun value =>
        statement.isTranslatable registry value.1).map Prod.snd ∧
      (∀ value ∈ cursor.valuesRead text,
        ((statement.isTranslatable registry value.1 = true ↔
            statement.Asks registry name value.1) ↔
          ∀ column, statement.columns.get? value.1 = some column →
            (Identifier.normalize column ∈ registry.columns (registry.storedName name) ↔
              Identifier.normalize column ∈ registry.columns name))) ∧
      (Identifier.normalize (registry.storedName name) = registry.storedName name →
        ∀ value ∈ cursor.valuesRead text,
          (statement.isTranslatable registry value.1 = true ↔
            statement.Asks registry name value.1)) := by
  obtain ⟨name, read, gate, named⟩ := reached.names statement reading
  have agree := fun ordinal => Statement.isTranslatable_iff_asks_iff gate named ordinal
  refine ⟨name, read, Cursor.found_eq reading taken, fun value _ => agree value.1, ?_⟩
  intro settled value _
  refine (agree value.1).2 fun column _ => ?_
  rw [Registry.columns, Registry.columns, Registry.resolve_storedName settled]

/-- On a table with a schema, the key of the bare name is looked up again as it is. -/
theorem found_agrees_iff_qualified :
    ∃ registry cursor text transition statement,
      Reached registry ['\t'] (some "Public.menu_node".toList) cursor text ∧
      cursor.statement = some statement ∧ cursor.step registry ['\t'] text = .ok transition ∧
      cursor.valuesRead text = [(2, ['A'])] ∧
      (statement.isTranslatable registry 2 = true ↔
        statement.Asks registry "Public.menu_node".toList 2) ∧
      transition.found = [['A']] := by
  let registry := Registry.ofTables [("menu_node".toList, ["label".toList])]
  let statement : Statement :=
    { table := "menu_node".toList, columns := .ofList [(1, "id".toList), (2, "Label".toList)]
      ordinal := 1, columnsOpen := true }
  let cursor : Cursor := { phase := .tuple, line := 1, statement }
  let start := prepareLine {} "INSERT INTO Public.menu_node (id, Label) VALUES (1, 'A');".toList
  have goes : goOn registry ['\t'] 9 (none, start.1, start.2) =
      some (some "Public.menu_node".toList, cursor, " 'A');\n".toList) := by decide +kernel
  have reached := Reached.goOn (.first _) goes
  have values : cursor.valuesRead " 'A');\n".toList = [(2, ['A'])] := by decide +kernel
  obtain ⟨name, written, found, _, agree⟩ := found_agrees_iff reached rfl rfl
  cases written
  refine ⟨registry, cursor, _, _, statement, reached, rfl, rfl, values, ?_, ?_⟩
  · exact agree (by decide +kernel) (2, ['A']) (values ▸ List.mem_singleton_self _)
  · rw [found, values]
    decide +kernel

/-- A quoted table with capitals gets two answers: it passes the gate and nothing of it is recorded,
or it does not and its fields are. -/
theorem quoted_table_gets_two_answers :
    (∃ registry cursor text transition statement,
      Reached registry ['\t'] (some "\"Menu_Node\"".toList) cursor text ∧
      cursor.statement = some statement ∧ cursor.step registry ['\t'] text = .ok transition ∧
      cursor.valuesRead text = [(1, ['A'])] ∧
      statement.Asks registry "\"Menu_Node\"".toList 1 ∧ transition.found = []) ∧
    ∃ registry cursor text transition statement,
      Reached registry ['\t'] (some "\"Menu_Node\"".toList) cursor text ∧
      cursor.statement = some statement ∧ cursor.step registry ['\t'] text = .ok transition ∧
      cursor.valuesRead text = [(1, ['A'])] ∧
      statement.registered = false ∧ transition.found = [['A']] := by
  constructor
  · let registry := Registry.ofTables [("\"Menu_Node\"".toList, ["label".toList])]
    let statement : Statement :=
      { table := "Menu_Node".toList, columns := .ofList [(1, "label".toList)], columnsOpen := true }
    let cursor : Cursor := { phase := .tuple, line := 1, statement }
    let start := prepareLine {} "INSERT INTO \"Menu_Node\" (label) VALUES ('A');".toList
    have goes : goOn registry ['\t'] 7 (none, start.1, start.2) =
        some (some "\"Menu_Node\"".toList, cursor, "'A');\n".toList) := by decide +kernel
    have reached := Reached.goOn (.first _) goes
    refine ⟨registry, cursor, _, _, statement, reached, rfl, rfl, ?_, ?_, ?_⟩
    · decide +kernel
    · decide +kernel
    · decide +kernel
  · let registry := Registry.ofTables [("menu_node".toList, ["label".toList])]
    let statement : Statement :=
      { table := "Menu_Node".toList, columns := .ofList [(1, "label".toList)], ordinal := 1
        columnsOpen := true, registered := false }
    let cursor : Cursor := { phase := .copyOptions, line := 1, statement }
    let start := prepareLine {} "COPY \"Menu_Node\" (label) FROM stdin;".toList
    have goes : goOn registry ['\t'] 5 (none, start.1, start.2) =
        some (some "\"Menu_Node\"".toList, cursor, ";\n".toList) := by decide +kernel
    have header := Reached.goOn (.first _) goes
    have reached := header.line rfl rfl ['A']
    refine ⟨registry, _, _, _, statement, reached, rfl, rfl, ?_, rfl, ?_⟩
    · decide +kernel
    · decide +kernel

end SeedCatalog.Scan
