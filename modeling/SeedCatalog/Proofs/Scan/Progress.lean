import SeedCatalog.Proofs.Scan.Boundary
import SeedCatalog.Proofs.Sql.Remainder

/-!
# How many steps a line takes

A step leaves an end of its text to the next one, and unless it finishes the
line, it leaves less to do: two for each character, and one more behind a tuple,
where the text may be left as it is.  So a line is finished after a number of
steps that its length bounds.
-/

namespace SeedCatalog.Scan

open SeedCatalog.Sql

variable {registry : Registry} {delimiter : Text} {cursor : Cursor} {text : Text}
  {transition : Transition}

/-! ## What a step leaves -/

/-- Whatever rule a step follows, it leaves an end of its text. -/
theorem Move.remainder_isSuffix (move : Move registry delimiter cursor text transition) :
    transition.remainder <:+ text := by
  cases move with
  | giveUp | pause | stay | beginRows | emptyRow | row => exact List.nil_suffix
  | openComment _ _ opening => exact isSuffix_of_commentOpening? opening
  | closeComment _ closing => exact isSuffix_of_afterComment? closing
  | insert _ read | into _ read | values _ _ read => exact isSuffix_of_skipped_keyword? read
  | copy _ read => exact isSuffix_of_copy? read
  | skip _ read => exact isSuffix_of_skipToken? read
  | insertTable _ read | insertUnknown _ read | copyTable _ read | copyUnknown _ read =>
      exact isSuffix_of_tableName? read
  | openColumns _ _ _ read | openTuple _ _ read | nextTuple _ read => exact isSuffix_of_mark? read
  | column _ _ _ read => exact isSuffix_of_column? read
  | wait => exact List.suffix_rfl
  | value _ _ read => exact isSuffix_of_value? read
  | endTuples _ _ =>
      cases read : mark? ';' text with
      | none => exact List.suffix_rfl
      | some rest => exact isSuffix_of_mark? read
  | fromStdin _ _ read => exact isSuffix_of_fromStdin? read
  | delimiterOption _ _ read => exact isSuffix_of_delimiterOption? read

/-! ## The steps on a text -/

/-- The steps can all be taken; the last of them and no other finishes the line, and they are not
more than a number. -/
structure Steps.FinishWithin (steps : Steps) (bound : Nat) : Prop where
  taken : steps.failure = none
  finishes : ∃ going last, steps.transitions = going ++ [last] ∧
    (∀ transition ∈ going, transition.needsInput = false) ∧ last.needsInput = true
  few : steps.transitions.length ≤ bound

/-- From a consistent cursor there are at most as many steps as there is to do, and one more. -/
theorem Cursor.Consistent.finishWithin (consistent : cursor.Consistent registry)
    (nonempty : delimiter ≠ []) (text : Text) :
    (takeSteps registry delimiter cursor text).FinishWithin (cursor.toDo text + 1) := by
  induction cursor, text using takeSteps.induct registry delimiter with
  | case1 cursor text failure failed =>
      obtain ⟨transition, taken, _⟩ := consistent.exists_step nonempty text
      rw [failed] at taken
      contradiction
  | case2 cursor text transition taken finished =>
      rw [takeSteps_of_needsInput taken finished]
      refine ⟨rfl, ⟨[], transition, rfl, by simp, finished⟩, ?_⟩
      rw [List.length_singleton]
      exact Nat.le_add_left 1 _
  | case3 cursor text transition taken going less ih =>
      have going : transition.needsInput = false := by simpa using going
      have others := ih (consistent.of_move nonempty (.of_step taken))
      obtain ⟨before, last, split, goingBefore, finished⟩ := others.finishes
      rw [takeSteps_of_going taken going]
      refine ⟨others.taken, ⟨transition :: before, last, ?_, ?_, finished⟩, ?_⟩
      · rw [split, List.cons_append]
      · intro other mem
        rcases List.mem_cons.1 mem with rfl | mem
        · exact going
        · exact goingBefore other mem
      · have few := others.few
        rw [List.length_cons]
        omega

theorem Cursor.toDo_le (cursor : Cursor) (text : Text) :
    cursor.toDo text ≤ 2 * text.length + 1 := by
  unfold toDo
  split <;> omega

/-! ## The cursors of a scan -/

/-- The cursors that the scans of inputs come to: the first one, and those before a line, before
and behind each step, and behind a line. -/
inductive Cursor.Occurs (registry : Registry) (delimiter : Text) : Cursor → Prop
  | first : Occurs registry delimiter {}
  | start {lines : List Text} {scan : LineScan}
      (mem : scan ∈ scanLinesFrom registry delimiter {} lines) :
      Occurs registry delimiter scan.start
  | step {lines : List Text} {scan : LineScan} {transition : Transition}
      (mem : scan ∈ scanLinesFrom registry delimiter {} lines)
      (taken : transition ∈ scan.steps.transitions) :
      Occurs registry delimiter transition.cursor
  | next {lines : List Text} {scan : LineScan}
      (mem : scan ∈ scanLinesFrom registry delimiter {} lines) :
      Occurs registry delimiter scan.next

theorem Cursor.occurs_cursorBehind (registry : Registry) (delimiter : Text) (lines : List Text) :
    (cursorBehind registry delimiter lines).Occurs registry delimiter := by
  unfold cursorBehind
  cases last : (scanLinesFrom registry delimiter {} lines).getLast? with
  | none => exact .first
  | some scan => exact .next (List.mem_of_getLast? last)

/-- The steps of every scan are taken on the text of its line. -/
theorem steps_of_mem_scanLinesFrom {lines : List Text} {scan : LineScan}
    (mem : scan ∈ scanLinesFrom registry delimiter cursor lines) :
    scan.steps = takeSteps registry delimiter scan.start scan.text := by
  induction lines generalizing cursor with
  | nil => contradiction
  | cons raw rest ih =>
      rw [scanLinesFrom] at mem
      split at mem
      · rw [List.mem_singleton.1 mem]
        rfl
      · rcases List.mem_cons.1 mem with rfl | mem
        · rfl
        · exact ih mem

/-- The cursor before a line is consistent, and so is the one behind it. -/
theorem consistent_of_mem_scanLinesFrom (nonempty : delimiter ≠ []) {lines : List Text}
    {scan : LineScan} (mem : scan ∈ scanLinesFrom registry delimiter {} lines) :
    scan.start.Consistent registry ∧ scan.next.Consistent registry := by
  obtain ⟨⟨written, start⟩, steps⟩ := Cursor.isReached_default.scans mem
  refine ⟨start.consistent nonempty, ?_⟩
  cases failed : scan.steps.failure with
  | some failure => exact absurd (steps.failure failure failed) (failure.not_isReached nonempty)
  | none =>
      obtain ⟨last, among, _, next, _⟩ := steps.next failed
      rw [LineScan.next_eq, next]
      exact ((steps.transitions last among).consistent nonempty).congr _ _

theorem Cursor.Occurs.consistent (nonempty : delimiter ≠ [])
    (occurs : cursor.Occurs registry delimiter) : cursor.Consistent registry := by
  cases occurs with
  | first => exact Cursor.consistent_default
  | start mem => exact (consistent_of_mem_scanLinesFrom nonempty mem).1
  | step mem taken =>
      obtain ⟨_, steps⟩ := Cursor.isReached_default.scans mem
      exact (steps.transitions _ taken).consistent nonempty
  | next mem => exact (consistent_of_mem_scanLinesFrom nonempty mem).2

/-- A step leaves an end of the text, and less to do unless it finishes the line.  So the steps on a
text end after at most two for each character and two more. -/
theorem steps_finish (registry : Registry) {delimiter : Text} (nonempty : delimiter ≠ []) :
    (∀ cursor : Cursor, cursor.Occurs registry delimiter → ∀ text,
      (∃ transition, cursor.step registry delimiter text = .ok transition ∧
        transition.remainder <:+ text ∧
        (transition.needsInput = false →
          2 * transition.remainder.length +
              (if transition.cursor.phase = .afterTuple then 1 else 0) <
            2 * text.length + (if cursor.phase = .afterTuple then 1 else 0))) ∧
      (takeSteps registry delimiter cursor text).FinishWithin (2 * text.length + 2)) ∧
    ∀ lines, (scanLinesFrom registry delimiter {} lines).length = lines.length ∧
      ∀ scan ∈ scanLinesFrom registry delimiter {} lines,
        scan.steps.FinishWithin (2 * scan.text.length + 2) := by
  have finish : ∀ cursor : Cursor, cursor.Occurs registry delimiter → ∀ text,
      (takeSteps registry delimiter cursor text).FinishWithin (2 * text.length + 2) := by
    intro cursor occurs text
    obtain ⟨taken, finishes, few⟩ := (occurs.consistent nonempty).finishWithin nonempty text
    exact ⟨taken, finishes, few.trans (Nat.succ_le_succ (cursor.toDo_le text))⟩
  have line : ∀ lines, ∀ scan ∈ scanLinesFrom registry delimiter {} lines,
      scan.steps.FinishWithin (2 * scan.text.length + 2) := by
    intro lines scan mem
    rw [steps_of_mem_scanLinesFrom mem]
    exact finish _ (.start mem) _
  constructor
  · intro cursor occurs text
    refine ⟨?_, finish cursor occurs text⟩
    obtain ⟨transition, taken, _⟩ := (occurs.consistent nonempty).exists_step nonempty text
    exact ⟨transition, taken, (Move.of_step taken).remainder_isSuffix, Cursor.toDo_step_lt taken⟩
  · intro lines
    exact ⟨length_scanLinesFrom fun scan mem => (line lines scan mem).taken, line lines⟩

/-- Behind a tuple the first step leaves a whole text of eight characters, and all steps on it are
still not more than eighteen. -/
theorem steps_finish_behindTuple :
    let registry := Registry.ofTables [("menu_node".toList, ["label".toList])]
    let delimiter := ['\t']
    let cursor := cursorBehind registry delimiter
      ["INSERT INTO menu_node (label) VALUES ('A')\n".toList]
    let text := "SELECT 1".toList
    delimiter ≠ [] ∧ cursor.Occurs registry delimiter ∧ cursor.phase = .afterTuple ∧
      (cursor.step registry delimiter text).toOption.map Transition.remainder = some text ∧
      (takeSteps registry delimiter cursor text).FinishWithin 18 := by
  intro registry delimiter cursor text
  have nonempty : delimiter ≠ [] := by decide
  have occurs := Cursor.occurs_cursorBehind registry delimiter
    ["INSERT INTO menu_node (label) VALUES ('A')\n".toList]
  have behind : cursor.phase = .afterTuple := by decide +kernel
  have left : (cursor.step registry delimiter text).toOption.map Transition.remainder =
      some text := by decide +kernel
  exact ⟨nonempty, occurs, behind, left, ((steps_finish registry nonempty).1 cursor occurs text).2⟩

end SeedCatalog.Scan
