import SeedCatalog.Proofs.Catalog.Written
import SeedCatalog.Proofs.Scan.Shared

/-!
# The numbers of lines

A scan tells of the lines of its input only.  So the numbers of the lines are written unless an
input has more lines than can be numbered.
-/

namespace SeedCatalog.Scan

/-- The number of the line is written. -/
def Warning.IsShort (warning : Warning) : Prop :=
  Location.IsShort ⟨warning.source, warning.line⟩

instance {warning : Warning} : Decidable warning.IsShort :=
  inferInstanceAs (Decidable (Location.IsShort _))

theorem Warning.render_of_isShort {warning : Warning} (short : warning.IsShort) :
    ∃ line, warning.render = .ok line := by
  rw [render, Location.render_of_isShort short]
  exact ⟨_, rfl⟩

theorem Warning.render_of_not_isShort {warning : Warning} (long : ¬warning.IsShort) :
    warning.render = .error .tooManyDigits := by
  rw [render, Location.render_of_not_isShort long]
  rfl

/-- An input has no more lines than can be numbered. -/
def Input.IsNumbered (input : Input) : Prop :=
  input.lines.length < Text.leastTooLong

instance {input : Input} : Decidable input.IsNumbered :=
  inferInstanceAs (Decidable (_ < _))

variable {registry : Registry} {input : Input}

theorem Input.isShort_of_mem_events (nonempty : input.delimiter ≠ []) (numbered : input.IsNumbered)
    {event : Event} (mem : event ∈ (account registry input.delimiter {} input.lines).events)
    {location : Location} (there : location.line = event.line) : location.IsShort := by
  obtain ⟨above, below⟩ := line_of_mem_account nonempty (Cursor.settled_default registry) mem
  have start : ({} : Cursor).line = 0 := rfl
  have within : location.line.natAbs ≤ input.lines.length := by omega
  exact Nat.lt_of_le_of_lt within numbered

theorem Input.isShort_of_mem_records (nonempty : input.delimiter ≠ [])
    (numbered : input.IsNumbered) {record : Text × Location}
    (mem : record ∈ (input.report registry).records) : record.2.IsShort := by
  rw [report, scanLines_eq_report] at mem
  obtain ⟨event, among, found⟩ := List.mem_filterMap.1 mem
  cases event with
  | found text line =>
      cases found
      exact isShort_of_mem_events nonempty numbered among rfl
  | warned => cases found

theorem Input.isShort_of_mem_warnings (nonempty : input.delimiter ≠ [])
    (numbered : input.IsNumbered) {warning : Warning}
    (mem : warning ∈ (input.report registry).warnings) : warning.IsShort := by
  rw [report, scanLines_eq_report] at mem
  obtain ⟨event, among, warned⟩ := List.mem_filterMap.1 mem
  cases event with
  | found => cases warned
  | warned problem line =>
      cases warned
      exact isShort_of_mem_events nonempty numbered among rfl

/-- All that numbered inputs leave has short numbers. -/
theorem isShort_of_scanInto {inputs : List Input} {catalog catalog' : Catalog}
    {warnings : List (List Warning)} (nonempty : ∀ input ∈ inputs, input.delimiter ≠ [])
    (numbered : ∀ input ∈ inputs, input.IsNumbered) (short : catalog.IsShort)
    (scanned : scanInto registry catalog inputs = .ok (catalog', warnings)) :
    catalog'.IsShort ∧ ∀ warning ∈ warnings.flatten, warning.IsShort := by
  induction inputs generalizing catalog warnings with
  | nil =>
      cases scanned
      exact ⟨short, nofun⟩
  | cons input inputs ih =>
      have nonempty' := nonempty input List.mem_cons_self
      have numbered' := numbered input List.mem_cons_self
      rw [scanInto, recordLines_input _ nonempty', Input.catalog,
        ← Catalog.recordAll_eq_merge] at scanned
      cases goesOn :
          scanInto registry (catalog.recordAll (input.report registry).records) inputs with
      | error failure => simp [goesOn, Except.map] at scanned
      | ok others => ?_
      simp only [goesOn, Except.map, Except.ok.injEq, Prod.mk.injEq] at scanned
      obtain ⟨rfl, rfl⟩ := scanned
      have short' : (catalog.recordAll (input.report registry).records).IsShort :=
        Catalog.isShort_recordAll_iff.2
          ⟨short, fun _ mem => Input.isShort_of_mem_records nonempty' numbered' mem⟩
      obtain ⟨shortAll, shortOthers⟩ :=
        ih (fun input mem => nonempty input (List.mem_cons_of_mem _ mem))
          (fun input mem => numbered input (List.mem_cons_of_mem _ mem)) short' goesOn
      refine ⟨shortAll, fun warning mem => ?_⟩
      rcases List.mem_append.1 (List.flatten_cons ▸ mem) with first | further
      · exact Input.isShort_of_mem_warnings nonempty' numbered' first
      · exact shortOthers warning further

end SeedCatalog.Scan
