import SeedCatalog.Registry

/-!
# Looking tables up

The keys of a registry are the names that the listed tables stand for, and the
columns of a key are those of the last table with this name.

A reference to a table resolves to a key of the registry, and a key can be
looked up again as if it were a reference.  The second look-up finds the key
when normalization leaves the key alone; a key with capitals or quotes in it
need not be found.
-/

namespace SeedCatalog.Registry

variable {registry : Registry}

/-! ## Listed tables -/

theorem contains_ofTables_iff {tables : List (Text × List Text)} {key : Text} :
    (ofTables tables).tables.contains key = true ↔
      ∃ table ∈ tables.map Prod.fst, Identifier.normalize table = key := by
  rw [ofTables, OrderedMap.contains_ofList]
  simp

/-- Of the listed tables with a name the last one gives the columns. -/
theorem get?_ofTables_eq_some_iff {tables : List (Text × List Text)} {key : Text}
    {names : List Text} :
    (ofTables tables).tables.get? key = some names ↔
      ∃ before table columns after, tables = before ++ (table, columns) :: after ∧
        Identifier.normalize table = key ∧ columns.map Identifier.normalize = names ∧
        ∀ other ∈ after.map Prod.fst, Identifier.normalize other ≠ key := by
  rw [ofTables, OrderedMap.get?_ofList_eq_some_iff]
  constructor
  · rintro ⟨first, last, cut, absent⟩
    obtain ⟨before, behind, rfl, -, cut⟩ := List.map_eq_append_iff.1 cut
    obtain ⟨⟨table, columns⟩, after, rfl, pair, rfl⟩ := List.map_eq_cons_iff.1 cut
    rw [Prod.mk.injEq] at pair
    refine ⟨before, table, columns, after, rfl, pair.1, pair.2, ?_⟩
    intro other behind same
    obtain ⟨listed, mem, rfl⟩ := List.mem_map.1 behind
    exact absent (List.mem_map.2 ⟨_, List.mem_map_of_mem mem, same⟩)
  · rintro ⟨before, table, columns, after, rfl, rfl, rfl, absent⟩
    refine ⟨_, _, List.map_append, ?_⟩
    intro behind
    obtain ⟨pair, stored, same⟩ := List.mem_map.1 behind
    obtain ⟨listed, mem, rfl⟩ := List.mem_map.1 stored
    exact absent listed.1 (List.mem_map_of_mem mem) same

/-! ## Looking a table up twice -/

/-- What a reference resolves to is a key of the registry. -/
theorem contains_of_resolve_eq_some {reference key : Text}
    (resolved : registry.resolve reference = some key) : registry.tables.contains key = true := by
  unfold resolve at resolved
  simp only at resolved
  split at resolved
  · cases resolved
    assumption
  · split at resolved
    · cases resolved
      assumption
    · contradiction

/-- A reference whose name is a key resolves to its name. -/
theorem resolve_of_contains {reference : Text}
    (known : registry.tables.contains (Identifier.normalize reference) = true) :
    registry.resolve reference = some (Identifier.normalize reference) := by
  simp only [resolve, known, if_true]

theorem mem_columns_iff {reference column : Text} :
    column ∈ registry.columns reference ↔
      ∃ key names, registry.resolve reference = some key ∧
        registry.tables.get? key = some names ∧ column ∈ names := by
  unfold columns
  constructor
  · intro mem
    cases resolved : registry.resolve reference with
    | none => simp [resolved] at mem
    | some key =>
        cases stored : registry.tables.get? key with
        | none => simp [resolved, stored] at mem
        | some names => exact ⟨key, names, rfl, stored, by simpa [resolved, stored] using mem⟩
  · rintro ⟨key, names, resolved, stored, mem⟩
    simpa [resolved, stored] using mem

theorem isTranslatable_iff {reference column : Text} :
    registry.isTranslatable reference column = true ↔
      ∃ key names, registry.resolve reference = some key ∧
        registry.tables.get? key = some names ∧ Identifier.normalize column ∈ names := by
  rw [isTranslatable, decide_eq_true_eq, mem_columns_iff]

/-- The name under which a reference is kept for later: the key that it resolves to, or its own
name. -/
def storedName (registry : Registry) (reference : Text) : Text :=
  (registry.resolve reference).getD (Identifier.normalize reference)

/-- A name that normalization leaves alone is looked up again with the same result. -/
theorem resolve_storedName {reference : Text}
    (settled : Identifier.normalize (registry.storedName reference) =
      registry.storedName reference) :
    registry.resolve (registry.storedName reference) = registry.resolve reference := by
  cases resolved : registry.resolve reference with
  | none =>
      have stored : registry.storedName reference = Identifier.normalize reference := by
        rw [storedName, resolved, Option.getD_none]
      rw [stored] at settled ⊢
      rw [← resolved, resolve, resolve, settled]
  | some key =>
      have stored : registry.storedName reference = key := by
        rw [storedName, resolved, Option.getD_some]
      rw [stored] at settled ⊢
      have known := contains_of_resolve_eq_some resolved
      rw [← settled] at known
      rw [resolve_of_contains known, settled]

end SeedCatalog.Registry
