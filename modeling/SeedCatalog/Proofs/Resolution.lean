import SeedCatalog.Proofs.Identifier

/-!
# What references mean, name by name

A reference and a listed table are sequences of names.  Compared name by name, a
reference means the listed table of the same names, and otherwise the listed
table whose only name is the last one of the reference.  The registry compares
names that are joined with dots instead, so that a dot inside a name passes for
one between two names.
-/

namespace SeedCatalog

open Text Identifier

namespace Registry

/-! ## Behind the last dot -/

theorem unqualified_of_not_mem {name : Text} (dotless : '.' ∉ name) :
    unqualified name = name := by
  rw [unqualified, cutLast?_of_not_mem dotless]
  rfl

theorem unqualified_append_of_not_mem (before : Text) {after : Text} (dotless : '.' ∉ after) :
    unqualified (before ++ '.' :: after) = after := by
  rw [unqualified, cutLast?_append_cons dotless]
  rfl

/-- A text with a dot has a last one. -/
theorem exists_last_dot {text : Text} (dotted : '.' ∈ text) :
    ∃ before after, '.' ∉ after ∧ text = before ++ '.' :: after := by
  rcases List.eq_append_cons_of_mem (List.mem_reverse.2 dotted) with ⟨behind, front, cut, absent⟩
  exists front.reverse, behind.reverse
  constructor
  · rwa [List.mem_reverse]
  · rw [← List.reverse_reverse text, cut]
    simp

/-- What stands in front of a dot does not count. -/
theorem unqualified_append (before after : Text) :
    unqualified (before ++ '.' :: after) = unqualified after := by
  by_cases dotted : '.' ∈ after
  · rcases exists_last_dot dotted with ⟨first, last, dotless, rfl⟩
    have regroup : before ++ '.' :: (first ++ '.' :: last) =
        (before ++ '.' :: first) ++ '.' :: last := by simp
    rw [regroup, unqualified_append_of_not_mem _ dotless, unqualified_append_of_not_mem _ dotless]
  · rw [unqualified_append_of_not_mem _ dotted, unqualified_of_not_mem dotted]

theorem dot_not_mem_unqualified (name : Text) : '.' ∉ unqualified name := by
  by_cases dotted : '.' ∈ name
  · rcases exists_last_dot dotted with ⟨before, after, dotless, rfl⟩
    rwa [unqualified_append_of_not_mem _ dotless]
  · rwa [unqualified_of_not_mem dotted]

/-! ## Names with dots between them -/

/-- Joined names are the last one alone, or end with a dot and the last one. -/
theorem join_concat (names : List Text) (last : Text) :
    (names = [] ∧ join ['.'] (names ++ [last]) = last) ∨
      ∃ before, join ['.'] (names ++ [last]) = before ++ '.' :: last := by
  by_cases alone : names = []
  · subst alone
    exact .inl ⟨rfl, rfl⟩
  · rw [join_append_last _ alone, List.append_assoc, List.singleton_append]
    exact .inr ⟨join ['.'] names, rfl⟩

theorem unqualified_join (names : List Text) (last : Text) :
    unqualified (join ['.'] (names ++ [last])) = unqualified last := by
  rcases join_concat names last with ⟨-, alone⟩ | ⟨before, behind⟩
  · rw [alone]
  · rw [behind, unqualified_append]

/-- Names without dots are told from their joined form. -/
theorem join_injective {first second : List Text} (filled : first ≠ []) (filled' : second ≠ [])
    (dotless : ∀ name ∈ first, '.' ∉ name) (dotless' : ∀ name ∈ second, '.' ∉ name)
    (same : join ['.'] first = join ['.'] second) : first = second := by
  rw [← splitOn_join filled dotless, same, splitOn_join filled' dotless']

/-- An identifier stands for a name without dots only when this is its one name. -/
theorem normalize_eq_iff {identifier name : Text} (dotless : '.' ∉ name) :
    normalize identifier = name ↔ names identifier = [name] := by
  rw [normalize_eq_join]
  constructor
  · intro same
    rcases List.eq_nil_or_concat (names identifier) with none | ⟨before, last, cut⟩
    · exact absurd none (names_ne_nil identifier)
    · rw [List.concat_eq_append] at cut
      rw [cut] at same ⊢
      rcases join_concat before last with ⟨rfl, alone⟩ | ⟨front, behind⟩
      · rw [← same, alone]
        rfl
      · rw [behind] at same
        rw [← same] at dotless
        simp at dotless
  · intro same
    rw [same]
    rfl

/-! ## Listed names -/

variable {tables : List (Text × List Text)}

/-- A listed table has these names. -/
def ListsNames (tables : List (Text × List Text)) (sequence : List Text) : Prop :=
  ∃ table ∈ tables.map Prod.fst, names table = sequence

instance (sequence : List Text) : Decidable (ListsNames tables sequence) :=
  inferInstanceAs (Decidable (∃ table ∈ tables.map Prod.fst, names table = sequence))

/-- The key that a sequence of names means, the last of which may stand alone: that of the listed
table of the same names, or else that of the listed table whose only name is the last one. -/
def meaning (tables : List (Text × List Text)) (qualifiers : List Text) (last : Text) :
    Option Text :=
  if ListsNames tables (qualifiers ++ [last]) then some (join ['.'] (qualifiers ++ [last]))
  else if ListsNames tables [last] then some last
  else none

/-- No dot inside a name misleads the registry: the very names are listed, or no listed table looks
like them or like what stands behind a dot in the last of them. -/
def IsUnambiguous (tables : List (Text × List Text)) (qualifiers : List Text) (last : Text) :
    Prop :=
  ListsNames tables (qualifiers ++ [last]) ∨
    (∀ table ∈ tables.map Prod.fst, normalize table ≠ join ['.'] (qualifiers ++ [last])) ∧
      ('.' ∈ last → ¬ListsNames tables [last] ∧ ¬ListsNames tables [unqualified last])

theorem contains_iff_listsNames {name : Text} (dotless : '.' ∉ name) :
    (ofTables tables).tables.contains name = true ↔ ListsNames tables [name] := by
  rw [contains_ofTables_iff]
  constructor
  · rintro ⟨table, listed, same⟩
    exact ⟨table, listed, (normalize_eq_iff dotless).1 same⟩
  · rintro ⟨table, listed, same⟩
    exact ⟨table, listed, (normalize_eq_iff dotless).2 same⟩

theorem ListsNames.contains {sequence : List Text} (lists : ListsNames tables sequence) :
    (ofTables tables).tables.contains (join ['.'] sequence) = true := by
  rcases lists with ⟨table, listed, rfl⟩
  exact contains_ofTables_iff.2 ⟨table, listed, rfl⟩

/-- Without dots inside names nothing misleads the registry. -/
theorem isUnambiguous_of_dotless {qualifiers : List Text} {last : Text}
    (dotless : ∀ name ∈ qualifiers ++ [last], '.' ∉ name)
    (dotless' : ∀ table ∈ tables.map Prod.fst, ∀ name ∈ names table, '.' ∉ name) :
    IsUnambiguous tables qualifiers last := by
  by_cases lists : ListsNames tables (qualifiers ++ [last])
  · exact .inl lists
  · right
    constructor
    · intro table listed same
      have whole := join_injective (names_ne_nil table) (by simp) (dotless' table listed) dotless
        same
      exact lists ⟨table, listed, whole⟩
    · intro dotted
      exact absurd dotted (dotless last (by simp))

/-- Behind qualifiers the joined names are longer than the last one. -/
theorem eq_nil_of_join_eq {qualifiers : List Text} {last : Text}
    (same : join ['.'] (qualifiers ++ [last]) = last) : qualifiers = [] := by
  rcases join_concat qualifiers last with ⟨none, -⟩ | ⟨before, behind⟩
  · exact none
  · rw [behind] at same
    have lengths := congrArg List.length same
    rw [List.length_append, List.length_cons] at lengths
    omega

/-- The registry finds what the names mean exactly when no dot misleads it. -/
theorem resolve_eq_meaning_iff (tables : List (Text × List Text)) {reference : Text}
    {qualifiers : List Text} {last : Text} (written : names reference = qualifiers ++ [last]) :
    (ofTables tables).resolve reference = meaning tables qualifiers last ↔
      IsUnambiguous tables qualifiers last := by
  have name : normalize reference = join ['.'] (qualifiers ++ [last]) := by
    rw [normalize_eq_join, written]
  rw [meaning, resolve]
  simp only [name, unqualified_join]
  by_cases lists : ListsNames tables (qualifiers ++ [last])
  · rw [if_pos lists, if_pos lists.contains]
    exact iff_of_true rfl (.inl lists)
  rw [if_neg lists]
  by_cases known : (ofTables tables).tables.contains (join ['.'] (qualifiers ++ [last])) = true
  · -- A table of other names is found, and what the names mean is another table or none.
    rw [if_pos known]
    rcases contains_ofTables_iff.1 known with ⟨table, listed, same⟩
    constructor
    · intro found
      split at found
      · rename_i alone
        have unqualified := eq_nil_of_join_eq (Option.some.inj found)
        rw [unqualified] at lists
        exact absurd alone lists
      · contradiction
    · rintro (lists' | ⟨others, -⟩)
      · exact absurd lists' lists
      · exact absurd same (others table listed)
  · rw [if_neg known]
    have others : ∀ table ∈ tables.map Prod.fst,
        normalize table ≠ join ['.'] (qualifiers ++ [last]) := by
      intro table listed same
      exact known (contains_ofTables_iff.2 ⟨table, listed, same⟩)
    have unambiguous : IsUnambiguous tables qualifiers last ↔
        ('.' ∈ last → ¬ListsNames tables [last] ∧ ¬ListsNames tables [unqualified last]) := by
      rw [IsUnambiguous, or_iff_right lists]
      exact and_iff_right others
    rw [unambiguous]
    simp only [contains_iff_listsNames (dot_not_mem_unqualified last)]
    by_cases dotted : '.' ∈ last
    · -- What stands behind the dot is looked up in place of the last name.
      have shorter : unqualified last ≠ last := by
        intro same
        exact dot_not_mem_unqualified last (by rwa [same])
      by_cases behind : ListsNames tables [unqualified last] <;>
        by_cases alone : ListsNames tables [last] <;> simp [behind, alone, shorter, dotted]
    · rw [unqualified_of_not_mem dotted]
      constructor
      · intro _ dotted'
        exact absurd dotted' dotted
      · intro _
        rfl

/-- A reference means to the registry what its names mean exactly when no dot inside a name
misleads it, and so always when no name of the reference and of the listed tables has a dot. -/
theorem resolve_write (tables : List (Text × List Text)) (qualifiers : List SpacedPart)
    (last : SpacedPart) :
    let reference := write (qualifiers ++ [last])
    let names := qualifiers.map SpacedPart.name
    ((ofTables tables).resolve reference = meaning tables names last.name ↔
        IsUnambiguous tables names last.name) ∧
      ((∀ name ∈ names ++ [last.name], '.' ∉ name) →
        (∀ table ∈ tables.map Prod.fst, ∀ name ∈ Identifier.names table, '.' ∉ name) →
          (ofTables tables).resolve reference = meaning tables names last.name) := by
  intro reference names
  have written : Identifier.names reference = names ++ [last.name] := by
    rw [names_write (by simp), List.map_append, List.map_singleton]
  have exact_iff := resolve_eq_meaning_iff tables written
  constructor
  · exact exact_iff
  · intro dotless dotless'
    exact exact_iff.2 (isUnambiguous_of_dotless dotless dotless')

/-- Behind a schema and blanks, a quoted table is found under its very name. -/
theorem resolve_write_schema :
    let tables : List (Text × List Text) := [("\"Menu_Node\"".toList, ["label".toList])]
    let schema : SpacedPart :=
      { part := .word "Public".toList (by decide) (by decide), trail := [' '] }
    let table : SpacedPart := { lead := [' '], part := .quoted "Menu_Node".toList }
    write ([schema] ++ [table]) = "Public . \"Menu_Node\"".toList ∧
      (ofTables tables).resolve (write ([schema] ++ [table])) = some "Menu_Node".toList := by
  intro tables schema table
  constructor
  · decide +kernel
  · have means : meaning tables [schema.name] table.name = some "Menu_Node".toList := by
      decide +kernel
    exact ((resolve_write tables [schema] table).2 (by decide +kernel) (by decide +kernel)).trans
      means

/-- A dot inside a quoted name passes for one between two names.  One quoted name is taken for a
table behind a schema, and a table behind a schema for a listed table with one quoted name. -/
theorem quoted_dots_mislead :
    (∃ (tables : List (Text × List Text)) (table : SpacedPart),
      write [table] = "\"public.menu_node\"".toList ∧
      meaning tables [] table.name = none ∧
      (ofTables tables).resolve (write [table]) = some "menu_node".toList) ∧
    ∃ (tables : List (Text × List Text)) (schema table : SpacedPart),
      tables.map Prod.fst = ["\"public.menu_node\"".toList] ∧
      write [schema, table] = "public.menu_node".toList ∧
      meaning tables [schema.name] table.name = none ∧
      (ofTables tables).resolve (write [schema, table]) = some "public.menu_node".toList := by
  constructor
  · refine ⟨[("menu_node".toList, ["label".toList])],
      { part := .quoted "public.menu_node".toList }, ?_⟩
    decide +kernel
  · refine ⟨[("\"public.menu_node\"".toList, ["label".toList])],
      { part := .word "public".toList (by decide) (by decide) },
      { part := .word "menu_node".toList (by decide) (by decide) }, ?_⟩
    decide +kernel

end Registry

end SeedCatalog
