import SeedCatalog.Text.Basic

/-!
# Quoted runs

A literal stands between single quotes and a quoted identifier between double quotes; inside, the
quote is written twice.  Reading such a run, every doubled quote belongs to the inside and the
first quote that stands alone closes the run.  Where no quote stands alone, the run ends at the
first quote of its last pair, and the second quote is left to what follows.
-/

namespace SeedCatalog.Sql

/-- Read a run up to its closing quote, from behind its opening quote: the inside as it is
written, and the text after the closing quote. -/
def quotedRun? (q : Char) : Text → Option (Text × Text)
  | [] => none
  | [c] => if c = q then some ([], []) else none
  | c :: d :: rest =>
      if c = q then
        if d = q then
          match quotedRun? q rest with
          | some (inside, after) => some (q :: q :: inside, after)
          | none => some ([], d :: rest)
        else some ([], d :: rest)
      else (quotedRun? q (d :: rest)).map fun run => (c :: run.1, run.2)

/-- Read a run that has at least one character inside. -/
def filledRun? (q : Char) (text : Text) : Option (Text × Text) :=
  match quotedRun? q text with
  | some (c :: inside, after) => some (c :: inside, after)
  | _ => none

/-- Whether every quote up to the end of the text is one of a pair, so that the run is still open
there. -/
def runIsOpen (q : Char) : Text → Bool
  | [] => true
  | [c] => c != q
  | c :: d :: rest =>
      if c = q then d = q && runIsOpen q rest else runIsOpen q (d :: rest)

/-- A run that closes is the text up to its closing quote, the quote, and the text after it. -/
theorem eq_append_of_quotedRun? {q : Char} :
    ∀ {text inside after : Text}, quotedRun? q text = some (inside, after) →
      text = inside ++ q :: after
  | [], _, _, h => by simp [quotedRun?] at h
  | [c], _, _, h => by
      by_cases hc : c = q <;> simp_all [quotedRun?]
  | c :: d :: rest, inside, after, h => by
      rw [quotedRun?] at h
      split at h
      · split at h
        · split at h
          · rename_i hrun
            simp only [Option.some.injEq, Prod.mk.injEq] at h
            obtain ⟨rfl, rfl⟩ := h
            simp_all [eq_append_of_quotedRun? hrun]
          · simp_all
        · simp_all
      · obtain ⟨run, hrun, he⟩ := Option.map_eq_some_iff.1 h
        simp only [Prod.mk.injEq] at he
        obtain ⟨rfl, rfl⟩ := he
        simp [eq_append_of_quotedRun? hrun]

theorem eq_append_of_filledRun? {q : Char} {text inside after : Text}
    (h : filledRun? q text = some (inside, after)) : text = inside ++ q :: after := by
  unfold filledRun? at h
  split at h
  · rename_i hrun
    simp only [Option.some.injEq, Prod.mk.injEq] at h
    obtain ⟨rfl, rfl⟩ := h
    exact eq_append_of_quotedRun? hrun
  · simp at h

/-- The text that a literal stands for: the quotes at its two ends are dropped, if both are there,
and doubled quotes are read as one. -/
def decodeLiteral (literal : Text) : Text :=
  Text.undouble '\'' <|
    match literal with
    | [] => []
    | [c] => [c]
    | c :: d :: rest =>
        if c = '\'' ∧ (d :: rest).getLast (by simp) = '\'' then (d :: rest).dropLast
        else c :: d :: rest

end SeedCatalog.Sql
