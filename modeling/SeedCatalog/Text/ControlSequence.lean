import SeedCatalog.Text.Basic

/-!
# Control sequences of terminals

A control sequence is an escape and an opening bracket, then parameters, then intermediate
characters, and one final character.  What is printed holds none, so that no text of an input can
act on a terminal.
-/

namespace SeedCatalog.Text

/-- The character that begins a control sequence. -/
def escapeChar : Char := Char.ofNat 0x1B

/-- Whether a character is a parameter of a control sequence. -/
def isParameter (c : Char) : Bool :=
  0x30 ≤ c.toNat && c.toNat ≤ 0x3F

/-- Whether a character is an intermediate character of a control sequence. -/
def isIntermediate (c : Char) : Bool :=
  0x20 ≤ c.toNat && c.toNat ≤ 0x2F

/-- Whether a character ends a control sequence. -/
def isFinal (c : Char) : Bool :=
  0x40 ≤ c.toNat && c.toNat ≤ 0x7E

/-- The text behind a control sequence, given the text behind its bracket. -/
def afterSequence? (text : Text) : Option Text :=
  match (text.dropWhile isParameter).dropWhile isIntermediate with
  | [] => none
  | c :: rest => if isFinal c then some rest else none

theorem length_of_afterSequence? {text rest : Text} (h : afterSequence? text = some rest) :
    rest.length < text.length := by
  unfold afterSequence? at h
  have h₁ := length_dropWhile_le isParameter text
  have h₂ := length_dropWhile_le isIntermediate (text.dropWhile isParameter)
  split at h
  · simp at h
  · rename_i hd
    rw [hd, List.length_cons] at h₂
    split at h
    · simp only [Option.some.injEq] at h
      subst h
      omega
    · simp at h

/-- The text without its control sequences, which are read from the left. -/
def dropControlSequences : Text → Text
  | [] => []
  | [c] => [c]
  | c :: d :: rest =>
      if c = escapeChar ∧ d = '[' then
        match h : afterSequence? rest with
        | some after =>
            have := length_of_afterSequence? h
            dropControlSequences after
        | none => c :: dropControlSequences (d :: rest)
      else c :: dropControlSequences (d :: rest)
termination_by text => text.length
decreasing_by all_goals simp only [List.length_cons]; omega

/-- A text without escapes has no control sequences. -/
theorem dropControlSequences_of_not_mem {text : Text} (h : escapeChar ∉ text) :
    dropControlSequences text = text := by
  fun_induction dropControlSequences text with
  | case1 => rfl
  | case2 => rfl
  | case3 c d rest hc => simp [hc.1] at h
  | case4 c d rest hc => simp [hc.1] at h
  | case5 c d rest _ ih => rw [ih (List.not_mem_of_not_mem_cons h)]

end SeedCatalog.Text
