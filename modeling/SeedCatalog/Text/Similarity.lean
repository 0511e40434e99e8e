import SeedCatalog.Text.Basic

/-!
# Similar texts

Two texts are compared by the runs of characters that they have in common: the longest such run is
taken, then the longest on its left and on its right, and so on.  Of several runs of one length the
first in the first text is taken, and of those the first in the second text.  Texts are similar when
at least three fifths of their characters lie in such runs.
-/

namespace SeedCatalog.Text

/-- The number of characters at the beginning of two texts that are the same. -/
def sharedStart : Text → Text → Nat
  | c :: rest, d :: rest' => if c = d then sharedStart rest rest' + 1 else 0
  | _, _ => 0

/-- A run of characters that two texts have in common. -/
structure CommonRun where
  /-- Where it begins in the first text. -/
  first : Nat
  /-- Where it begins in the second text. -/
  second : Nat
  length : Nat

/-- The longest run that two texts have in common. -/
def longestRun (first second : Text) : CommonRun :=
  let starts := (List.range first.length).flatMap fun i =>
    (List.range second.length).map fun j => (i, j)
  starts.foldl (fun longest (i, j) =>
    let length := sharedStart (first.drop i) (second.drop j)
    if longest.length < length then ⟨i, j, length⟩ else longest) ⟨0, 0, 0⟩

/-- The number of characters in the runs that two texts have in common. -/
def sharedLength (first second : Text) : Nat :=
  match longestRun first second with
  | ⟨i, j, length⟩ =>
      if i + length ≤ first.length ∧ 0 < length then
        sharedLength (first.take i) (second.take j) + length +
          sharedLength (first.drop (i + length)) (second.drop (j + length))
      else 0
termination_by first.length
decreasing_by all_goals simp only [List.length_take, List.length_drop]; omega

/-- How similar a text is to another. -/
structure Similarity where
  text : Text
  /-- The number of characters in runs that both texts have. -/
  shared : Nat
  /-- The number of characters of both texts. -/
  total : Nat

/-- The similarity of a text to `word`. -/
def similarity (word text : Text) : Similarity :=
  ⟨text, sharedLength text word, text.length + word.length⟩

/-- Whether at least three fifths of the characters are shared: the shared ones count twice, once
in each text. -/
def Similarity.isClose (similarity : Similarity) : Bool :=
  3 * similarity.total ≤ 10 * similarity.shared

/-- Whether the first similarity is at least as great as the second; of equal ones, that of the
later text counts as greater. -/
def Similarity.ge (first second : Similarity) : Bool :=
  let left := first.shared * second.total
  let right := second.shared * first.total
  right < left || (left = right && second.text.le first.text)

/-- Whether the lengths of two texts leave room for them to be close: no more can be shared than
the shorter one has. -/
def mayBeClose (word text : Text) : Bool :=
  Similarity.isClose ⟨text, min text.length word.length, text.length + word.length⟩

/-- The texts that are most similar to a word, at most three, in their own order. -/
def closest (word : Text) (texts : List Text) : List Text :=
  let close := ((texts.filter (mayBeClose word)).map (similarity word)).filter Similarity.isClose
  (((close.mergeSort Similarity.ge).take 3).map Similarity.text).mergeSort le

end SeedCatalog.Text
