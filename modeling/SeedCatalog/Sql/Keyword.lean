import SeedCatalog.Text.Word

/-!
# Keywords

A keyword is written in letters of either case.  The letters I and S have more than two forms: the
I without a dot, the capital I with a dot and the long s stand for them too.  A keyword that must
not run on into a longer word ends where the word characters end.
-/

namespace SeedCatalog.Sql

/-- Whether a character is a form of a capital letter. -/
def isFormOf (letter c : Char) : Bool :=
  c.toUpper == letter || (letter == 'I' && (c.toNat == 0x130 || c.toNat == 0x131)) ||
    (letter == 'S' && c.toNat == 0x17F)

/-- Read the letters of a word, which is given in capitals. -/
def letters? : (word : Text) → Text → Option Text
  | [], text => some text
  | _ :: _, [] => none
  | letter :: word, c :: text => if isFormOf letter c then letters? word text else none

/-- Whether a text begins inside a word. -/
def beginsWithWord (text : Text) : Bool :=
  text.head?.any isWord

/-- Read a whole word, which is given in capitals. -/
def keyword? (word text : Text) : Option Text :=
  match letters? word text with
  | some rest => if beginsWithWord rest then none else some rest
  | none => none

/-- Pass over a word that blanks follow, and over the blanks, when the text begins with them. -/
def skipWord (word text : Text) : Text :=
  match letters? word text with
  | some rest => if rest.head?.any isBlank then rest.skipBlanks else text
  | none => text

theorem length_of_letters? {word text rest : Text} (h : letters? word text = some rest) :
    text.length = word.length + rest.length := by
  fun_induction letters? word text with
  | case1 text => simp_all
  | case2 => simp at h
  | case3 letter word c text hc ih => simp [ih h]; omega
  | case4 => simp at h

theorem length_of_keyword? {word text rest : Text} (h : keyword? word text = some rest) :
    text.length = word.length + rest.length := by
  unfold keyword? at h
  split at h
  · rename_i hl
    split at h
    · simp at h
    · simp only [Option.some.injEq] at h
      exact h ▸ length_of_letters? hl
  · simp at h

end SeedCatalog.Sql
