import SeedCatalog.Sql.Token

/-!
# Values of a tuple

A value is a literal, which a cast may follow, or a bare run of characters other than commas,
parentheses and single quotes.  Behind a value stand blanks and block comments, and then the comma
or the parenthesis that ends it.

A bare value is the longest run that ends well.  Its last character is neither a blank nor the
first of a comment, and what ends a value stands behind it; comments inside the run are a part of
it.  Only a comment right behind the first character ends the value there.

A comment behind a value is read up to its first closing marker.  When no comma, parenthesis or
further comment follows there, the comment is read on to its next closing marker.
-/

namespace SeedCatalog.Sql

/-- A value as it is written. -/
inductive Value where
  /-- A literal, with its inside as written. -/
  | quoted (inside : Text)
  /-- Anything else. -/
  | bare (text : Text)
  deriving DecidableEq, Repr

/-- The text that a value stands for. -/
def Value.text : Value → Text
  | .quoted inside => Text.undouble '\'' inside
  | .bare text => text

/-- A value together with what ends it. -/
structure ValueToken where
  value : Value
  /-- Whether the closing parenthesis ends the value, and not a comma. -/
  isLast : Bool
  rest : Text

/-- Whether a character ends a bare value. -/
def endsBare (c : Char) : Bool :=
  c == ',' || c == '(' || c == ')' || c == '\''

/-- Whether a block comment opens at a character, given the text that follows the character. -/
def opensComment (c : Char) (rest : Text) : Bool :=
  c = '/' && rest.head? = some '*'

/-- Whether a block comment opens at the beginning of a text. -/
def beginsComment : Text → Bool
  | [] => false
  | c :: rest => opensComment c rest

/-- Whether a character may stand in the name of a type behind its first letter. -/
def continuesType (c : Char) : Bool :=
  isWord c || c == ' '

/-- The text behind a cast, which is two colons, the name of a type and perhaps the brackets of an
array; the whole text, if it does not begin with a cast. -/
def skipCast (text : Text) : Text :=
  match text.skipBlanks with
  | ':' :: ':' :: rest =>
      match Text.skipBlanks rest with
      | [] => text
      | c :: rest =>
          if beginsIdentifier c then
            match rest.dropWhile continuesType with
            | '[' :: ']' :: rest => rest
            | rest => rest
          else text
  | _ => text

/-- Where a place behind a value stands with regard to the comments there. -/
inductive CommentPlace where
  /-- Outside all comments. -/
  | outside
  /-- Before the second character of an opening marker. -/
  | opening
  /-- In a comment, before its first closing marker. -/
  | unclosed
  /-- In a comment, behind a closing marker that was read as a part of it. -/
  | readOn
  /-- Before the second character of a closing marker. -/
  | closing
  deriving DecidableEq, Repr

/-- Read what ends a value: whether it is the closing parenthesis, and the text behind it. -/
def ending? : CommentPlace → Text → Option (Bool × Text)
  | _, [] => none
  | .outside, c :: rest =>
      if isBlank c then ending? .outside rest
      else if c = ',' then some (false, rest)
      else if c = ')' then some (true, rest)
      else if opensComment c rest then ending? .opening rest
      else none
  | .opening, _ :: rest => ending? .unclosed rest
  | .closing, _ :: rest => ending? .outside rest
  | place, c :: rest =>
      if c = '*' ∧ rest.head? = some '/' then
        match ending? .closing rest with
        | some last => some last
        | none => ending? .readOn rest
      else ending? place rest

/-- Read on in a bare value, as far as it can end well. -/
def longestBare? : Text → Option (Text × Bool × Text)
  | [] => none
  | c :: rest =>
      if endsBare c then none
      else
        match longestBare? rest with
        | some (bare, last) => some (c :: bare, last)
        | none =>
            if isBlank c || opensComment c rest then none
            else (ending? .outside rest).map fun last => ([c], last)

/-- Read a bare value and what ends it, given its first character and the text behind that. -/
def bare? (c : Char) (rest : Text) : Option (Text × Bool × Text) :=
  if isBlank c || endsBare c || opensComment c rest then none
  else
    match (if beginsComment rest then none else longestBare? rest) with
    | some (bare, last) => some (c :: bare, last)
    | none => (ending? .outside rest).map fun last => ([c], last)

/-- Read a value and what ends it. -/
def value? (text : Text) : Option ValueToken :=
  match text.skipBlanks with
  | [] => none
  | c :: rest =>
      if c = '\'' then
        (quotedRun? '\'' rest).bind fun run =>
          (ending? .outside (skipCast run.2)).map fun last => ⟨.quoted run.1, last.1, last.2⟩
      else
        (bare? c rest).map fun (bare, last) => ⟨.bare bare, last.1, last.2⟩

/-! ## Values that the next line may complete -/

/-- Whether nothing but blanks and comments follows, of which the last is not closed. -/
def endsInComment : CommentPlace → Text → Bool
  | .unclosed, [] => true
  | _, [] => false
  | .outside, c :: rest =>
      if isBlank c then endsInComment .outside rest
      else opensComment c rest && endsInComment .opening rest
  | .opening, _ :: rest => endsInComment .unclosed rest
  | .closing, _ :: rest => endsInComment .outside rest
  | place, c :: rest =>
      if c = '*' ∧ rest.head? = some '/' then
        endsInComment .closing rest || endsInComment .readOn rest
      else endsInComment place rest

/-- Whether a bare value that is read on can end before a comment that is not closed. -/
def longestBareEndsInComment : Text → Bool
  | [] => false
  | c :: rest =>
      !endsBare c &&
        (longestBareEndsInComment rest ||
          (!(isBlank c || opensComment c rest) && endsInComment .outside rest))

/-- Whether a bare value, given its first character and the text behind that, can end before a
comment that is not closed. -/
def bareEndsInComment (c : Char) (rest : Text) : Bool :=
  !(isBlank c || endsBare c || opensComment c rest) &&
    ((!beginsComment rest && longestBareEndsInComment rest) || endsInComment .outside rest)

/-- Whether a text is the beginning of a value that the next line may complete: an open literal, a
literal with nothing behind it, a value with an open comment behind it, or a text in which nothing
ends a bare value. -/
def valueMayFollow (text : Text) : Bool :=
  match text.skipBlanks with
  | [] => false
  | c :: rest =>
      if c = '\'' then
        runIsOpen '\'' rest ||
          (quotedRun? '\'' rest).any fun run =>
            (skipCast run.2).allBlank || endsInComment .outside (skipCast run.2)
      else bareEndsInComment c rest || (c :: rest).all fun d => !endsBare d

/-! ## The text behind a value is shorter -/

theorem length_skipCast_le (text : Text) : (skipCast text).length ≤ text.length := by
  unfold skipCast
  have h₁ := Text.length_skipBlanks_le text
  split
  · rename_i rest hs
    rw [hs, List.length_cons, List.length_cons] at h₁
    have h₂ := Text.length_skipBlanks_le rest
    split
    · exact Nat.le_refl _
    · rename_i c rest' hs'
      rw [hs', List.length_cons] at h₂
      have h₃ := Text.length_dropWhile_le continuesType rest'
      split
      · split
        · rename_i hd
          rw [hd, List.length_cons, List.length_cons] at h₃
          omega
        · omega
      · exact Nat.le_refl _
  · exact Nat.le_refl _

theorem length_of_ending? {place : CommentPlace} {text : Text} {last : Bool × Text}
    (h : ending? place text = some last) : last.2.length < text.length := by
  induction text generalizing place with
  | nil => simp [ending?] at h
  | cons c rest ih =>
    have step : ∀ {place}, ending? place rest = some last →
        last.2.length < (c :: rest).length := fun h => by
      rw [List.length_cons]
      exact Nat.lt_succ_of_lt (ih h)
    have inside : ∀ {place},
        (if c = '*' ∧ rest.head? = some '/' then
          match ending? .closing rest with
          | some last => some last
          | none => ending? .readOn rest
        else ending? place rest) = some last → last.2.length < (c :: rest).length := by
      intro place h
      split at h
      · split at h
        · rename_i hc
          exact step (hc.trans h)
        · exact step h
      · exact step h
    cases place with
    | outside =>
      rw [ending?] at h
      split at h
      · exact step h
      · split at h
        · cases h
          exact Nat.lt_succ_self _
        · split at h
          · cases h
            exact Nat.lt_succ_self _
          · split at h
            · exact step h
            · simp at h
    | opening => exact step (by simpa only [ending?] using h)
    | closing => exact step (by simpa only [ending?] using h)
    | unclosed => exact inside (by simpa only [ending?] using h)
    | readOn => exact inside (by simpa only [ending?] using h)

theorem length_of_longestBare? {text bare : Text} {last : Bool × Text}
    (h : longestBare? text = some (bare, last)) : last.2.length < text.length := by
  induction text generalizing bare with
  | nil => simp [longestBare?] at h
  | cons c rest ih =>
    rw [List.length_cons]
    rw [longestBare?] at h
    split at h
    · simp at h
    · split at h
      · rename_i hrest
        cases h
        exact Nat.lt_succ_of_lt (ih hrest)
      · split at h
        · simp at h
        · obtain ⟨last', hlast, he⟩ := Option.map_eq_some_iff.1 h
          cases he
          exact Nat.lt_succ_of_lt (length_of_ending? hlast)

theorem length_of_bare? {c : Char} {rest bare : Text} {last : Bool × Text}
    (h : bare? c rest = some (bare, last)) : last.2.length < rest.length := by
  unfold bare? at h
  split at h
  · simp at h
  · split at h
    · rename_i hlong
      cases h
      split at hlong
      · simp at hlong
      · exact length_of_longestBare? hlong
    · obtain ⟨last', hlast, he⟩ := Option.map_eq_some_iff.1 h
      cases he
      exact length_of_ending? hlast

theorem length_of_value? {text : Text} {token : ValueToken} (h : value? text = some token) :
    token.rest.length < text.length := by
  unfold value? at h
  split at h
  · simp at h
  · rename_i c rest hs
    have h₁ := length_of_skipBlanks_eq_cons hs
    split at h
    · obtain ⟨run, hrun, h⟩ := Option.bind_eq_some_iff.1 h
      obtain ⟨last, hlast, rfl⟩ := Option.map_eq_some_iff.1 h
      obtain ⟨inside, after⟩ := run
      have h₂ := congrArg List.length (eq_append_of_quotedRun? hrun)
      have h₃ := length_skipCast_le after
      have h₄ := length_of_ending? hlast
      simp only [List.length_append, List.length_cons] at h₂ h₄ ⊢
      omega
    · obtain ⟨⟨bare, last⟩, hbare, rfl⟩ := Option.map_eq_some_iff.1 h
      exact Nat.lt_trans (length_of_bare? hbare) h₁

end SeedCatalog.Sql
