import SeedCatalog.Proofs.Sql.Comment
import SeedCatalog.Proofs.Sql.ValuePrefix

/-!
# Values with comments behind them

Comments behind a literal are passed over, whatever they hold.  A bare word is
read on into the comments behind it, up to the first character that ends a bare
value.  Where this is a comma or a closing parenthesis, the value ends inside a
comment.  Where it is an opening parenthesis or an apostrophe, or where there is
none, the value ends where it should, but some of the comments may have become a
part of it.
-/

namespace SeedCatalog.Sql

open Text

variable {c : Char} {body trail after rest : Text} {last : Bool × Text}

/-! ## Where a bare value that is read on ends -/

/-- The first character of a text that ends a bare value, if there is one, is neither a comma nor a
closing parenthesis. -/
def Shielded (text : Text) : Prop :=
  ∀ c, text.find? endsBare = some c → c ≠ ',' ∧ c ≠ ')'

theorem Shielded.of_cons (shielded : Shielded (c :: rest)) (goesOn : endsBare c = false) :
    Shielded rest := by
  rwa [Shielded, List.find?_cons_of_neg (by simp [goesOn])] at shielded

/-- However far a bare value is read on into the text, it ends as expected. -/
structure EndsAt (last : Bool × Text) (text : Text) : Prop where
  longer : ∀ read, longestBare? text = some read → read.2 = last
  here : longestBare? text = none → ∀ found, ending? .outside text = some found → found = last

namespace EndsAt

theorem mark (isLast : Bool) (rest : Text) : EndsAt (isLast, rest) (endMark isLast :: rest) := by
  constructor
  · intro read longer
    cases isLast <;> cases longer
  · intro _ found ends
    cases isLast <;> exact (Option.some.inj ends).symm

/-- Where the text behind a character ends a value as expected, the character may be read on. -/
theorem longer_cons (behind : EndsAt last rest) :
    ∀ read, longestBare? (c :: rest) = some read → read.2 = last := by
  intro read longer
  rw [longestBare?] at longer
  split at longer
  · contradiction
  · cases further : longestBare? rest with
    | some more =>
        rw [further] at longer
        cases longer
        exact behind.longer more further
    | none =>
        simp only [further] at longer
        split at longer
        · contradiction
        · obtain ⟨found, ends, same⟩ := Option.map_eq_some_iff.1 longer
          cases same
          exact behind.here further found ends

theorem cons_of_none (behind : EndsAt last rest)
    (stuck : ending? .outside (c :: rest) = none) : EndsAt last (c :: rest) := by
  constructor
  · exact behind.longer_cons
  · intro _ found read
    rw [stuck] at read
    contradiction

theorem cons_of_some (behind : EndsAt last rest)
    (ends : ending? .outside (c :: rest) = some last) : EndsAt last (c :: rest) := by
  constructor
  · exact behind.longer_cons
  · intro _ found read
    exact Option.some.inj (read.symm.trans ends)

end EndsAt

/-- Only a mark, a blank and a comment are passed over to the end of a value. -/
theorem ending?_eq_none (filled : isBlank c = false) (noComma : c ≠ ',') (noParenthesis : c ≠ ')')
    (noComment : opensComment c rest = false) : ending? .outside (c :: rest) = none := by
  simp [ending?, filled, noComma, noParenthesis, noComment]

/-- Where a value ends inside a comment, in front of the character that shields the rest of the
comment, it ends behind the comment. -/
theorem ending?_of_shielded (first : ClosesFirst body) (ends : ending? .outside after = some last)
    (shielded : Shielded body) (stops : body.any endsBare = true) :
    ∀ found, ending? .outside (body ++ '*' :: '/' :: after) = some found → found = last := by
  induction body with
  | nil => contradiction
  | cons c body ih =>
      intro found read
      rw [List.cons_append] at read
      cases goesOn : endsBare c with
      | true =>
          have stuck := shielded c (List.find?_cons_of_pos goesOn)
          have noSlash : c ≠ '/' := by
            rintro rfl
            contradiction
          rw [ending?_eq_none (not_isBlank_of_endsBare goesOn) stuck.1 stuck.2
            (by simp [opensComment, noSlash])] at read
          contradiction
      | false =>
          rw [List.any_cons, goesOn, Bool.false_or] at stops
          have ih := ih first.of_cons (shielded.of_cons goesOn) stops found
          cases blank : isBlank c with
          | true =>
              rw [ending?, if_pos blank] at read
              exact ih read
          | false =>
              cases opens : opensComment c (body ++ '*' :: '/' :: after) with
              | true =>
                  cases body with
                  | nil => contradiction
                  | cons d body =>
                      obtain ⟨rfl, rfl⟩ : c = '/' ∧ d = '*' := by simpa [opensComment] using opens
                      have closed := ending?_comment first.of_cons.of_cons ends
                      exact Option.some.inj (read.symm.trans closed)
              | false =>
                  rw [ending?_eq_none blank ?_ ?_ opens] at read
                  · contradiction
                  all_goals
                    rintro rfl
                    contradiction

/-- Through a comment in which nothing ends a bare value, the value is read on. -/
theorem longestBare?_ne_none (goesOn : body.any endsBare = false)
    (ends : ending? .outside after = some last) :
    longestBare? (body ++ '*' :: '/' :: after) ≠ none := by
  have inside : ∀ c ∈ body ++ ['*', '/'], endsBare c = false := by
    intro c mem
    rcases List.mem_append.1 mem with mem | mem
    · simpa using List.any_eq_false.1 goesOn c mem
    · rcases List.mem_cons.1 mem with rfl | mem
      · rfl
      · rw [List.mem_singleton.1 mem]
        rfl
  have slash : ∀ c, (body ++ ['*', '/']).getLast? = some c → isBlank c = false := by
    intro c last
    rw [List.getLast?_append] at last
    cases last
    rfl
  have found : (longestBare? ((body ++ ['*', '/']) ++ after)).isSome = true :=
    @finds_of_run (fun text => (longestBare? text).isSome)
      (fun text => (ending? .outside text).isSome) isSome_longestBare?_cons (fun _ => rfl) _ _
      (by simp) inside slash (by simp [ends])
  rw [List.append_assoc] at found
  exact Option.isSome_iff_ne_none.1 found

namespace EndsAt

theorem here_inComment (first : ClosesFirst body) (ends : ending? .outside after = some last)
    (shielded : Shielded body) (unread : longestBare? (body ++ '*' :: '/' :: after) = none) :
    ∀ found, ending? .outside (body ++ '*' :: '/' :: after) = some found → found = last := by
  cases stops : body.any endsBare with
  | true => exact ending?_of_shielded first ends shielded stops
  | false => exact absurd unread (longestBare?_ne_none stops ends)

/-- In a comment a bare value ends as it does behind the comment. -/
theorem inComment (first : ClosesFirst body) (ends : ending? .outside after = some last)
    (shielded : Shielded body) (behind : body.any endsBare = false → EndsAt last after) :
    EndsAt last (body ++ '*' :: '/' :: after) := by
  constructor
  · induction body with
    | nil =>
        have noComment : opensComment '/' after = false :=
          @not_opensComment_of_ends (fun text => (ending? .outside text).isSome) (fun _ => rfl) '/'
            after (by simp [ends])
        have stuck := ending?_eq_none rfl (by decide) (by decide) noComment
        exact ((behind rfl).cons_of_none stuck).longer_cons
    | cons c body ih =>
        cases goesOn : endsBare c with
        | true =>
            intro read longer
            rw [List.cons_append, longestBare?, if_pos goesOn] at longer
            contradiction
        | false =>
            rw [List.any_cons, goesOn, Bool.false_or] at behind
            have shielded := shielded.of_cons goesOn
            have further : EndsAt last (body ++ '*' :: '/' :: after) :=
              ⟨ih first.of_cons shielded behind, here_inComment first.of_cons ends shielded⟩
            exact further.longer_cons
  · exact here_inComment first ends shielded

end EndsAt

/-- Behind comments that are shielded, a bare value that is read on ends where it should. -/
theorem endsAt_comments (comments : Comments ClosesFirst trail) (shielded : Shielded trail)
    (isLast : Bool) (rest : Text) : EndsAt (isLast, rest) (trail ++ endMark isLast :: rest) := by
  induction comments with
  | nil => exact .mark isLast rest
  | @blank c others blank comments ih =>
      apply (ih (shielded.of_cons (not_endsBare_of_isBlank blank))).cons_of_some
      rw [ending?, if_pos blank, ending?_comments comments]
  | @comment body others first comments ih =>
      have ends := ending?_comments comments isLast rest
      have inside : Shielded (body ++ '*' :: '/' :: others) :=
        (shielded.of_cons rfl).of_cons rfl
      have body_shielded : Shielded body := by
        intro c found
        apply inside
        rw [List.find?_append, found]
        rfl
      have others_shielded (goesOn : body.any endsBare = false) : Shielded others := by
        have none : body.find? endsBare = none := by
          rw [List.find?_eq_none]
          exact List.any_eq_false.1 goesOn
        rw [Shielded, List.find?_append, none, Option.none_or] at inside
        have behind : Shielded ('*' :: '/' :: others) := inside
        exact (behind.of_cons rfl).of_cons rfl
      have comment := EndsAt.inComment first ends body_shielded fun goesOn =>
        ih (others_shielded goesOn)
      have star : EndsAt (isLast, rest)
          ('*' :: (body ++ '*' :: '/' :: (others ++ endMark isLast :: rest))) :=
        comment.cons_of_none rfl
      have slash := star.cons_of_some (ending?_comment first ends)
      simpa using slash

/-! ## Comments that are tolerated -/

/-- The text behind a value leaves the end of the value where it is, and its text as it is if it is
asked for. -/
inductive Tolerates (asked : Bool) : WrittenValue → Text → Prop
  | blank (value : WrittenValue) {trail : Text} (blank : trail.allBlank = true) :
      Tolerates asked value trail
  | literal (text : Text) (noReturn : ¬['\r', '\n'] <:+: text) (trail : Text) :
      Tolerates asked (.literal text noReturn) trail
  /-- A comment stands right behind a word of one letter. -/
  | letter (c : Char) (filled : [c] ≠ []) (parts : [c].all isBarePart = true) {trail : Text}
      (comment : beginsComment trail = true) : Tolerates asked (.bare [c] filled parts) trail
  /-- In the first comment an opening parenthesis or an apostrophe comes before a comma, a closing
  parenthesis, and a further opening marker. -/
  | stopped (text : Text) (filled : text ≠ []) (parts : text.all isBarePart = true)
      {lead inner : Text} {c : Char} (blank : lead.allBlank = true)
      (inside : inner.any endsBare = false) (single : ¬['/', '*'] <:+: inner)
      (stops : c = '(' ∨ c = '\'') (rest : Text) :
      Tolerates asked (.bare text filled parts) (lead ++ '/' :: '*' :: (inner ++ c :: rest))
  | unasked (value : WrittenValue) {trail : Text} (unasked : asked = false)
      (shielded : Shielded trail) : Tolerates asked value trail

/-- Where a bare value cannot be read on, it is the word in front. -/
theorem value?_word_of_unread {lead word rest : Text} (blank : lead.allBlank = true)
    (filled : word ≠ []) (parts : word.all isBarePart = true)
    (unread : longestBare? rest = none) :
    value? (lead ++ (word ++ rest)) =
      (ending? .outside rest).map fun last => ⟨.bare word, last.1, last.2⟩ := by
  by_cases direct : word.length = 1 ∧ beginsComment rest = true
  · obtain ⟨c, rfl⟩ := List.length_eq_one_iff.1 direct.1
    rw [List.all_cons, Bool.and_eq_true] at parts
    exact value?_letter blank parts.1 direct.2
  · rw [value?_word blank filled parts, unread]
    intro single
    simpa [single] using direct

/-- Up to an opening parenthesis or an apostrophe nothing is read that ends a value. -/
theorem unread_of_stops {inner : Text} (inside : inner.any endsBare = false)
    (single : ¬['/', '*'] <:+: inner) (stops : c = '(' ∨ c = '\'') (rest : Text) :
    longestBare? (inner ++ c :: rest) = none ∧ ending? .outside (inner ++ c :: rest) = none := by
  induction inner with
  | nil => rcases stops with rfl | rfl <;> exact ⟨rfl, rfl⟩
  | cons d inner ih =>
      rw [List.any_cons, Bool.or_eq_false_iff] at inside
      obtain ⟨longer, ends⟩ := ih inside.2 fun marker => single (List.infix_cons marker)
      rw [List.cons_append]
      constructor
      · rw [longestBare?, longer, ends]
        simp
      · cases blank : isBlank d with
        | true => rw [ending?, if_pos blank, ends]
        | false =>
            apply ending?_eq_none blank
            · rintro rfl
              simp [endsBare] at inside
            · rintro rfl
              simp [endsBare] at inside
            · rw [opensComment, Bool.and_eq_false_iff, decide_eq_false_iff_not,
                decide_eq_false_iff_not, ← not_and_or]
              rintro ⟨rfl, star⟩
              cases inner with
              | nil => rcases stops with rfl | rfl <;> cases star
              | cons e inner =>
                  cases star
                  exact single ⟨[], inner, rfl⟩

theorem longestBare?_of_stops {lead inner : Text} (blank : lead.allBlank = true)
    (inside : inner.any endsBare = false) (single : ¬['/', '*'] <:+: inner)
    (stops : c = '(' ∨ c = '\'') (rest : Text) :
    longestBare? (lead ++ '/' :: '*' :: (inner ++ c :: rest)) = none := by
  obtain ⟨longer, ends⟩ := unread_of_stops inside single stops rest
  apply longestBare?_blank blank
  have star : longestBare? ('*' :: (inner ++ c :: rest)) = none := by
    rw [longestBare?, longer, ends]
    simp
  rw [longestBare?, star]
  simp [opensComment]

theorem beginsComment_append (comment : beginsComment trail = true) (rest : Text) :
    beginsComment (trail ++ rest) = true := by
  match trail with
  | [] => contradiction
  | [c] => simp [beginsComment, opensComment] at comment
  | c :: d :: others => exact comment

section

variable {lead : Text} (blank : lead.allBlank = true) (comments : Comments ClosesFirst trail)
  (isLast : Bool) (rest : Text)
include blank comments

/-- Behind a literal comments are passed over. -/
theorem value?_literal_comments (text : Text) :
    value? (lead ++ (literal text ++ (trail ++ endMark isLast :: rest))) =
      some ⟨.quoted (double '\'' text), isLast, rest⟩ := by
  have noColon : (skipBlanks (trail ++ endMark isLast :: rest)).head? ≠ some ':' := by
    rcases comments.skipBlanks_eq isLast rest with mark | ⟨body, others, -, -, comment⟩
    · rw [mark]
      cases isLast <;> simp [endMark]
    · rw [comment]
      simp
  rw [literal_append, value?_quote blank, quotedRun?_double (comments.head?_ne_quote isLast rest),
    Option.bind_some, skipCast_eq noColon, ending?_comments comments]
  rfl

/-- Behind a word comments that are shielded are passed over, or become a part of it. -/
theorem exists_value?_word {word : Text} (filled : word ≠ []) (parts : word.all isBarePart = true)
    (shielded : Shielded trail) :
    ∃ more, value? (lead ++ (word ++ (trail ++ endMark isLast :: rest))) =
      some ⟨.bare (word ++ more), isLast, rest⟩ := by
  have ends := ending?_comments comments isLast rest
  have place := endsAt_comments comments shielded isLast rest
  by_cases direct : word.length = 1 ∧ beginsComment (trail ++ endMark isLast :: rest) = true
  · obtain ⟨c, rfl⟩ := List.length_eq_one_iff.1 direct.1
    rw [List.all_cons, Bool.and_eq_true] at parts
    refine ⟨[], ?_⟩
    rw [List.singleton_append, value?_letter blank parts.1 direct.2, ends]
    rfl
  · have apart (single : word.length = 1) :
        beginsComment (trail ++ endMark isLast :: rest) = false := by
      simpa [single] using direct
    rw [value?_word blank filled parts apart]
    cases longer : longestBare? (trail ++ endMark isLast :: rest) with
    | none => exact ⟨[], by simp [ends]⟩
    | some read =>
        have last := place.longer read longer
        exact ⟨read.1, by simp [last]⟩

/-- A value with comments that it tolerates is read up to the mark behind them. -/
theorem exists_value?_comments {asked : Bool} {value : WrittenValue}
    (tolerates : Tolerates asked value trail) :
    ∃ read, value? (lead ++ (value.written ++ (trail ++ endMark isLast :: rest))) =
        some ⟨read, isLast, rest⟩ ∧ (asked = true → read.text = value.text) := by
  have ends := ending?_comments comments isLast rest
  cases tolerates with
  | blank value blank' =>
      exact ⟨value.value, value?_eq blank value blank' isLast rest, fun _ => value.text_value⟩
  | literal text noReturn trail =>
      exact ⟨_, value?_literal_comments blank comments isLast rest text,
        fun _ => undouble_double '\'' text⟩
  | letter c filled parts comment =>
      rw [List.all_cons, Bool.and_eq_true] at parts
      have direct := beginsComment_append comment (endMark isLast :: rest)
      refine ⟨.bare [c], ?_, fun _ => rfl⟩
      rw [WrittenValue.written, List.singleton_append, value?_letter blank parts.1 direct, ends]
      rfl
  | @stopped text filled parts lead' inner c blank' inside single stops others =>
      have unread := longestBare?_of_stops blank' inside single stops
        (others ++ endMark isLast :: rest)
      have written : lead' ++ '/' :: '*' :: (inner ++ c :: others) ++ endMark isLast :: rest =
          lead' ++ '/' :: '*' :: (inner ++ c :: (others ++ endMark isLast :: rest)) := by
        simp
      rw [written] at ends ⊢
      refine ⟨.bare text, ?_, fun _ => rfl⟩
      rw [WrittenValue.written, value?_word_of_unread blank filled parts unread, ends]
      rfl
  | unasked value unasked shielded =>
      cases value with
      | literal text noReturn =>
          exact ⟨_, value?_literal_comments blank comments isLast rest text,
            fun _ => undouble_double '\'' text⟩
      | bare text filled parts =>
          obtain ⟨more, read⟩ := exists_value?_word blank comments isLast rest filled parts shielded
          exact ⟨_, read, fun asked => by simp [unasked] at asked⟩

end

end SeedCatalog.Sql
