import SeedCatalog.Proofs.Sql.Comment

/-!
# Values that a line end cuts

A text that ends with a line feed may be the beginning of a value.  Then it
holds a whole value, or it is recognized as a beginning, or it breaks off in one
of three places: behind the two colons of a cast, behind comments that are
closed, or behind a comment that only counts as open when its closing marker is
overlooked.
-/

namespace SeedCatalog.Sql

open Text

/-! ## Texts that end with a line feed -/

/-- The text ends with a line feed. -/
def Ended (text : Text) : Prop :=
  text.getLast? = some '\n'

instance (text : Text) : Decidable (Ended text) :=
  inferInstanceAs (Decidable (text.getLast? = some '\n'))

namespace Ended

theorem ne_nil {text : Text} (ended : Ended text) : text ≠ [] := by
  rintro rfl
  contradiction

theorem of_append {first second : Text} (ended : Ended (first ++ second)) (filled : second ≠ []) :
    Ended second := by
  obtain ⟨c, others, rfl⟩ := List.exists_cons_of_ne_nil filled
  simpa [Ended, List.getLast?_append, List.getLast?_cons] using ended

/-- Behind a character that is no blank the text goes on. -/
theorem of_cons {c : Char} {rest : Text} (ended : Ended (c :: rest)) (filled : isBlank c = false) :
    Ended rest := by
  cases rest with
  | nil =>
      cases ended
      contradiction
  | cons d rest =>
      have ended : Ended ([c] ++ d :: rest) := ended
      exact ended.of_append (by simp)

end Ended

/-! ## What stands behind a value -/

/-- A text that neither ends a value nor begins with a blank or a comment. -/
def Stuck (text : Text) : Prop :=
  ∃ c rest, text = c :: rest ∧ isBlank c = false ∧ c ≠ ',' ∧ c ≠ ')' ∧ opensComment c rest = false

/-- What may stand behind blanks and closed comments. -/
inductive Behind : Text → Prop
  | nothing : Behind []
  | mark (isLast : Bool) (rest : Text) : Behind (endMark isLast :: rest)
  /-- A comment that is not closed. -/
  | opening {body : Text} (first : ClosesFirst body) : Behind ('/' :: '*' :: body)
  | other {text : Text} (stuck : Stuck text) : Behind text

/-- What is stuck stays stuck when the text goes on behind its line end. -/
theorem Stuck.ending?_append {text : Text} (stuck : Stuck text) (ended : Ended text)
    (more : Text) : ending? .outside (text ++ more) = none := by
  obtain ⟨c, rest, rfl, filled, noComma, noParenthesis, noComment⟩ := stuck
  obtain ⟨d, others, rfl⟩ := List.exists_cons_of_ne_nil (ended.of_cons filled).ne_nil
  have noComment : opensComment c (d :: (others ++ more)) = false := noComment
  simp [ending?, filled, noComma, noParenthesis, noComment]

/-- A text begins with a blank, with a closed comment, or with what may stand behind these. -/
theorem blank_or_comment_or_behind (c : Char) (rest : Text) :
    isBlank c = true ∨
      (∃ body after, ClosesFirst body ∧
        c :: rest = '/' :: '*' :: (body ++ '*' :: '/' :: after)) ∨
      Behind (c :: rest) := by
  by_cases blank : isBlank c = true
  · exact .inl blank
  by_cases comma : c = ','
  · exact .inr (.inr (comma ▸ .mark false rest))
  by_cases parenthesis : c = ')'
  · exact .inr (.inr (parenthesis ▸ .mark true rest))
  cases opens : opensComment c rest with
  | false =>
      have filled : isBlank c = false := by simpa using blank
      exact .inr (.inr (.other ⟨c, rest, rfl, filled, comma, parenthesis, opens⟩))
  | true =>
      simp only [opensComment, Bool.and_eq_true, decide_eq_true_eq] at opens
      obtain ⟨rfl, star⟩ := opens
      obtain ⟨inner, rfl⟩ := List.head?_eq_some_iff.1 star
      cases closes : afterComment? inner with
      | none => exact .inr (.inr (.opening (.of_afterComment? closes)))
      | some after =>
          obtain ⟨body, first, rfl⟩ := ClosesFirst.exists_of_afterComment? closes
          exact .inr (.inl ⟨body, after, first, rfl⟩)

/-- A text begins with blanks and closed comments, as far as they go. -/
theorem exists_comments_behind (text : Text) :
    ∃ trail rest, text = trail ++ rest ∧ Comments ClosesFirst trail ∧ Behind rest := by
  induction bound : text.length using Nat.strong_induction_on generalizing text with
  | h count ih =>
      subst bound
      cases text with
      | nil => exact ⟨[], [], rfl, .nil, .nothing⟩
      | cons c rest =>
          rcases blank_or_comment_or_behind c rest with blank | ⟨body, after, first, cut⟩ | behind
          · obtain ⟨trail, others, rfl, comments, behind⟩ := ih _ (by simp) rest rfl
            exact ⟨c :: trail, others, rfl, .blank blank comments, behind⟩
          · have shorter : after.length < (c :: rest).length := by
              rw [cut]
              simp
              omega
            obtain ⟨trail, others, rfl, comments, behind⟩ := ih _ shorter after rfl
            exact ⟨_, others, by rw [cut]; simp, .comment first comments, behind⟩
          · exact ⟨[], c :: rest, rfl, .nil, behind⟩

/-! ## Open comments behind a value -/

theorem endsInComment_unclosed {body : Text} (first : ClosesFirst body) :
    endsInComment .unclosed body = true := by
  induction body with
  | nil => rfl
  | cons c body ih =>
      rw [endsInComment, if_neg first.not_marker_of_cons, ih first.of_cons]
      all_goals simp

theorem endsInComment_unclosed_append {body after : Text} (first : ClosesFirst body)
    (behind : endsInComment .outside after = true) :
    endsInComment .unclosed (body ++ '*' :: '/' :: after) = true := by
  induction body with
  | nil => simp [endsInComment, behind]
  | cons c body ih =>
      rw [List.cons_append, endsInComment, if_neg (first.not_marker _), ih first.of_cons]
      all_goals simp

/-- Behind closed comments a comment may be open. -/
theorem endsInComment_comments {trail body : Text} (comments : Comments ClosesFirst trail)
    (first : ClosesFirst body) :
    endsInComment .outside (trail ++ '/' :: '*' :: body) = true := by
  induction comments with
  | nil => exact endsInComment_unclosed first
  | blank blank _ ih => rw [List.cons_append, endsInComment, if_pos blank, ih]
  | comment inside _ ih =>
      have further := endsInComment_unclosed_append inside ih
      simp only [List.cons_append, List.append_assoc]
      exact further

/-! ## Literals that a line end cuts -/

/-- A run that is not open is read alike when the text goes on. -/
theorem quotedRun?_append {q : Char} :
    ∀ {text : Text}, runIsOpen q text = false → text.getLast? ≠ some q →
      ∃ inside after, quotedRun? q text = some (inside, after) ∧ after ≠ [] ∧
        ∀ more, quotedRun? q (text ++ more) = some (inside, after ++ more)
  | [], closes, _ => by simp [runIsOpen] at closes
  | [c], closes, last => by
      simp [runIsOpen] at closes
      simp [closes] at last
  | c :: d :: rest, closes, last => by
      rw [List.getLast?_cons_cons] at last
      rw [runIsOpen] at closes
      split at closes
      · rename_i quote
        subst quote
        by_cases pair : d = c
        · subst pair
          simp only [decide_true, Bool.true_and] at closes
          have filled : rest ≠ [] := by
            rintro rfl
            contradiction
          rw [List.getLast?_cons_of_ne_nil filled] at last
          obtain ⟨inside, after, read, behind, further⟩ := quotedRun?_append closes last
          exact ⟨d :: d :: inside, after, by simp [quotedRun?, read], behind,
            fun more => by simp [quotedRun?, further]⟩
        · exact ⟨[], d :: rest, by simp [quotedRun?, pair], by simp,
            fun more => by simp [quotedRun?, pair]⟩
      · rename_i other
        obtain ⟨inside, after, read, behind, further⟩ := quotedRun?_append closes last
        refine ⟨c :: inside, after, by rw [quotedRun?_cons other, read]; rfl, behind, ?_⟩
        intro more
        rw [List.cons_append, quotedRun?_cons other, further]
        rfl

theorem Ended.skipBlanks {text : Text} (ended : Ended text) (filled : text.allBlank = false) :
    Ended text.skipBlanks := by
  obtain ⟨blank, -, cut⟩ := exists_blank_append text
  rw [cut] at ended
  refine ended.of_append fun empty => ?_
  simp [skipBlanks_eq_nil_iff.1 empty] at filled

/-- A class without the line feed leaves the end of the text. -/
theorem Ended.dropWhile {p : Char → Bool} (noFeed : p '\n' = false) {text : Text}
    (ended : Ended text) :
    Ended (text.dropWhile p) ∧ ∀ more, (text ++ more).dropWhile p = text.dropWhile p ++ more := by
  have filled : text.dropWhile p ≠ [] := by
    rw [Ne, List.dropWhile_eq_nil_iff]
    intro all
    have feed := all '\n' (List.mem_of_getLast? ended)
    simp [noFeed] at feed
  constructor
  · have ended : Ended (text.takeWhile p ++ text.dropWhile p) := by
      rwa [List.takeWhile_append_dropWhile]
    exact ended.of_append filled
  · intro more
    rw [List.dropWhile_append, if_neg (by simpa using filled)]

/-- The text behind the brackets of an array, if it begins with them. -/
def skipBrackets : Text → Text
  | '[' :: ']' :: rest => rest
  | rest => rest

theorem skipBrackets_eq {text : Text} (noBrackets : ∀ rest, text ≠ '[' :: ']' :: rest) :
    skipBrackets text = text := by
  unfold skipBrackets
  split
  · exact absurd rfl (noBrackets _)
  · rfl

theorem Ended.skipBrackets {text : Text} (ended : Ended text) :
    Ended (skipBrackets text) ∧
      ∀ more, Sql.skipBrackets (text ++ more) = Sql.skipBrackets text ++ more := by
  by_cases brackets : ∃ rest, text = '[' :: ']' :: rest
  · obtain ⟨rest, rfl⟩ := brackets
    have behind : Ended (']' :: rest) := ended.of_cons rfl
    exact ⟨behind.of_cons rfl, fun more => rfl⟩
  · have noBrackets : ∀ rest, text ≠ '[' :: ']' :: rest := fun rest same => brackets ⟨rest, same⟩
    rw [skipBrackets_eq noBrackets]
    refine ⟨ended, fun more => skipBrackets_eq fun rest same => ?_⟩
    obtain ⟨c, others, rfl⟩ := List.exists_cons_of_ne_nil ended.ne_nil
    cases others with
    | nil =>
        have feed : c = '\n' := by simpa [Ended] using ended
        rw [feed] at same
        cases same
    | cons d others =>
        cases same
        exact brackets ⟨others, rfl⟩

/-- Behind the two colons of a cast the name of the type is skipped, and brackets. -/
theorem skipCast_eq_of_name {text rest behind : Text} {c : Char}
    (colons : skipBlanks text = ':' :: ':' :: rest) (begins : skipBlanks rest = c :: behind)
    (identifier : beginsIdentifier c = true) :
    skipCast text = skipBrackets (behind.dropWhile continuesType) := by
  simp only [skipCast, colons, begins, identifier, if_true]
  rfl

theorem skipCast_eq_of_noName {text rest behind : Text} {c : Char}
    (colons : skipBlanks text = ':' :: ':' :: rest) (begins : skipBlanks rest = c :: behind)
    (noName : beginsIdentifier c = false) : skipCast text = text := by
  simp [skipCast, colons, begins, noName]

theorem skipCast_eq_of_noColons {text : Text}
    (noColons : ∀ rest, skipBlanks text ≠ ':' :: ':' :: rest) : skipCast text = text := by
  unfold skipCast
  split
  · exact absurd ‹_› (noColons _)
  · rfl

/-- A text may break off behind the two colons of a cast; otherwise a cast that is read, or none,
is read alike when the text goes on behind its line end. -/
theorem skipCast_append {text : Text} (ended : Ended text) (filled : text.allBlank = false) :
    (∃ gap gap' : Text, gap.allBlank = true ∧ gap'.allBlank = true ∧
        text = gap ++ ':' :: ':' :: gap') ∨
      Ended (skipCast text) ∧ ∀ more, skipCast (text ++ more) = skipCast text ++ more := by
  obtain ⟨c, rest, skipped⟩ := List.exists_cons_of_ne_nil (ended.skipBlanks filled).ne_nil
  have further (more : Text) : skipBlanks (text ++ more) = c :: (rest ++ more) := by
    rw [skipBlanks_append_of_filled filled, skipped, List.cons_append]
  have behind : Ended rest :=
    (skipped ▸ ended.skipBlanks filled).of_cons (not_isBlank_of_skipBlanks skipped)
  by_cases colons : c = ':' ∧ rest.head? = some ':'
  · obtain ⟨rfl, colon⟩ := colons
    obtain ⟨rest, rfl⟩ := List.head?_eq_some_iff.1 colon
    have behind : Ended rest := behind.of_cons rfl
    cases blank : allBlank rest with
    | true =>
        obtain ⟨gap, allBlank, cut⟩ := exists_blank_append text
        exact .inl ⟨gap, rest, allBlank, blank, by rw [← skipped]; exact cut⟩
    | false =>
        right
        obtain ⟨d, name, begins⟩ := List.exists_cons_of_ne_nil (behind.skipBlanks blank).ne_nil
        have further' (more : Text) : skipBlanks (rest ++ more) = d :: (name ++ more) := by
          rw [skipBlanks_append_of_filled blank, begins, List.cons_append]
        have name' : Ended name :=
          (begins ▸ behind.skipBlanks blank).of_cons (not_isBlank_of_skipBlanks begins)
        cases identifier : beginsIdentifier d with
        | false =>
            rw [skipCast_eq_of_noName skipped begins identifier]
            refine ⟨ended, fun more => ?_⟩
            exact skipCast_eq_of_noName (further more) (further' more) identifier
        | true =>
            obtain ⟨left, kept⟩ := @name'.dropWhile continuesType (by decide +kernel)
            obtain ⟨left', kept'⟩ := left.skipBrackets
            rw [skipCast_eq_of_name skipped begins identifier]
            refine ⟨left', fun more => ?_⟩
            rw [skipCast_eq_of_name (further more) (further' more) identifier, kept, kept']
  · right
    obtain ⟨d, others, rfl⟩ := List.exists_cons_of_ne_nil behind.ne_nil
    rw [skipCast_eq_of_noColons]
    · refine ⟨ended, fun more => skipCast_eq_of_noColons fun rest same => ?_⟩
      rw [further] at same
      cases same
      exact colons ⟨rfl, rfl⟩
    · intro rest same
      rw [skipped] at same
      cases same
      exact colons ⟨rfl, rfl⟩

/-! ## Bare values that a line end cuts -/

/-- No comment opens at a piece of two characters or more that does not begin with one. -/
theorem not_opensComment_of_prefix {c d : Char} {piece : Text}
    (noComment : ¬['/', '*'] <+: c :: d :: piece) (after : Text) :
    opensComment c (d :: piece ++ after) = false := by
  rw [opensComment, Bool.and_eq_false_iff, decide_eq_false_iff_not, decide_eq_false_iff_not,
    ← not_and_or]
  rintro ⟨rfl, star⟩
  cases star
  exact noComment ⟨piece, rfl⟩

section

variable {finds ends : Text → Bool}
  (step : ∀ c rest, finds (c :: rest) =
    (!endsBare c && (finds rest || (!(isBlank c || opensComment c rest) && ends rest))))
  (marked : ∀ rest, ends ('*' :: rest) = false)
include step marked

omit step in
/-- Where an end is found, no comment opened in front of it. -/
theorem not_opensComment_of_ends {c : Char} {after : Text} (isEnd : ends after = true) :
    opensComment c after = false := by
  rw [opensComment, Bool.and_eq_false_iff, decide_eq_false_iff_not, decide_eq_false_iff_not]
  refine .inr fun star => ?_
  obtain ⟨others, rfl⟩ := List.head?_eq_some_iff.1 star
  simp [marked] at isEnd

/-- A search that reads on in a bare value finds an end behind any run that may be one. -/
theorem finds_of_run {run after : Text} (filled : run ≠ []) (inside : ∀ c ∈ run, endsBare c = false)
    (last : ∀ c, run.getLast? = some c → isBlank c = false) (isEnd : ends after = true) :
    finds (run ++ after) = true := by
  induction run with
  | nil => contradiction
  | cons c run ih =>
      have noEnd := inside c List.mem_cons_self
      cases run with
      | nil =>
          have noBlank := last c rfl
          rw [List.cons_append, List.nil_append, step]
          simp [noEnd, noBlank, not_opensComment_of_ends marked isEnd, isEnd]
      | cons d run =>
          have ih := ih (by simp) (fun e mem => inside e (List.mem_cons_of_mem c mem))
            fun e same => last e (by rwa [List.getLast?_cons_cons])
          rw [List.cons_append, step, ih, noEnd]
          rfl

/-- The same from the first character of a bare value on. -/
theorem finds_of_isBare {c : Char} {rest bare after : Text} (isBare : IsBare bare)
    (cut : c :: rest = bare ++ after) (isEnd : ends after = true) :
    (!(isBlank c || endsBare c || opensComment c rest) &&
      ((!beginsComment rest && finds rest) || ends rest)) = true := by
  obtain ⟨d, run, rfl⟩ := List.exists_cons_of_ne_nil isBare.filled
  rw [List.cons_append, List.cons.injEq] at cut
  obtain ⟨rfl, rfl⟩ := cut
  have noBlank := isBare.begins c rfl
  have noEnd := isBare.inside c List.mem_cons_self
  cases run with
  | nil => simp [noBlank, noEnd, not_opensComment_of_ends marked isEnd, isEnd]
  | cons d run =>
      have inside : ∀ e ∈ d :: run, endsBare e = false :=
        fun e mem => isBare.inside e (List.mem_cons_of_mem c mem)
      have found : finds (d :: run ++ after) = true :=
        finds_of_run step marked (by simp) inside
          (fun e last => isBare.ends e (by rwa [List.getLast?_cons_cons])) isEnd
      have noComment := not_opensComment_of_prefix isBare.noComment after
      have noCommentBehind : beginsComment (d :: run ++ after) = false := by
        cases run with
        | nil => exact not_opensComment_of_ends marked isEnd
        | cons e run => exact not_opensComment_of_prefix isBare.noCommentBehind after
      rw [noBlank, noEnd, noComment, noCommentBehind, found]
      rfl

end

theorem isSome_longestBare?_cons (c : Char) (rest : Text) :
    (longestBare? (c :: rest)).isSome =
      (!endsBare c && ((longestBare? rest).isSome ||
        (!(isBlank c || opensComment c rest) && (ending? .outside rest).isSome))) := by
  rw [longestBare?]
  cases endsBare c with
  | true => rfl
  | false =>
      cases longestBare? rest with
      | some longer => rfl
      | none =>
          cases isBlank c || opensComment c rest with
          | true => rfl
          | false => simp

theorem isSome_bare? (c : Char) (rest : Text) :
    (bare? c rest).isSome =
      (!(isBlank c || endsBare c || opensComment c rest) &&
        ((!beginsComment rest && (longestBare? rest).isSome) ||
          (ending? .outside rest).isSome)) := by
  rw [bare?]
  cases isBlank c || endsBare c || opensComment c rest with
  | true => rfl
  | false =>
      cases beginsComment rest with
      | true => simp
      | false => cases longestBare? rest <;> simp

/-- A bare value is read wherever what ends a value stands behind a run that may be one. -/
theorem isSome_bare?_of_isBare {c : Char} {rest bare after : Text} (isBare : IsBare bare)
    (cut : c :: rest = bare ++ after) (isEnd : (ending? .outside after).isSome = true) :
    (bare? c rest).isSome = true := by
  rw [isSome_bare?]
  exact @finds_of_isBare (fun text => (longestBare? text).isSome)
    (fun text => (ending? .outside text).isSome) isSome_longestBare?_cons (fun _ => rfl) _ _ _ _
    isBare cut isEnd

/-- A bare value is waited for wherever an open comment stands behind a run that may be one. -/
theorem bareEndsInComment_of_isBare {c : Char} {rest bare after : Text} (isBare : IsBare bare)
    (cut : c :: rest = bare ++ after) (isEnd : endsInComment .outside after = true) :
    bareEndsInComment c rest = true :=
  @finds_of_isBare longestBareEndsInComment (endsInComment .outside) (fun _ _ => rfl)
    (fun _ => rfl) _ _ _ _ isBare cut isEnd

/-! ## Beginnings of values -/

/-- A text that stops behind a value, or behind a literal, in front of what ends the value. -/
inductive StopsShort : Text → Prop
  /-- Behind the two colons of a cast nothing follows. -/
  | cast (written : Text) {lead gap gap' : Text} (leads : lead.allBlank = true)
      (blank : gap.allBlank = true) (blank' : gap'.allBlank = true) :
      StopsShort (lead ++ (literal written ++ (gap ++ ':' :: ':' :: gap')))
  /-- Behind a value and closed comments nothing follows. -/
  | comments {lead value trail : Text} (leads : lead.allBlank = true) (isValue : IsValue value)
      (comments : Comments ClosesFirst trail) (filled : trail.allBlank = false) :
      StopsShort (lead ++ (value ++ trail))
  /-- Behind a value and closed comments follows what cannot end the value, unless a comment is read
  over its closing marker. -/
  | misread {lead value trail rest : Text} (leads : lead.allBlank = true) (isValue : IsValue value)
      (comments : Comments ClosesFirst trail) (filled : trail.allBlank = false)
      (stuck : Stuck rest) : StopsShort (lead ++ (value ++ (trail ++ rest)))

/-- The text stops short of a value, and it is neither read as a value nor recognized as the
beginning of one. -/
structure BreaksOff (text : Text) : Prop where
  stops : StopsShort text
  unread : value? text = none
  unawaited : valueMayFollow text = false

theorem Comments.head?_ne_star {holds : Text → Prop} {trail : Text}
    (comments : Comments holds trail) : trail.head? ≠ some '*' := by
  cases comments with
  | nil => simp
  | @blank c rest blank _ =>
      rintro ⟨⟩
      contradiction
  | comment _ _ => simp

/-- A value in front of comments does not begin with a comment itself. -/
theorem IsValue.begins {value trail : Text} (isValue : IsValue value)
    (comments : Comments ClosesFirst trail) (filled : trail.allBlank = false) (rest : Text) :
    ∃ c behind, value ++ (trail ++ rest) = c :: behind ∧ isBlank c = false ∧
      opensComment c behind = false := by
  cases isValue with
  | literal written casts => exact ⟨'\'', _, rfl, rfl, rfl⟩
  | bare isBare =>
      obtain ⟨c, run, rfl⟩ := List.exists_cons_of_ne_nil isBare.filled
      refine ⟨c, run ++ (trail ++ rest), rfl, isBare.begins c rfl, ?_⟩
      cases run with
      | cons d run => exact not_opensComment_of_prefix isBare.noComment _
      | nil =>
          have noStar := comments.head?_ne_star
          cases trail with
          | nil => contradiction
          | cons d trail => simpa [opensComment] using fun _ => noStar

/-- A text that stops short of a value holds some of it, and does not begin with a comment. -/
theorem StopsShort.begins {text : Text} (stops : StopsShort text) :
    ∃ (lead : Text) (c : Char) (rest : Text), text = lead ++ c :: rest ∧ lead.allBlank = true ∧
      isBlank c = false ∧ opensComment c rest = false := by
  cases stops with
  | @cast written lead gap gap' leads blank blank' => exact ⟨lead, '\'', _, rfl, leads, rfl, rfl⟩
  | @comments lead value trail leads isValue comments filled =>
      obtain ⟨c, rest, cut, solid, noComment⟩ := isValue.begins comments filled []
      rw [List.append_nil] at cut
      exact ⟨lead, c, rest, by rw [cut], leads, solid, noComment⟩
  | @misread lead value trail rest leads isValue comments filled stuck =>
      obtain ⟨c, behind, cut, solid, noComment⟩ := isValue.begins comments filled rest
      exact ⟨lead, c, behind, by rw [cut], leads, solid, noComment⟩

theorem StopsShort.allBlank_eq {text : Text} (stops : StopsShort text) :
    text.allBlank = false := by
  obtain ⟨lead, c, rest, rfl, -, solid, -⟩ := stops.begins
  simp [allBlank, solid]

theorem StopsShort.commentOpening?_eq {text : Text} (stops : StopsShort text) :
    commentOpening? text = none := by
  obtain ⟨lead, c, rest, rfl, leads, solid, noComment⟩ := stops.begins
  rw [commentOpening?, skipBlanks_lead leads solid]
  split
  · rename_i same
    cases same
    contradiction
  · rfl

/-- What stands behind a value ends the value, or ends in a comment, or is blank, or stops short,
if it can be completed to what ends the value. -/
theorem ending?_cases {lead value behind more : Text} (leads : lead.allBlank = true)
    (isValue : IsValue value) (ended : Ended behind)
    (completes : (ending? .outside (behind ++ more)).isSome = true) :
    (ending? .outside behind).isSome = true ∨ endsInComment .outside behind = true ∨
      behind.allBlank = true ∨ StopsShort (lead ++ (value ++ behind)) := by
  obtain ⟨trail, rest, rfl, comments, rest'⟩ := exists_comments_behind behind
  cases rest' with
  | mark isLast rest =>
      rw [ending?_comments comments]
      exact .inl rfl
  | opening first => exact .inr (.inl (endsInComment_comments comments first))
  | nothing =>
      rw [List.append_nil]
      cases blank : trail.allBlank with
      | true => exact .inr (.inr (.inl rfl))
      | false => exact .inr (.inr (.inr (.comments leads isValue comments blank)))
  | other stuck =>
      cases blank : trail.allBlank with
      | true =>
          have filled : rest ≠ [] := by
            obtain ⟨c, others, rfl, -⟩ := stuck
            simp
          rw [List.append_assoc, ending?_blank blank,
            stuck.ending?_append (ended.of_append filled) more] at completes
          contradiction
      | false => exact .inr (.inr (.inr (.misread leads isValue comments blank stuck)))

/-- A literal that can be completed is read, or waits, or stops short. -/
theorem value?_cases_quote {text rest more : Text} (ended : Ended text)
    (begins : text.skipBlanks = '\'' :: rest)
    (completes : (value? (text ++ more)).isSome = true) :
    (value? text).isSome = true ∨ valueMayFollow text = true ∨ StopsShort text := by
  obtain ⟨lead, leads, cut⟩ := exists_blank_append text
  rw [begins] at cut
  have filled : text.allBlank = false := by simp [cut, allBlank, isBlank]
  have begins' : skipBlanks (text ++ more) = '\'' :: (rest ++ more) := by
    rw [skipBlanks_append_of_filled filled, begins, List.cons_append]
  have ended : Ended rest := (begins ▸ ended.skipBlanks filled).of_cons rfl
  have last : rest.getLast? ≠ some '\'' := by
    rw [ended]
    decide
  rw [value?_of_quote begins, valueMayFollow_of_quote begins]
  rw [value?_of_quote begins'] at completes
  cases isOpen : runIsOpen '\'' rest with
  | true => exact .inr (.inl rfl)
  | false =>
      obtain ⟨inside, after, read, behind, further⟩ := quotedRun?_append isOpen last
      obtain ⟨written, rfl⟩ := exists_double_of_quotedRun? read
      have whole := eq_append_of_quotedRun? read
      have ended : Ended after :=
        Ended.of_cons ((whole ▸ ended).of_append (by simp)) (c := '\'') rfl
      rw [read, Option.bind_some, Option.any_some, Option.isSome_map]
      rw [further, Option.bind_some, Option.isSome_map] at completes
      cases blank : after.allBlank with
      | true =>
          have noColons : ∀ rest, skipBlanks after ≠ ':' :: ':' :: rest := by
            simp [skipBlanks_eq_nil_iff.2 blank]
          rw [skipCast_eq_of_noColons noColons, blank, Bool.true_or, Bool.or_true]
          exact .inr (.inl rfl)
      | false =>
          have whole : text = lead ++ (literal written ++ after) := by
            rw [cut, whole, literal_append]
          rcases skipCast_append ended blank with ⟨gap, gap', gaps, gaps', rfl⟩ | ⟨ended, kept⟩
          · exact .inr (.inr (whole ▸ .cast written leads gaps gaps'))
          · obtain ⟨cast, casts, behind⟩ := exists_cast after
            rw [kept] at completes
            rw [behind, ← List.append_assoc (literal written)] at whole
            rcases ending?_cases leads (.literal written casts) ended completes with
              ends | open_ | blank | stops
            · exact .inl ends
            · rw [open_, Bool.or_true, Bool.or_true]
              exact .inr (.inl rfl)
            · rw [blank, Bool.true_or, Bool.or_true]
              exact .inr (.inl rfl)
            · exact .inr (.inr (whole ▸ stops))

/-- A bare value that can be completed is read, or waits, or stops short. -/
theorem value?_cases_bare {text rest more : Text} {c : Char} (ended : Ended text)
    (begins : text.skipBlanks = c :: rest) (noQuote : c ≠ '\'')
    (completes : (value? (text ++ more)).isSome = true) :
    (value? text).isSome = true ∨ valueMayFollow text = true ∨ StopsShort text := by
  obtain ⟨lead, leads, cut⟩ := exists_blank_append text
  rw [begins] at cut
  have solid := not_isBlank_of_skipBlanks begins
  have filled : text.allBlank = false := by simp [cut, allBlank, solid]
  have begins' : skipBlanks (text ++ more) = c :: (rest ++ more) := by
    rw [skipBlanks_append_of_filled filled, begins, List.cons_append]
  have ended : Ended (c :: rest) := begins ▸ ended.skipBlanks filled
  rw [value?, begins'] at completes
  simp only [noQuote, if_false, Option.isSome_map] at completes
  rw [value?, valueMayFollow, begins]
  simp only [noQuote, if_false, Option.isSome_map]
  obtain ⟨⟨bare, last⟩, read⟩ := Option.isSome_iff_exists.1 completes
  obtain ⟨after, whole, ends, isBare⟩ := bare?_eq_some read
  by_cases unended : ((c :: rest).all fun d => !endsBare d) = true
  · rw [unended, Bool.or_true]
    exact .inr (.inl rfl)
  · -- Something in the text ends a bare value, so that the value lies within the text.
    obtain ⟨d, mem, endsHere⟩ : ∃ d ∈ c :: rest, endsBare d = true := by
      simpa only [List.all_eq_true, not_forall, Bool.not_eq_true', Bool.not_eq_false,
        exists_prop] using unended
    have notInside : d ∉ bare := by
      intro inside
      rw [isBare.inside d inside] at endsHere
      contradiction
    rw [← List.cons_append] at whole
    rcases List.append_eq_append_iff.1 whole with
      ⟨others, same, -⟩ | ⟨behind, same, rfl⟩
    · exact absurd (same ▸ List.mem_append_left others mem) notInside
    · have mem : d ∈ behind := (List.mem_append.1 (same ▸ mem)).resolve_left notInside
      have ended : Ended behind := (same ▸ ended).of_append (List.ne_nil_of_mem mem)
      have completes : (ending? .outside (behind ++ more)).isSome = true := by rw [ends]; rfl
      rcases ending?_cases leads (.bare isBare) ended completes with ends | open_ | blank | stops
      · exact .inl (isSome_bare?_of_isBare isBare same ends)
      · rw [bareEndsInComment_of_isBare isBare same open_, Bool.true_or]
        exact .inr (.inl rfl)
      · have blank : isBlank d = true := List.all_eq_true.1 blank d mem
        rw [not_isBlank_of_endsBare endsHere] at blank
        contradiction
      · rw [← same, ← cut] at stops
        exact .inr (.inr stops)

/-- A text that ends with a line feed and that can be completed to a value is a value, or it is
recognized as the beginning of one, or it breaks off. -/
theorem value?_cases {text more : Text} (ended : Ended text) (filled : text.allBlank = false)
    (completes : (value? (text ++ more)).isSome = true) :
    (value? text).isSome = true ∨ valueMayFollow text = true ∨ BreaksOff text := by
  obtain ⟨c, rest, begins⟩ := List.exists_cons_of_ne_nil (ended.skipBlanks filled).ne_nil
  have cases : (value? text).isSome = true ∨ valueMayFollow text = true ∨ StopsShort text := by
    by_cases quote : c = '\''
    · exact value?_cases_quote ended (quote ▸ begins) completes
    · exact value?_cases_bare ended begins quote completes
  by_cases read : (value? text).isSome = true
  · exact .inl read
  by_cases waits : valueMayFollow text = true
  · exact .inr (.inl waits)
  have stops : StopsShort text := (cases.resolve_left read).resolve_left waits
  exact .inr (.inr ⟨stops, by simpa using read, by simpa using waits⟩)

end SeedCatalog.Sql
