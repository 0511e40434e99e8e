import SeedCatalog.Proofs.Scan.Account
import SeedCatalog.Proofs.Scan.InsertScript
import SeedCatalog.Proofs.Scan.Token

/-!
# Scanning across line ends

A scan that stands before some content is followed here token by token, wherever
the lines end.  The invariant is that the text which waits for the next line may
as well be the beginning of the current one: what was read of a line without
completing a token waits, and what is still to be read follows it.

A step of this kind takes a token, or passes over a layout, or goes on inside an
open literal.
-/

namespace SeedCatalog.Scan

open SeedCatalog.Sql Text

/-- The report on content, from a cursor before its first line. -/
def reportFrom (registry : Registry) (delimiter source : Text) (cursor : Cursor)
    (content : Text) : Report :=
  (account registry delimiter cursor content.lines).report source

variable {registry : Registry} {delimiter source : Text} {phase phase' : Phase} {line : Int}
  {pending : Text} {statement statement' : Option Statement}

theorem scanText_eq_reportFrom (content : Text) :
    scanText registry delimiter source content =
      reportFrom registry delimiter source {} content :=
  scanLines_eq_report source content.lines

theorem Report.behind_behind (first second : List (Text × Location)) (report : Report) :
    (report.behind second).behind first = report.behind (first ++ second) := by
  simp [Report.behind]

/-! ## The pieces of a layout -/

theorem feeds_append (first second : Text) :
    feeds (first ++ second) = feeds first + feeds second := by
  rw [feeds, List.count_append, Int.natCast_add]
  rfl

theorem feeds_cons {c : Char} (noFeed : c ≠ '\n') (text : Text) :
    feeds (c :: text) = feeds text := by
  rw [feeds, List.count_cons_of_ne noFeed, feeds]

theorem feeds_of_notMem {text : Text} (oneLine : '\n' ∉ text) : feeds text = 0 := by
  rw [feeds, List.count_eq_zero_of_not_mem oneLine]
  rfl

/-- The piece ends its line, and nothing of it is seen. -/
structure LineBreak (piece : Text) : Prop where
  filled : piece ≠ []
  firstLine_eq : ∀ rest, firstLine (piece ++ rest) = piece
  otherLines_eq : ∀ rest, otherLines (piece ++ rest) = lines rest
  hidden : ∀ {held}, Closed held → dropLineComment (held ++ dropLineEnd piece) = held
  feeds_eq : feeds piece = 1

theorem lineBreak_newline : LineBreak ['\n'] where
  filled := by simp
  firstLine_eq _ := rfl
  otherLines_eq _ := rfl
  hidden closed := by
    rw [dropLineEnd_of_forall (by simp), List.append_nil, closed.dropLineComment_eq]
  feeds_eq := rfl

theorem lineBreak_comment {body : Text} (oneLine : '\n' ∉ body) :
    LineBreak (['-', '-'] ++ body ++ ['\n']) where
  filled := by simp
  firstLine_eq rest := by
    have noFeed : '\n' ∉ ['-', '-'] ++ body := by simp [oneLine]
    rw [List.append_assoc, firstLine_append noFeed, List.singleton_append, firstLine_newline]
  otherLines_eq rest := by
    have noFeed : '\n' ∉ ['-', '-'] ++ body := by simp [oneLine]
    rw [List.append_assoc, otherLines_append noFeed, List.singleton_append, otherLines_newline]
  hidden closed := by
    have unended : Unended ['-', '-'] := unended_concat (by decide) (by decide) ['-']
    rw [List.append_assoc, dropLineEnd_append unended]
    exact closed.dropLineComment_hyphens _
  feeds_eq := by
    rw [feeds_append, feeds_append, feeds_of_notMem oneLine]
    rfl

/-- A piece of a layout is a gap on its line, or ends its line. -/
theorem Piece.gap_or_lineBreak (piece : Piece) :
    (∃ c, piece.text = [c] ∧ (c = ' ' ∨ c = '\t')) ∨ LineBreak piece.text := by
  cases piece with
  | space => exact .inl ⟨' ', rfl, .inl rfl⟩
  | tab => exact .inl ⟨'\t', rfl, .inr rfl⟩
  | newline => exact .inr lineBreak_newline
  | comment body oneLine => exact .inr (lineBreak_comment oneLine)

/-! ## Plain texts -/

/-- Whether a character opens nothing and ends no line. -/
def isPlain (c : Char) : Bool :=
  isInert c && c != '\r' && c != '\n'

/-- The text opens nothing and ends no line. -/
def IsPlain (text : Text) : Prop :=
  text.all isPlain = true

namespace IsPlain

variable {text : Text}

theorem closed (plain : IsPlain text) : Closed text := by
  apply closed_of_all
  rw [List.all_eq_true]
  intro c mem
  have plain := List.all_eq_true.1 plain c mem
  simp only [isPlain, Bool.and_eq_true] at plain
  exact plain.1.1

theorem ne_lineEnd (plain : IsPlain text) : ∀ c ∈ text, c ≠ '\r' ∧ c ≠ '\n' := by
  intro c mem
  have plain := List.all_eq_true.1 plain c mem
  simp only [isPlain, Bool.and_eq_true, bne_iff_ne] at plain
  exact ⟨plain.1.2, plain.2⟩

theorem notMem (plain : IsPlain text) : '\n' ∉ text :=
  fun mem => (plain.ne_lineEnd _ mem).2 rfl

theorem unended (plain : IsPlain text) : Unended text :=
  unended_of_forall plain.ne_lineEnd

end IsPlain

theorem isGap_blank {c : Char} (blank : c = ' ' ∨ c = '\t') : IsGap [c] := by
  rcases blank with rfl | rfl <;> rfl

theorem isPlain_blank {c : Char} (blank : c = ' ' ∨ c = '\t') : IsPlain [c] := by
  rcases blank with rfl | rfl <;> rfl

theorem isPlain_endMark (isLast : Bool) : IsPlain [endMark isLast] := by
  cases isLast <;> rfl

theorem isPlain_of_isWord {c : Char} (word : isWord c = true) : isPlain c = true := by
  simp only [isPlain, isInert_of_isWord word, Bool.true_and, Bool.and_eq_true, bne_iff_ne]
  constructor
  all_goals
    rintro rfl
    contradiction

theorem isPlain_name (name : PlainName) : IsPlain name.text := by
  rw [IsPlain, List.all_eq_true]
  intro c mem
  have part := name.isNamePart_of_mem mem
  exact forall_ascii (p := fun c => isNamePart c = true → isPlain c = true) (by decide)
    (toNat_of_isNamePart part) part

theorem isPlain_bare {word : Text} (parts : word.all isBarePart = true) : IsPlain word := by
  rw [IsPlain, List.all_eq_true]
  intro c mem
  have part := List.all_eq_true.1 parts c mem
  exact forall_ascii (p := fun c => isBarePart c = true → isPlain c = true) (by decide)
    (toNat_of_isBarePart part) part

/-! ## What is seen of a line -/

/-- The rest of a line as it is scanned, given the content that begins with it. -/
def seen (content : Text) : Text :=
  dropLineComment (dropLineEnd content.firstLine) ++ ['\n']

theorem LineBreak.seen_eq {piece : Text} (ends : LineBreak piece) (rest : Text) :
    seen (piece ++ rest) = ['\n'] := by
  have hidden := ends.hidden closed_nil
  rw [List.nil_append] at hidden
  rw [seen, ends.firstLine_eq, hidden, List.nil_append]

/-- An inert character is seen, and then what stands behind it. -/
theorem seen_cons {c : Char} (noReturn : c ≠ '\r') (noFeed : c ≠ '\n')
    (inert : isInert c = true) (rest : Text) : seen (c :: rest) = c :: seen rest := by
  have unended : Unended [c] := unended_concat noReturn noFeed []
  have kept := dropLineEnd_append unended rest.firstLine
  rw [List.singleton_append] at kept
  rw [seen, firstLine_cons noFeed, kept, closed_singleton inert, seen]
  rfl

theorem seen_gap {c : Char} (gap : c = ' ' ∨ c = '\t') (rest : Text) :
    seen ([c] ++ rest) = c :: seen rest := by
  rcases gap with rfl | rfl
  · exact seen_cons (by decide) (by decide) rfl rest
  · exact seen_cons (by decide) (by decide) rfl rest

theorem seen_append {piece : Text} (noFeed : '\n' ∉ piece) (unended : Unended piece)
    (closed : Closed piece) (rest : Text) : seen (piece ++ rest) = piece ++ seen rest := by
  rw [seen, firstLine_append noFeed, dropLineEnd_append unended, closed, seen, List.append_assoc]

/-- What is seen of a line is a beginning of it, and a line feed. -/
theorem exists_seen_eq (content : Text) :
    ∃ piece behind, seen content = piece ++ ['\n'] ∧ content = piece ++ behind := by
  obtain ⟨comment, cut, _⟩ :=
    exists_dropLineCommentFrom_append .plain (dropLineEnd content.firstLine)
  obtain ⟨lineEnd, cut', _⟩ := exists_dropLineEnd_append content.firstLine
  refine ⟨_, comment ++ (lineEnd ++ content.otherLines.flatten), rfl, ?_⟩
  have whole := firstLine_append_otherLines content
  rw [cut', cut, List.append_assoc, List.append_assoc] at whole
  exact whole.symm

theorem stopsAt_seen_of_stopsAt {p : Char → Bool} (feed : p '\n' = false) {content : Text}
    (stops : content.stopsAt p = true) : (seen content).stopsAt p = true := by
  obtain ⟨piece, behind, same, cut⟩ := exists_seen_eq content
  rw [same]
  cases piece with
  | nil => simp [stopsAt, feed]
  | cons c piece =>
      rw [cut] at stops
      exact stops

theorem head?_skipBlanks_seen_of_ne {d : Char} {content : Text}
    (other : content.skipBlanks.head? ≠ some d) : (seen content).skipBlanks.head? ≠ some d := by
  obtain ⟨piece, behind, same, cut⟩ := exists_seen_eq content
  rw [same]
  cases blank : piece.allBlank with
  | true =>
      rw [skipBlanks_append blank]
      exact nofun
  | false =>
      rw [cut, skipBlanks_append_of_filled blank] at other
      rw [skipBlanks_append_of_filled blank]
      cases behind' : piece.skipBlanks with
      | nil => simp [skipBlanks_eq_nil_iff.1 behind'] at blank
      | cons c rest =>
          rw [behind'] at other
          exact other

/-- A layout that is not empty is seen to end a word. -/
theorem stopsAt_seen {p : Char → Bool} (space : p ' ' = false) (tab : p '\t' = false)
    (feed : p '\n' = false) {layout : Layout} {rest : Text}
    (ends : layout ≠ [] ∨ (seen rest).stopsAt p = true) :
    (seen (layout.text ++ rest)).stopsAt p = true := by
  cases layout with
  | nil =>
      rcases ends with filled | stops
      · contradiction
      · exact stops
  | cons piece layout =>
      rw [Layout.text_cons, List.append_assoc]
      rcases piece.gap_or_lineBreak with ⟨c, same, gap⟩ | ends
      · rw [same, seen_gap gap]
        rcases gap with rfl | rfl
        · simp [stopsAt, space]
        · simp [stopsAt, tab]
      · rw [ends.seen_eq]
        simp [stopsAt, feed]

/-- Behind a layout nothing is seen but what follows the layout. -/
theorem head?_skipBlanks_seen {d : Char} {rest : Text}
    (other : (seen rest).skipBlanks.head? ≠ some d) (layout : Layout) :
    (seen (layout.text ++ rest)).skipBlanks.head? ≠ some d := by
  induction layout with
  | nil => exact other
  | cons piece layout ih =>
      rw [Layout.text_cons, List.append_assoc]
      rcases piece.gap_or_lineBreak with ⟨c, same, gap⟩ | ends
      · rw [same, seen_gap gap]
        rcases gap with rfl | rfl
        · exact ih
        · exact ih
      · rw [ends.seen_eq]
        exact nofun

/-! ## Lines and what waits for them -/

/-- Scanning content scans its first line, behind the text that waits for it, and then the other
lines. -/
theorem reportFrom_eq (tokens : phase.readsTokens = true) {content : Text}
    (filled : content ≠ []) :
    reportFrom registry delimiter source { phase, line, pending, statement } content =
      ((textAccount registry delimiter { phase, line := line + 1, statement }
        (dropLineComment (pending ++ dropLineEnd content.firstLine) ++ ['\n'])).andThen
          (account registry delimiter · content.otherLines)).report source := by
  rw [reportFrom, lines_of_ne_nil filled, account, lineAccount]
  simp only [prepareLine, if_neg (Phase.ne_dataBlock tokens),
    decide_eq_false (Phase.ne_comment tokens)]

/-- What was read of a line may as well wait for the rest of it. -/
theorem reportFrom_append (tokens : phase.readsTokens = true) {piece rest : Text}
    (oneLine : '\n' ∉ piece) (unended : Unended piece) (filled : rest ≠ []) :
    reportFrom registry delimiter source { phase, line, pending, statement } (piece ++ rest) =
      reportFrom registry delimiter source
        { phase, line, pending := pending ++ piece, statement } rest := by
  have filled' : piece ++ rest ≠ [] := by simp [filled]
  rw [reportFrom_eq tokens filled', reportFrom_eq tokens filled, firstLine_append oneLine,
    otherLines_append oneLine, dropLineEnd_append unended, List.append_assoc]

/-- A line that ends before a token is complete leaves a text to the next line. -/
theorem reportFrom_await (tokens : phase.readsTokens = true) {first waiting rest : Text}
    (firstLine_eq : firstLine (first ++ rest) = first)
    (otherLines_eq : otherLines (first ++ rest) = lines rest) (filled : first ≠ [])
    (kept : dropLineComment (pending ++ dropLineEnd first) = pending)
    (waits : Cursor.step registry delimiter { phase, line := line + 1, statement }
        (pending ++ ['\n']) =
      .ok (Cursor.await { phase, line := line + 1, statement } waiting)) :
    reportFrom registry delimiter source { phase, line, pending, statement } (first ++ rest) =
      reportFrom registry delimiter source
        { phase, line := line + 1, pending := waiting, statement } rest := by
  have filled' : first ++ rest ≠ [] := by simp [filled]
  rw [reportFrom_eq tokens filled', firstLine_eq, otherLines_eq, kept,
    textAccount_of_needsInput waits rfl]
  rfl

/-- A token is taken as soon as it is complete, wherever its beginning was read. -/
theorem reportFrom_take (tokens : phase.readsTokens = true) (tokens' : phase'.readsTokens = true)
    {token rest : Text} {found : List Text} (oneLine : '\n' ∉ token) (unended : Unended token)
    (filled : rest ≠ []) (closed : Closed (pending ++ token))
    (step : Cursor.step registry delimiter { phase, line := line + 1, statement }
        (pending ++ (token ++ seen rest)) =
      .ok { cursor := { phase := phase', line := line + 1, statement := statement' }
            remainder := seen rest
            found }) :
    reportFrom registry delimiter source { phase, line, pending, statement } (token ++ rest) =
      (reportFrom registry delimiter source { phase := phase', line, statement := statement' }
        rest).behind (found.map (·, ⟨source, line + 1⟩)) := by
  have events : Transition.events
      { cursor := { phase := phase', line := line + 1, statement := statement' }
        remainder := seen rest
        found } = found.map (Event.found · (line + 1)) := List.append_nil _
  have text : dropLineComment ((pending ++ token) ++ dropLineEnd rest.firstLine) ++ ['\n'] =
      pending ++ (token ++ seen rest) := by
    rw [closed, seen, List.append_assoc, List.append_assoc]
  rw [reportFrom_append tokens oneLine unended filled, reportFrom_eq tokens filled, text,
    textAccount_of_going step rfl, events, Account.after_andThen, Account.report_after,
    reportFrom_eq tokens' filled]
  rfl

/-! ## Layouts and literals -/

/-- A layout is passed over.  What was held back when it began is still held back behind it, with
a gap that may have grown. -/
theorem reportFrom_layout (tokens : phase.readsTokens = true) {held gap rest : Text}
    {report : Report} (closed : Closed held)
    (waits : ∀ {line gap}, IsGap gap → ∃ gap', IsGap gap' ∧
      Cursor.step registry delimiter { phase, line, statement } (held ++ gap) =
        .ok (Cursor.await { phase, line, statement } (held ++ gap')))
    (spaced : gap.IsGap) {layout : Layout} (filled : rest ≠ [])
    (behind : ∀ gap', IsGap gap' →
      reportFrom registry delimiter source
        { phase, line := line + feeds layout.text, pending := held ++ gap', statement } rest =
      report) :
    reportFrom registry delimiter source { phase, line, pending := held ++ gap, statement }
      (layout.text ++ rest) = report := by
  induction layout generalizing line gap with
  | nil =>
      have behind := behind gap spaced
      rwa [Layout.text_nil, feeds_of_notMem List.not_mem_nil, Int.add_zero] at behind
  | cons piece layout ih =>
      have filled' : Layout.text layout ++ rest ≠ [] := by simp [filled]
      rw [Layout.text_cons, feeds_append] at behind
      rw [Layout.text_cons, List.append_assoc]
      rcases piece.gap_or_lineBreak with ⟨c, same, blank⟩ | ends
      · have plain := isPlain_blank blank
        have spaced' := spaced.append (isGap_blank blank)
        rw [same, feeds_of_notMem plain.notMem, Int.zero_add] at behind
        rw [same, reportFrom_append tokens plain.notMem plain.unended filled', List.append_assoc]
        exact ih spaced' behind
      · obtain ⟨gap', spaced', waits'⟩ := waits (spaced.append (rfl : IsGap ['\n']))
        rw [← List.append_assoc] at waits'
        rw [ends.feeds_eq, ← Int.add_assoc] at behind
        rw [reportFrom_await tokens (ends.firstLine_eq _) (ends.otherLines_eq _) ends.filled
          (ends.hidden (closed.append spaced.closed)) waits']
        exact ih spaced' behind

/-- Before a token nothing is held back. -/
theorem reportFrom_before (tokens : phase.readsTokens = true) {gap rest : Text} {report : Report}
    (spaced : gap.IsGap) {layout : Layout} (filled : rest ≠ [])
    (behind : ∀ gap', IsGap gap' →
      reportFrom registry delimiter source
        { phase, line := line + feeds layout.text, pending := gap', statement } rest = report) :
    reportFrom registry delimiter source { phase, line, pending := gap, statement }
      (layout.text ++ rest) = report := by
  refine reportFrom_layout tokens closed_nil ?_ spaced filled behind
  intro line gap spaced
  exact ⟨[], .nil, step_of_allBlank tokens spaced.allBlank⟩

theorem unended_double {text rest : Text} (noReturn : ¬['\r', '\n'] <:+: text ++ '\n' :: rest)
    (oneLine : '\n' ∉ text) : Unended (double '\'' text) := by
  intro c last
  rw [getLast?_double] at last
  constructor
  · rintro rfl
    obtain ⟨others, rfl⟩ := List.getLast?_eq_some_iff.1 last
    exact noReturn ⟨others, rest, by simp⟩
  · rintro rfl
    exact oneLine (List.mem_of_getLast? last)

/-- A line that ends inside a literal leaves the literal open. -/
theorem reportFrom_literal_newline {gap piece : Text} {reading : Statement} (spaced : gap.IsGap)
    (oneLine : '\n' ∉ piece) (unended : Unended (double '\'' piece)) (before rest : Text) :
    reportFrom registry delimiter source
        { phase := .tuple
          line
          pending := gap ++ '\'' :: double '\'' before
          statement := some reading }
        (double '\'' piece ++ '\n' :: rest) =
      reportFrom registry delimiter source
        { phase := .tuple
          line := line + 1
          pending := gap ++ '\'' :: double '\'' (before ++ piece ++ ['\n'])
          statement := some reading }
        rest := by
  have oneLine : '\n' ∉ double '\'' piece := by rwa [mem_double]
  have held : gap ++ '\'' :: double '\'' before ++ double '\'' piece =
      gap ++ '\'' :: double '\'' (before ++ piece) := by
    simp [double_append]
  have kept : dropLineComment
      ((gap ++ '\'' :: double '\'' (before ++ piece)) ++ dropLineEnd ['\n']) =
      gap ++ '\'' :: double '\'' (before ++ piece) := by
    rw [dropLineEnd_of_forall (by simp), List.append_nil, spaced.closed, dropLineComment_open]
  have waiting : gap ++ '\'' :: double '\'' (before ++ piece) ++ ['\n'] =
      gap ++ '\'' :: double '\'' (before ++ piece ++ ['\n']) := by
    simp [double_append, double]
  have waits : Cursor.step registry delimiter
      { phase := .tuple, line := line + 1, statement := some reading }
      (gap ++ '\'' :: double '\'' (before ++ piece) ++ ['\n']) =
        .ok (Cursor.await { phase := .tuple, line := line + 1, statement := some reading }
          (gap ++ '\'' :: double '\'' (before ++ piece ++ ['\n']))) := by
    rw [waiting]
    exact step_openWaits rfl rfl spaced.allBlank _
  rw [reportFrom_append rfl oneLine unended (by simp), held]
  exact reportFrom_await rfl rfl rfl (by simp) kept waits

/-- The last line of a literal closes it. -/
theorem reportFrom_literal_end {gap piece rest : Text} {reading : Statement}
    (oneLine : '\n' ∉ piece) (before : Text) (filled : rest ≠ []) :
    reportFrom registry delimiter source
        { phase := .tuple
          line
          pending := gap ++ '\'' :: double '\'' before
          statement := some reading }
        (double '\'' piece ++ '\'' :: rest) =
      reportFrom registry delimiter source
        { phase := .tuple
          line
          pending := gap ++ literal (before ++ piece)
          statement := some reading }
        rest := by
  have oneLine : '\n' ∉ double '\'' piece ++ ['\''] := by simp [mem_double, oneLine]
  have unended := unended_concat (c := '\'') (by decide) (by decide) (double '\'' piece)
  have written : double '\'' piece ++ '\'' :: rest = (double '\'' piece ++ ['\'']) ++ rest := by
    simp
  have held : gap ++ '\'' :: double '\'' before ++ (double '\'' piece ++ ['\'']) =
      gap ++ literal (before ++ piece) := by
    simp [literal, double_append]
  rw [written, reportFrom_append rfl oneLine unended filled, held]

/-- An open literal goes on over line ends, and waits with all of its text. -/
theorem reportFrom_literal {gap text rest : Text} {reading : Statement} (spaced : gap.IsGap)
    (noReturn : ¬['\r', '\n'] <:+: text) (before : Text) (filled : rest ≠ []) :
    reportFrom registry delimiter source
        { phase := .tuple
          line
          pending := gap ++ '\'' :: double '\'' before
          statement := some reading }
        (double '\'' text ++ '\'' :: rest) =
      reportFrom registry delimiter source
        { phase := .tuple
          line := line + feeds (double '\'' text)
          pending := gap ++ literal (before ++ text)
          statement := some reading }
        rest := by
  -- The induction is on the line feeds of the literal: at each of them the literal waits.
  induction counted : text.count '\n' generalizing text line before with
  | zero =>
      have oneLine := List.count_eq_zero.1 counted
      have none : feeds (double '\'' text) = 0 := feeds_of_notMem (by rwa [mem_double])
      rw [reportFrom_literal_end oneLine before filled, none, Int.add_zero]
  | succ breaks ih =>
      have mem : '\n' ∈ text := by
        rw [← List.count_pos_iff]
        omega
      obtain ⟨piece, others, rfl, oneLine⟩ := List.eq_append_cons_of_mem mem
      have noReturn' : ¬['\r', '\n'] <:+: others := by
        rintro ⟨first, second, rfl⟩
        exact noReturn ⟨piece ++ '\n' :: first, second, by simp⟩
      have counted' : others.count '\n' = breaks := by
        rw [List.count_append, List.count_eq_zero_of_not_mem oneLine,
          List.count_cons_self] at counted
        omega
      have written : double '\'' (piece ++ '\n' :: others) =
          double '\'' piece ++ (['\n'] ++ double '\'' others) := by
        simp [double_append, double]
      have none : feeds (double '\'' piece) = 0 := feeds_of_notMem (by rwa [mem_double])
      have one : feeds ['\n'] = 1 := rfl
      rw [written, feeds_append, feeds_append, none, one, Int.zero_add, ← Int.add_assoc,
        List.append_assoc, List.append_assoc, List.singleton_append,
        reportFrom_literal_newline spaced oneLine (unended_double noReturn oneLine),
        ih noReturn' _ counted', List.append_assoc, List.append_assoc, List.singleton_append]

end SeedCatalog.Scan
