import NestedStyles.Proofs.Stylesheet.Onward

/-!
Each piece of a stylesheet is laid out so that what has been written still goes together with what has
been read: one fact for each kind of piece.
-/

set_option autoImplicit false

namespace NestedStyles

open Text Weave

namespace Layout

/-- That a piece has been laid out. -/
structure Laid (whole : Text) (l next : Layout) : Prop where
  aligned : Aligned whole next
  onward : Onward l next

/-- That a piece has been read behind blanks and nothing has been written since. -/
structure Meets (whole : Text) (start : Layout) (gap : Text) (c : Char) (more : Text) (l : Layout) :
    Prop extends Owes whole start gap c more l where
  shown : l.shown = start.shown

section Steps

variable {whole gap more : Text} {c : Char} {start l next : Layout}

theorem Laid.from {middle : Layout} (laid : Laid whole middle next) (onward : Onward l middle) :
    Laid whole l next :=
  ⟨laid.aligned, onward.trans laid.onward⟩

/-- Only what is read, what is still to be read and what is written count. -/
theorem Aligned.of_eq (aligned : Aligned whole l) (before : next.before = l.before)
    (rest : next.rest = l.rest) (shown : next.shown = l.shown) : Aligned whole next := by
  refine ⟨?_, ?_⟩
  · rw [before, rest]
    exact aligned.whole
  · rw [before, rest, shown]
    exact aligned.tracks

theorem Owes.respace (owes : Owes whole start gap c more l) (respaced : Respaced l next) :
    Owes whole start gap c more next := by
  refine ⟨?_, ?_, owes.blank, owes.solid, ?_⟩
  · rw [respaced.before, respaced.rest]
    exact owes.whole
  · rw [respaced.before]
    exact owes.read
  · rw [respaced.rest]
    exact owes.tracks

theorem Owes.before (owes : Owes whole start gap c more l) :
    l.before = more.reverse ++ c :: (gap.reverse ++ start.before) := by
  have read := congrArg List.reverse owes.read
  simpa using read

/-- A piece is met behind blanks. -/
theorem Aligned.meets (aligned : Aligned whole l) (blank : Blank gap) (solid : isBlank c = false)
    (split : l.rest = gap ++ c :: (more ++ next.rest))
    (before : next.before = more.reverse ++ c :: (gap.reverse ++ l.before))
    (shown : next.shown = l.shown) : Meets whole l gap c more next := by
  have read : next.before.reverse = l.before.reverse ++ (gap ++ c :: more) := by
    rw [before]
    simp
  refine ⟨⟨?_, read, blank, solid, ?_⟩, shown⟩
  · rw [read, ← aligned.whole, split]
    simp
  · rw [← split]
    exact aligned.tracks

/-- Of what else is noted nothing counts either. -/
theorem Meets.respace (meets : Meets whole start gap c more l) (respaced : Respaced l next)
    (shown : next.shown = l.shown) : Meets whole start gap c more next :=
  ⟨meets.toOwes.respace respaced, shown.trans meets.shown⟩

theorem Meets.leaveValue (meets : Meets whole start gap c more l) :
    Meets whole start gap c more l.leaveValue := by
  refine meets.respace (.leaveValue l) ?_
  rw [Layout.leaveValue]
  split <;> rfl

theorem Meets.leaveParens (meets : Meets whole start gap c more l) :
    Meets whole start gap c more l.leaveParens := by
  refine meets.respace (.leaveParens l) ?_
  rw [Layout.leaveParens]
  split <;> rfl

end Steps

section Signs

variable {whole gap : Text} {start l next : Layout} {c : Char}

/-- A sign in front of which blanks may be lost. -/
theorem laid_sign (meets : Meets whole start gap c [] l) (loose : holdsBefore c = false) :
    Laid whole l (l.write [c]) :=
  ⟨meets.write (fitting_of_eq meets.shown _ loose), .write [c] l⟩

/-- A sign in front of which blanks come and go. -/
theorem laid_brace (owes : Owes whole start gap c [] l) (same : bare l.shown = bare start.shown)
    (brace : c ∈ ['{', '}']) : Laid whole l (l.write [c]) := by
  refine ⟨owes.write ?_, .write [c] l⟩
  simp only [List.mem_cons, List.not_mem_nil, or_false] at brace
  rcases brace with rfl | rfl
  all_goals exact fitting_of_bare same _ rfl fun _ => rfl

/-- A sign around which blanks may be lost. -/
theorem laid_sign_skipBlanks (meets : Meets whole start gap c [] l)
    (loose : holdsBefore c = false) (free : ∀ before, holdsBehind (c :: before) = false) :
    Laid whole l (l.write [c]).skipBlanks := by
  have laid := laid_sign meets loose
  refine ⟨laid.aligned.skipBlanks ?_, laid.onward.trans (.skipBlanks _)⟩
  have before : (l.write [c]).before = c :: (gap.reverse ++ start.before) := meets.before
  rw [before, List.dropWhile_cons_of_neg (by simp [meets.solid])]
  exact free _

/-- Behind a sign at which blanks come and go, line breaks are kept and other blanks are written. -/
theorem laid_keepBreaks {style : PageStyle} (owes : Owes whole start gap c [] l)
    (laid : Laid whole l (l.write [c])) (free : c ∈ ['{', '}', ';', ',', ':'])
    (respaced : Respaced ((l.write [c]).keepBreaks style) next) : Laid whole l next := by
  have passed : ((l.write [c]).keepBreaks style).before = (l.write [c]).skipBlanks.before ∧
      ((l.write [c]).keepBreaks style).rest = (l.write [c]).skipBlanks.rest := by
    rw [keepBreaks_eq]
    exact ⟨rfl, rfl⟩
  have last : (l.write [c]).before = c :: (gap.reverse ++ start.before) := owes.before
  refine ⟨?_, (laid.onward.trans (.keepBreaks style _)).trans respaced.onward⟩
  exact laid.aligned.settleFree last free (respaced.before.trans passed.1)
    (respaced.rest.trans passed.2) (respaced.same.trans (grown_keepBreaks style _).same)

theorem laid_combinator (meets : Meets whole start gap c [] l) (joins : c ∈ ['>', '+', '~']) :
    Laid whole l (l.write [c]).skipBlanks := by
  simp only [List.mem_cons, List.not_mem_nil, or_false] at joins
  rcases joins with rfl | rfl | rfl
  all_goals exact laid_sign_skipBlanks meets rfl fun _ => rfl

theorem laid_equals (meets : Meets whole start gap '=' [] l) :
    Laid whole l (l.skipBlanks.write ['=']) := by
  have same : l.skipBlanks.write ['='] = (l.write ['=']).skipBlanks := by
    rw [skipBlanks_eq, skipBlanks_eq]
    rfl
  rw [same]
  exact laid_sign_skipBlanks meets rfl fun _ => rfl

theorem laid_closeParen (meets : Meets whole start gap ')' [] l) (flat : l.insideMap = false) :
    Laid whole l l.closeParen := by
  have left : l.closeParen = l.leaveParens.write [')'] := by
    rw [closeParen, (Respaced.leaveParens l).insideMap, flat]
    rfl
  rw [left]
  exact (laid_sign meets.leaveParens rfl).from (Respaced.leaveParens l).onward

theorem laid_comma (style : PageStyle) (meets : Meets whole start gap ',' [] l) :
    Laid whole l (l.comma style) := by
  have written := laid_sign meets rfl
  rw [comma]
  split
  · exact laid_keepBreaks meets.toOwes written (by decide) (.newline _)
  · exact laid_keepBreaks meets.toOwes written (by decide) (.space _)

theorem laid_semicolon (style : PageStyle) (meets : Meets whole start gap ';' [] l) :
    Laid whole l (l.semicolon style) := by
  let ready : Layout := { l with insideGrid := false }
  have noted : Respaced l ready := ⟨rfl, rfl, rfl, rfl, rfl⟩
  have meets : Meets whole start gap ';' [] ready := meets.respace noted rfl
  rw [semicolon]
  split
  · let done : Layout := { ready.leaveValue with insideStatement := false }
    have left : Respaced ready.leaveValue done := ⟨rfl, rfl, rfl, rfl, rfl⟩
    have onward : Onward l done := ((noted.trans (.leaveValue ready)).trans left).onward
    have meets : Meets whole start gap ';' [] done := meets.leaveValue.respace left rfl
    have written := laid_sign meets rfl
    dsimp only
    split
    · exact (laid_keepBreaks meets.toOwes written (by decide) (.refl _)).from onward
    · exact (laid_keepBreaks meets.toOwes written (by decide) (.newline _)).from onward
  · have written := laid_sign meets rfl
    exact (laid_keepBreaks meets.toOwes written (by decide) (.space _)).from noted.onward

/-- A line may be set off before a piece is written. -/
theorem Meets.separate {more : Text} (meets : Meets whole start gap c more l) :
    ∃ set, Meets whole set gap c more { l with page := l.page.separateLine } := by
  refine ⟨{ start with page := l.page.separateLine, spaced := l.spaced },
    ⟨meets.whole, meets.read, meets.blank, meets.solid, ?_⟩, rfl⟩
  have tracks := meets.tracks
  rw [← meets.shown] at tracks
  rcases shown_separateLine l with same | ⟨front, back, split, widened⟩
  · rw [← same] at tracks
    exact tracks
  · have wider := tracks.insert (by decide) Page.blank_break split
    rw [← widened] at wider
    exact wider

theorem laid_openBrace (style : PageStyle) (previous : Text)
    (meets : Meets whole start gap '{' [] l) : Laid whole l (l.openBrace style previous) := by
  unfold openBrace
  extract_lets left insideRule ready set spaced
  have noted : Respaced left ready := ⟨rfl, rfl, rfl, rfl, rfl⟩
  have onward : Onward l ready := ((Respaced.leaveValue l).trans noted).onward
  have meets : Meets whole start gap '{' [] ready := meets.leaveValue.respace noted rfl
  have separated : ∃ middle, Meets whole middle gap '{' [] set ∧ Onward ready set := by
    rw [show set = if _ then _ else _ from rfl]
    split
    · obtain ⟨middle, meets⟩ := meets.separate
      exact ⟨middle, meets, rfl, rfl, List.suffix_rfl⟩
    · exact ⟨start, meets, .refl ready⟩
  obtain ⟨middle, meets, further⟩ := separated
  have respaced : Respaced set spaced := by
    rw [show spaced = if _ then _ else _ from rfl]
    split
    · exact .unspace set
    split
    · exact .space set
    · exact (Respaced.space set).trans (.indent _)
  have owes : Owes whole middle gap '{' [] spaced := meets.toOwes.respace respaced
  have same : bare spaced.shown = bare middle.shown := by
    rw [respaced.same, meets.shown]
  have written := laid_brace owes same (by decide)
  exact (laid_keepBreaks owes written (by decide) (.newline _)).from
    ((onward.trans further).trans respaced.onward)

theorem laid_closeBrace (style : PageStyle) (previous : Text)
    (meets : Meets whole start gap '}' [] l) : Laid whole l (l.closeBrace style previous) := by
  unfold closeBrace
  extract_lets fresh trimmed left done kept apart
  have respaced : Respaced l trimmed.leaveValue := by
    have fresh : Respaced l fresh := (Respaced.outdent l).trans (.newline _)
    refine (fresh.trans ?_).trans (.leaveValue trimmed)
    rw [show trimmed = if _ then _ else _ from rfl]
    split
    · exact .trim _
    · exact .refl _
  have owes : Owes whole start gap '}' [] trimmed.leaveValue := meets.toOwes.respace respaced
  have same : bare trimmed.leaveValue.shown = bare start.shown := by
    rw [respaced.same, meets.shown]
  have written := laid_brace owes same (by decide)
  have noted : Respaced (left.keepBreaks style) (done.keepBreaks style) := by
    rw [keepBreaks_eq, keepBreaks_eq]
    exact ⟨rfl, rfl, rfl, rfl, rfl⟩
  have ended : Respaced (left.keepBreaks style) kept := noted.trans (.newline _)
  have set : Respaced kept apart := by
    rw [show apart = if _ then _ else _ from rfl]
    split
    · exact .refl _
    · exact .newlineAlways _
  have behind : Respaced apart (if apart.meets ')' then apart.trim else apart) := by
    split
    · exact .trim _
    · exact .refl _
  exact (laid_keepBreaks owes written (by decide) ((ended.trans set).trans behind)).from
    respaced.onward

/-- A piece with a space in front of it where blanks were read. -/
theorem laid_spaceIf {more : Text} {reason : Bool} (meets : Meets whole start gap c more l)
    (behind : holdsBefore c = true → gap ≠ [] → reason = true)
    (alone : reason = true → gap = [] → ¬ Gapped start.before.reverse →
      tightBehind start.before = true → tightBefore start.before c (more ++ l.rest) = true → False) :
    Laid whole l ((l.spaceIf reason).write (c :: more)) := by
  have spaced := Respaced.spaceIf reason l
  refine ⟨(meets.toOwes.respace spaced).write ?_, spaced.onward.trans (.write _ _)⟩
  rw [spaced.rest]
  exact fitting_spaceIf meets.shown behind alone

theorem follows_of_before {passed : Text} (before : l.before = c :: passed) (piece : Text) :
    l.follows piece = (asciiLower (passed.take piece.length) == piece.reverse) := by
  rw [follows, before]

theorem gapped_of_follows_space {passed : Text} (before : l.before = c :: passed)
    (follows : l.follows [' '] = true) : Gapped passed.reverse := by
  rw [follows_of_before before, beq_iff_eq] at follows
  cases passed with
  | nil => cases follows
  | cons d passed =>
      have space : [d.toLower] = [' '] := follows
      have blank : isBlank d = true := by
        rw [← isBlank_toLower, (List.cons.inj space).1]
        decide
      rw [List.reverse_cons]
      refine gapped_append ?_ (List.cons_ne_nil d []) passed.reverse
      exact fun e member => List.mem_singleton.mp member ▸ blank

theorem laid_colon (style : PageStyle) (meets : Meets whole start gap ':' [] l) :
    Laid whole l (l.colon style) := by
  unfold colon
  extract_lets grid ready
  have noted : Respaced l ready := ⟨rfl, rfl, rfl, rfl, rfl⟩
  have meets : Meets whole start gap ':' [] ready := meets.respace noted rfl
  refine Laid.from ?_ noted.onward
  split
  · have written := laid_sign meets rfl
    split
    · exact written
    · have spaced : Respaced ((ready.write [':']).keepBreaks style)
          ((ready.write [':']).space.keepBreaks style) := by
        rw [keepBreaks_eq, keepBreaks_eq]
        exact ⟨rfl, rfl, rfl, rfl, by rw [bare_shown, bare_shown]; rfl⟩
      exact laid_keepBreaks meets.toOwes written (by decide) (spaced.trans (.enterValue _))
  · have alone : ready.follows [' '] = true → gap = [] → ¬ Gapped start.before.reverse → False := by
      rintro follows rfl closed
      exact closed (gapped_of_follows_space meets.before follows)
    have spaced := Respaced.spaceIf (ready.follows [' ']) ready
    have owes := meets.toOwes.respace spaced
    have fitting (ahead : Text) :
        Fitting start gap ':' ahead (ready.spaceIf (ready.follows [' '])).shown :=
      fitting_spaceIf meets.shown (fun holds => by cases holds)
        fun follows empty closed _ _ => alone follows empty closed
    split
    · rename_i rest split
      have split : (ready.spaceIf (ready.follows [' '])).rest = [':'] ++ rest := split
      exact ⟨(owes.advance split).write (fitting _),
        (spaced.onward.trans (.advance split)).trans (.write _ _)⟩
    · exact ⟨owes.write (fitting _), spaced.onward.trans (.write _ _)⟩

theorem laid_exclamation (meets : Meets whole start gap '!' [] l) :
    Laid whole l (l.space.write ['!']) := by
  have spaced := Respaced.space l
  refine ⟨(meets.toOwes.respace spaced).write ⟨?_, fun _ _ => gapped_space l, ?_⟩,
    spaced.onward.trans (.write _ _)⟩
  · rw [spaced.same, meets.shown]
  · intro _ _ _ tight
    cases tight

theorem laid_plain {more : Text} {reason : Bool} (meets : Meets whole start gap c more l)
    (behind : gap ≠ [] → reason = true)
    (alone : reason = true → gap = [] → ¬ Gapped start.before.reverse →
      tightBehind start.before = false) : Laid whole l (l.plain reason (c :: more)) := by
  have written : Laid whole l ((l.spaceIf reason).write (c :: more)) := by
    refine laid_spaceIf meets (fun _ => behind) fun spaced empty closed tight _ => ?_
    rw [alone spaced empty closed] at tight
    cases tight
  unfold plain
  extract_lets done
  split
  · rename_i breaks
    have broken : startsSolid done.rest = true → False := by
      rw [Bool.and_eq_true, Layout.meets, beq_iff_eq] at breaks
      rw [startsSolid, breaks.2]
      decide
    have spaced := Respaced.newline done
    refine ⟨?_, written.onward.trans spaced.onward⟩
    refine written.aligned.settle blank_nil rfl rfl spaced.same ?_ ?_
    · rintro _ (none | gapped)
      · exact absurd rfl none
      · exact (grown_newline done).gapped gapped
    · exact fun _ _ solid => (broken solid).elim
  · exact written

end Signs

section Comments

variable {whole gap : Text} {start l : Layout}

theorem eq_cons_of_meets {c : Char} (meets : l.meets c = true) : ∃ rest, l.rest = c :: rest := by
  rw [Layout.meets, beq_iff_eq] at meets
  exact List.head?_eq_some_iff.mp meets

/-- The text of a block comment together with the passage that it asks to leave alone. -/
theorem exists_blockComment_eq (style : PageStyle) {ahead : Text} (split : l.rest = '*' :: ahead) :
    ∃ body rest, ahead = body ++ rest ∧ (rest = [] ∨ ∃ front, body = front ++ ['*', '/']) ∧
      l.blockComment style =
        (((l.newline.advance ('*' :: body) rest).write ('/' :: '*' :: body)).keepBreaks
          style).newline := by
  obtain ⟨body, others, scanned, rfl, ended⟩ := Scan.exists_blockComment ahead
  have opened : Scan.blockComment (l.newline.rest.drop 1) = (body, others) := by
    have rest : l.newline.rest = '*' :: (body ++ others) := split
    rw [rest]
    exact scanned
  unfold blockComment
  simp only [opened]
  split
  · obtain ⟨more, rest, passed, rfl, closed⟩ := Scan.exists_ignored others
    refine ⟨body ++ more, rest, by rw [List.append_assoc], ?_, ?_⟩
    · rcases closed with none | ⟨front, rfl⟩
      · exact Or.inl none
      · exact Or.inr ⟨body ++ front, by rw [List.append_assoc]⟩
    · simp only [passed]
      rfl
  · refine ⟨body, others, rfl, ended, ?_⟩
    simp only [List.append_nil]
    rfl

theorem laid_blockComment (style : PageStyle) (meets : Meets whole start gap '/' [] l)
    (star : l.meets '*' = true) : Laid whole l (l.blockComment style) := by
  obtain ⟨ahead, split⟩ := eq_cons_of_meets star
  obtain ⟨body, rest, rfl, ended, same⟩ := exists_blockComment_eq style split
  have split : l.newline.rest = ('*' :: body) ++ rest := split
  have broken := Respaced.newline l
  have owes := (meets.toOwes.respace broken).advance split
  let read := l.newline.advance ('*' :: body) rest
  let written := read.write ('/' :: '*' :: body)
  have aligned : Aligned whole written := by
    refine owes.write ⟨?_, fun _ _ => gapped_newline l, ?_⟩
    · show bare l.newline.shown = bare start.shown
      rw [broken.same, meets.shown]
    · intro _ _ _ tight
      cases tight
  have onward : Onward l written := (broken.onward.trans (.advance split)).trans (.write _ _)
  have passed := grown_keepBreaks style written
  have ended : startsSolid rest = true → tightBehind written.before = false := by
    intro solid
    rcases ended with rfl | ⟨front, rfl⟩
    · cases solid
    · have before : written.before =
          '/' :: '*' :: (front.reverse ++ '*' :: l.before) := by
        show ('*' :: (front ++ ['*', '/'])).reverse ++ l.before = _
        simp
      rw [before]
      rfl
  rw [same]
  refine ⟨?_, (onward.trans (.keepBreaks style _)).trans (Respaced.newline _).onward⟩
  refine aligned.settle (blank_takeWhile rest) ?_ (before_keepBreaks style written) ?_ ?_ ?_
  · show rest = rest.takeWhile isBlank ++ (written.keepBreaks style).rest
    rw [rest_keepBreaks]
    exact List.takeWhile_append_dropWhile.symm
  · exact (Respaced.newline _).same.trans passed.same
  · exact fun _ _ => gapped_newline _
  · intro _ tight solid
    rw [ended solid] at tight
    cases tight

theorem laid_lineComment (style : PageStyle) (meets : Meets whole start gap '/' [] l)
    (slash : l.meets '/' = true)
    (even : ∀ c ∈ l.rest, Scan.endsLineComment c = true → c = '\n') :
    Laid whole l (l.lineComment style) := by
  obtain ⟨ahead, begins⟩ := eq_cons_of_meets slash
  obtain ⟨comment, rest, scanned, split, ended⟩ := Scan.exists_lineComment even
  have solid : ∃ more, comment = '/' :: more := by
    rw [begins] at split
    cases comment with
    | nil =>
        rcases ended with rfl | ⟨next, rfl⟩
        · cases split
        · cases split
    | cons c more =>
        obtain ⟨rfl, -⟩ := List.cons.inj split
        exact ⟨more, rfl⟩
  obtain ⟨more, rfl⟩ := solid
  unfold lineComment
  simp only [scanned]
  let read := l.advance ('/' :: more) rest
  let written := read.space.write ('/' :: '/' :: more)
  have owes := (meets.toOwes.advance split).respace (.space _)
  have aligned : Aligned whole written := by
    refine owes.write ⟨?_, fun _ _ => gapped_space read, ?_⟩
    · show bare read.space.shown = bare start.shown
      rw [(Respaced.space read).same]
      exact congrArg bare meets.shown
    · intro _ _ _ tight
      cases tight
  have onward : Onward l written :=
    ((Onward.advance split).trans (Respaced.space read).onward).trans (.write _ _)
  refine ⟨aligned.keepBreaks style ?_, onward.trans (.keepBreaks style _)⟩
  intro _ blanks
  refine gapped_keepBreaks ?_
  rcases ended with rfl | ⟨next, rfl⟩
  · exact absurd rfl blanks
  · show '\n' ∈ ('\n' :: next).takeWhile isBlank
    rw [List.takeWhile_cons_of_pos (by decide)]
    exact List.mem_cons_self

end Comments

section Through

variable {whole gap : Text} {start l : Layout} {c : Char}

/-- What is still to be read ends as the whole does. -/
theorem getLast?_rest_ne {d : Char} (whole' : l.before.reverse ++ l.rest = whole)
    (closed : whole.getLast? ≠ some d) : l.rest.getLast? ≠ some d := by
  intro last
  refine closed ?_
  have nonempty : l.rest ≠ [] := by
    rintro empty
    rw [empty] at last
    cases last
  rw [← whole', List.getLast?_append_of_ne_nil _ nonempty, last]

/-- A sign is written together with what follows it up to an end mark. -/
theorem exists_writeThrough (owes : Owes whole start gap c [] l)
    (fitting : ∀ ahead, Fitting start gap c ahead l.shown) (closed : whole.getLast? ≠ some '\\')
    (ends : Text) : ∃ piece rest, l.rest = piece ++ rest ∧
      l.writeThrough [c] ends = .ok ((l.advance piece rest).write (c :: piece)) ∧
      Laid whole l ((l.advance piece rest).write (c :: piece)) ∧
      (rest = [] ∨ ∃ front d, piece = front ++ [d] ∧ (d ∈ ends ∨ d = '\n')) := by
  obtain ⟨piece, rest, found, split, ended⟩ :=
    Scan.exists_through? ends l.rest (getLast?_rest_ne owes.whole closed)
  refine ⟨piece, rest, split, ?_, ⟨?_, ?_⟩, ended⟩
  · rw [writeThrough, readThrough, found]
    rfl
  · exact (owes.advance split).write (fitting _)
  · exact (Onward.advance split).trans (.write _ _)

/-- How blanks stand behind a quoted text: it ends the stylesheet, or with blanks, or with a mark next
to which blanks come and go. -/
def Quoted (l : Layout) : Prop :=
  l.rest = [] ∨ Gapped l.before.reverse ∨ tightBehind l.before = false

theorem quoted_keepBreaks (style : PageStyle) (quoted : l.Quoted) : (l.keepBreaks style).Quoted := by
  rw [Quoted, before_keepBreaks, rest_keepBreaks]
  rcases quoted with none | behind
  · rw [none]
    exact Or.inl rfl
  · by_cases empty : l.rest.takeWhile isBlank = []
    · rw [empty]
      exact Or.inr behind
    · refine Or.inr (Or.inl ?_)
      rw [List.reverse_append, List.reverse_reverse]
      exact gapped_append (blank_takeWhile l.rest) empty l.before.reverse

theorem exists_quotation {reason : Bool} (style : PageStyle) (meets : Meets whole start gap c [] l)
    (quote : isQuote [c] = true) (behind : gap ≠ [] → reason = true)
    (alone : reason = true → gap = [] → ¬ Gapped start.before.reverse →
      tightBehind start.before = false) (closed : whole.getLast? ≠ some '\\') :
    ∃ next, l.quotation style reason [c] = .ok next ∧ Laid whole l next ∧ next.Quoted := by
  have spaced := Respaced.spaceIf reason l
  have fitting (ahead : Text) : Fitting start gap c ahead (l.spaceIf reason).shown := by
    refine fitting_spaceIf meets.shown (fun _ => behind) fun spaced empty closed tight _ => ?_
    rw [alone spaced empty closed] at tight
    cases tight
  obtain ⟨piece, rest, split, made, laid, ended⟩ :=
    exists_writeThrough (meets.toOwes.respace spaced) fitting closed [c]
  let written := ((l.spaceIf reason).advance piece rest).write (c :: piece)
  have marks : c = '"' ∨ c = '\'' := by
    rw [isQuote, Bool.or_eq_true, beq_iff_eq, beq_iff_eq] at quote
    exact quote.imp (fun same => (List.cons.inj same).1) fun same => (List.cons.inj same).1
  have last (front : Text) (d : Char) : (front ++ [d]).reverse ++ (l.spaceIf reason).before =
      d :: (front.reverse ++ (l.spaceIf reason).before) := by
    rw [List.reverse_append]
    rfl
  -- Behind a mark blanks come and go; a line break is a blank itself.
  have end' : rest = [] ∨ (∃ before, written.before = c :: before) ∨
      (∃ before, written.before = '\n' :: before) ∧ Gapped written.shown := by
    rcases ended with none | ⟨front, d, rfl, mark | rfl⟩
    · exact Or.inl none
    · obtain rfl := List.mem_singleton.mp mark
      exact Or.inr (Or.inl ⟨_, last front d⟩)
    · refine Or.inr (Or.inr ⟨⟨_, last front '\n'⟩, ?_⟩)
      rw [shown_write, ← List.cons_append, ← List.append_assoc]
      exact gapped_append Page.blank_break (List.cons_ne_nil _ _) _
  have quoted : written.Quoted := by
    rcases end' with none | ⟨before, last⟩ | ⟨⟨before, last⟩, -⟩
    · exact Or.inl none
    · rw [Quoted, last]
      rcases marks with rfl | rfl <;> exact Or.inr (Or.inr rfl)
    · rw [Quoted, last, List.reverse_cons]
      exact Or.inr (Or.inl (gapped_append Page.blank_break (List.cons_ne_nil _ _) _))
  refine ⟨written.keepBreaks style, ?_, ⟨laid.aligned.keepBreaks style ?_, ?_⟩,
    quoted_keepBreaks style quoted⟩
  · rw [quotation, made]
    rfl
  · intro holds blanks
    rcases end' with none | ⟨before, last⟩ | ⟨-, gapped⟩
    · have empty : rest.takeWhile isBlank ≠ [] := blanks
      rw [none] at empty
      exact absurd rfl empty
    · have holds : holdsBehind (written.before.dropWhile isBlank) = true := holds
      rw [last] at holds
      rcases marks with rfl | rfl <;> cases holds
    · exact (grown_keepBreaks style written).gapped gapped
  · exact (spaced.onward.trans laid.onward).trans (.keepBreaks style written)

/-- A sign with a space in front of it is written together with what follows it up to an end mark. -/
theorem exists_enclosed {afterBlank : Bool} (meets : Meets whole start gap c [] l)
    (behind : afterBlank = true ↔ gap ≠ []) (closed : whole.getLast? ≠ some '\\') (ends : Text) :
    ∃ next, (l.spaceIf afterBlank).writeThrough [c] ends = .ok next ∧ Laid whole l next := by
  have spaced := Respaced.spaceIf afterBlank l
  have fitting (ahead : Text) : Fitting start gap c ahead (l.spaceIf afterBlank).shown :=
    fitting_spaceIf meets.shown (fun _ => behind.mpr) fun blank empty _ _ _ => behind.mp blank empty
  obtain ⟨piece, rest, -, made, laid, -⟩ :=
    exists_writeThrough (meets.toOwes.respace spaced) fitting closed ends
  exact ⟨_, made, laid.from spaced.onward⟩

/-- A piece that runs up to an end of names and not into blanks ends with the colon. -/
theorem eq_colon_of_bare {piece front : Text} {d : Char} (cut : piece = bare piece)
    (whole : piece = front ++ [d]) (mark : d ∈ [':', ' '] ∨ d = '\n') : d = ':' := by
  have unblank : isBlank d = false := by
    refine @isBlank_of_getLast?_bare piece d ?_
    rw [← cut, whole, List.getLast?_concat]
  simp only [List.mem_cons, List.not_mem_nil, or_false] at mark
  rcases mark with (rfl | rfl) | rfl
  · rfl
  · cases unblank
  · cases unblank

/-- A name that is read is written behind its sign, and a space behind it if it ends with its mark. -/
theorem exists_readName (owes : Owes whole start gap c [] l)
    (fitting : ∀ ahead, Fitting start gap c ahead l.shown) (closed : whole.getLast? ≠ some '\\')
    (named : l.rest ≠ []) :
    ∃ name next, (l.write [c]).readName = .ok (name, next) ∧ Laid whole l next := by
  obtain ⟨last, ends⟩ := Option.isSome_iff_exists.mp
    (List.getLast?_isSome.mpr (Scan.nameAhead_ne_nil named))
  have ends : (Scan.nameAhead (l.write [c]).rest).getLast? = some last := ends
  rw [readName, ends]
  dsimp only
  split
  · obtain ⟨piece, rest, found, split, ended⟩ :=
      Scan.exists_through? [':', ' '] l.rest (getLast?_rest_ne owes.whole closed)
    obtain ⟨trailing, blank, cut⟩ := exists_eq_bare_append piece
    have split : l.rest = bare piece ++ (trailing ++ rest) := by
      rw [← List.append_assoc, ← cut, split]
    let verbatim := (l.advance (bare piece) (trailing ++ rest)).write (c :: bare piece)
    let named := ((l.write [c]).advance piece rest).write (bare piece)
    have aligned : Aligned whole verbatim := (owes.advance split).write (fitting _)
    have same : named.shown = verbatim.shown := by
      show (((l.write [c]).advance piece rest).write (bare piece)).shown =
        ((l.advance (bare piece) (trailing ++ rest)).write (c :: bare piece)).shown
      rw [shown_write, shown_write]
      show (l.write [c]).shown ++ _ = l.shown ++ _
      rw [shown_write, List.append_assoc]
      rfl
    refine ⟨bare piece, named.space, ?_, ?_, ?_⟩
    · have reads : (l.write [c]).readThrough [':', ' '] =
          .ok (piece, (l.write [c]).advance piece rest) := by
        have found : Scan.through? [':', ' '] (l.write [c]).rest = some (piece, rest) := found
        rw [readThrough, found]
      rw [reads]
      rfl
    · refine aligned.settle blank rfl ?_ ?_ (fun _ _ => gapped_space named) ?_
      · show piece.reverse ++ l.before = trailing.reverse ++ ((bare piece).reverse ++ l.before)
        rw [← List.append_assoc, ← List.reverse_append, ← cut]
      · rw [(Respaced.space named).same, same]
      · intro _ tight solid
        -- The name ends with a colon, or with a blank or the whole text and then nothing joins it.
        obtain rfl := eq_nil_of_startsSolid blank solid
        rw [List.append_nil] at cut
        rcases ended with rfl | ⟨front, d, whole, mark⟩
        · cases solid
        · have colon := eq_colon_of_bare cut whole mark
          have before : verbatim.before = (bare piece).reverse ++ l.before := rfl
          rw [before, ← cut, whole, colon, List.reverse_append] at tight
          cases tight
    · have split : (l.write [c]).rest = piece ++ rest := by
        rw [cut, List.append_assoc]
        exact split
      exact (((Onward.write [c] l).trans (.advance split)).trans (.write _ _)).trans
        (Respaced.space named).onward
  · exact ⟨_, _, rfl, owes.write (fitting _), .write _ _⟩

theorem exists_atRule {afterBlank : Bool} (meets : Meets whole start gap '@' [] l)
    (behind : afterBlank = true ↔ gap ≠ []) (closed : whole.getLast? ≠ some '\\')
    (named : whole.getLast? ≠ some '@') :
    ∃ next, l.atRule afterBlank = .ok next ∧ Laid whole l next := by
  have spaced := Respaced.spaceIf afterBlank l
  have fitting (ahead : Text) : Fitting start gap '@' ahead (l.spaceIf afterBlank).shown :=
    fitting_spaceIf meets.shown (fun _ => behind.mpr) fun blank empty _ _ _ => behind.mp blank empty
  rw [atRule]
  split
  · exact exists_enclosed meets behind closed ['\x7d']
  · have ahead : l.rest ≠ [] := by
      intro empty
      refine named ?_
      rw [← meets.whole, empty, List.append_nil, meets.before, List.getLast?_reverse]
      rfl
    rw [← spaced.rest] at ahead
    obtain ⟨name, next, read, laid⟩ :=
      exists_readName (meets.toOwes.respace spaced) fitting closed ahead
    rw [read]
    have noted {after : Layout} (respaced : Respaced next after) (shown : after.shown = next.shown) :
        ∃ result, Except.ok after = (Except.ok result : Except LayoutFault Layout) ∧
          Laid whole l result :=
      ⟨after, rfl, laid.aligned.of_eq respaced.before respaced.rest shown,
        (spaced.onward.trans laid.onward).trans respaced.onward⟩
    simp only [bind, Except.bind, pure, Except.pure]
    split
    · exact noted (.enterValue next) rfl
    split
    · exact noted ⟨rfl, rfl, rfl, rfl, rfl⟩ rfl
    split
    · exact noted ⟨rfl, rfl, rfl, rfl, rfl⟩ rfl
    · exact noted (.refl next) rfl

/-- Where no blanks were read, a piece can be written as it is. -/
theorem fitting_nil {shown : Text} (same : shown = start.shown) (ahead : Text) :
    Fitting start [] c ahead shown := by
  refine ⟨congrArg bare same, ?_, fun _ _ _ _ => same⟩
  rintro _ (gapped | gapped)
  · exact absurd rfl gapped
  · rw [same]
    exact gapped

/-- A letter follows no blanks. -/
theorem eq_nil_of_follows {passed : Text} {d : Char} {piece : Text} (blank : Blank gap)
    (before : l.before = c :: (gap.reverse ++ passed)) (solid : isBlank d = false)
    (follows : l.follows (piece ++ [d]) = true) : gap = [] := by
  rw [follows_of_before before, beq_iff_eq, List.reverse_append] at follows
  cases reversed : gap.reverse with
  | nil => exact List.reverse_eq_nil_iff.mp reversed
  | cons e others =>
      rw [reversed, List.length_append, List.length_singleton, List.cons_append, List.take_succ_cons,
        asciiLower, List.map_cons] at follows
      have same : e.toLower = d := (List.cons.inj follows).1
      have member : e ∈ gap := List.mem_reverse.mp (reversed ▸ List.mem_cons_self)
      rw [← same, isBlank_toLower, blank e member] at solid
      cases solid

theorem Laid.enterParens {next : Layout} {passed : Text} (laid : Laid whole l next)
    (before : next.before = '(' :: passed) : Laid whole l next.skipBlanks.enterParens := by
  have skipped : Aligned whole next.skipBlanks := by
    refine laid.aligned.skipBlanks ?_
    rw [before]
    rfl
  have entered := Respaced.enterParens next.skipBlanks
  exact ⟨skipped.of_eq entered.before entered.rest rfl,
    (laid.onward.trans (.skipBlanks next)).trans entered.onward⟩

theorem Laid.leaveParens {next : Layout} (laid : Laid whole l next) :
    Laid whole l next.leaveParens := by
  have left := Respaced.leaveParens next
  refine ⟨laid.aligned.of_eq left.before left.rest ?_, laid.onward.trans left.onward⟩
  rw [Layout.leaveParens]
  split <;> rfl

/-- An address without quotes is written as it is. -/
theorem exists_address (meets : Meets whole start gap '(' [] l)
    (url : l.follows "url".toList = true) (closed : whole.getLast? ≠ some '\\')
    (afterBlank : Bool) (previous : Text) :
    ∃ next, l.openParen afterBlank previous = .ok next ∧ Laid whole l next := by
  have before : l.before = '(' :: (gap.reverse ++ start.before) := meets.before
  have empty : gap = [] := by
    have follows : l.follows ("ur".toList ++ ['l']) = true := url
    exact eq_nil_of_follows meets.blank before (by decide) follows
  subst empty
  have written : Laid whole l (l.write ['(']) :=
    ⟨meets.toOwes.write (fitting_nil meets.shown _), .write _ _⟩
  have entered := written.enterParens (before : (l.write ['(']).before = _)
  have solid {c : Char} {rest : Text}
      (split : (l.write ['(']).skipBlanks.enterParens.rest = c :: rest) : isBlank c = false :=
    solid_of_skipBlanks (l := l.write ['(']) split
  rw [openParen, if_pos url]
  generalize (l.write ['(']).skipBlanks.enterParens = inside at *
  dsimp only
  split
  · exact ⟨inside, rfl, entered⟩
  · rename_i c rest split
    split
    · exact ⟨inside, rfl, entered⟩
    · have meets : Meets whole inside [] c [] (inside.advance [c] rest) :=
        entered.aligned.meets blank_nil (solid split) split rfl rfl
      obtain ⟨piece, others, -, made, laid, -⟩ :=
        exists_writeThrough meets.toOwes (fitting_nil meets.shown) closed [')']
      have split : inside.rest = [c] ++ rest := split
      rw [made]
      exact ⟨_, rfl, (laid.from (entered.onward.trans (.advance split))).leaveParens⟩

theorem exists_openParen {afterBlank : Bool} {previous : Text}
    (meets : Meets whole start gap '(' [] l) (behind : afterBlank = true ↔ gap ≠ [])
    (plain : previous ≠ ['$']) (closed : whole.getLast? ≠ some '\\') :
    ∃ next, l.openParen afterBlank previous = .ok next ∧ Laid whole l next := by
  by_cases url : l.follows "url".toList = true
  · exact exists_address meets url closed afterBlank previous
  have before : l.before = '(' :: (gap.reverse ++ start.before) := meets.before
  have written :
      Laid whole l ((l.spaceIf (afterBlank || l.follows "with".toList)).write ['(']) := by
    refine laid_spaceIf meets ?_ ?_
    · intro _ blanks
      rw [behind.mpr blanks, Bool.true_or]
    · rintro reason rfl _ _ tight
      have blank : afterBlank = false := by
        rw [← Bool.not_eq_true, behind]
        exact fun nonempty => nonempty rfl
      rw [blank, Bool.false_or, follows_of_before before] at reason
      have word : (asciiLower (start.before.take 4) == "htiw".toList) = true := reason
      rw [tightBefore, word] at tight
      cases tight
  have before : ((l.spaceIf (afterBlank || l.follows "with".toList)).write ['(']).before =
      '(' :: (gap.reverse ++ start.before) := (Respaced.spaceIf _ l).before.trans before
  rw [openParen, if_neg url]
  dsimp only
  split
  · rename_i dollar
    exact absurd dollar.2 plain
  · exact ⟨_, rfl, written.enterParens before⟩

end Through

end Layout

end NestedStyles
