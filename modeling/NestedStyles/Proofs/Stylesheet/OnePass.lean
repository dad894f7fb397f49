import NestedStyles.Proofs.Stylesheet.Rounds

/-!
Separation in one pass: a line is cut before all its joined marks at once, the padding in front of the
marks is dropped, and every piece but the first gets the indentation of the line. The marks stay, in
their order, and so does everything else but blanks.
-/

set_option autoImplicit false

namespace NestedStyles

open Text

namespace Region

/-- The mark that a text starts with, if it ends there as a word does. -/
def mark? (text : Text) : Option Text :=
  marks.find? fun mark => (after? mark text).any endsWord

def marksIn : Text → List Text
  | [] => []
  | c :: rest => (mark? (c :: rest)).toList ++ marksIn rest

/-- That a mark stands on a line behind something that is no blank. -/
def Joined (line : Text) : Prop :=
  ∃ front mark, line = front ++ mark ∧ startsWithMark mark = true ∧ ∃ d ∈ front, isBlank d = false

/-- The pieces of a line, cut before each mark that something other than blanks stands in front of. The
flag says that such a thing was read. -/
def piecesFrom : Bool → Text → List Text
  | _, [] => [[]]
  | behind, c :: rest =>
    let pieces := (piecesFrom (behind || !isBlank c) rest).modifyHead (c :: ·)
    if behind && startsWithMark (c :: rest) then [] :: pieces else pieces

/-- The pieces without the padding at their ends, but the last one as it is. -/
def trimmed (pieces : List Text) : List Text :=
  pieces.dropLast.map (dropTrailing isPadding) ++ pieces.getLast?.toList

/-- The pieces with padding in front, but the first one as it is. -/
def indented (padding : Text) : List Text → List Text
  | [] => []
  | first :: others => first :: others.map (padding ++ ·)

/-- A line with each mark on a line of its own, in one pass. -/
def onePassLine (line : Text) : List Text :=
  indented (indentation line) (trimmed (piecesFrom false line))

/-- The text with each mark on a line of its own, in one pass. -/
def onePass (text : Text) : Text :=
  join ['\n'] ((splitAt '\n' text).flatMap onePassLine)

section Marks

variable {mark text gap rest : Text}

theorem isWordChar_of_isBlank {c : Char} (blank : isBlank c = true) : isWordChar c = false := by
  have codes : ∀ n ∈ [9, 10, 11, 12, 13, 28, 29, 30, 31, 32, 0x85, 0xA0, 0x1680, 0x2000, 0x2001,
      0x2002, 0x2003, 0x2004, 0x2005, 0x2006, 0x2007, 0x2008, 0x2009, 0x200A, 0x2028, 0x2029,
      0x202F, 0x205F, 0x3000], isWordChar (Char.ofNat n) = false := by decide +kernel
  rw [← Char.ofNat_toNat c]
  refine codes c.toNat ?_
  simp only [isBlank, Bool.or_eq_true, Bool.and_eq_true, decide_eq_true_iff, beq_iff_eq] at blank
  simp only [List.mem_cons, List.not_mem_nil, or_false]
  omega

/-- No end of a mark is read behind blanks as a comment is. -/
theorem not_prefix_of_mem_tails {back : Text} (among : mark ∈ marks) (inner : back ∈ mark.tail.tails)
    (filled : back ≠ []) (blank : Blank gap) : ¬ back <+: gap ++ '/' :: '/' :: rest := by
  have clear : ∀ mark ∈ marks, ∀ back ∈ mark.tail.tails, back ≠ [] →
      ¬ (back.dropWhile isBlank <+: ['/', '/'] ∨ ['/', '/'] <+: back.dropWhile isBlank) := by
    decide
  intro read
  refine clear mark among back inner filled ?_
  rcases List.prefix_or_prefix_of_prefix read (List.prefix_append gap _) with short | long
  · have none : back.dropWhile isBlank = [] :=
      List.dropWhile_eq_nil_iff.mpr fun c member => blank c (short.subset member)
    rw [none]
    exact Or.inl List.nil_prefix
  · obtain ⟨more, rfl⟩ := long
    have behind := (List.prefix_append_right_inj gap).mp read
    have same : more.dropWhile isBlank = more := by
      cases more with
      | nil => rfl
      | cons c more =>
          obtain ⟨rfl, -⟩ := List.cons_prefix_cons.mp behind
          rfl
    rw [List.dropWhile_append_of_pos blank, same]
    exact List.prefix_or_prefix_of_prefix behind ⟨rest, rfl⟩

theorem endsWord_comment (blank : Blank gap) : endsWord (gap ++ '/' :: rest) = true := by
  have slash : isWordChar '/' = false := by decide +kernel
  cases gap with
  | nil => rw [List.nil_append, endsWord, slash, Bool.not_false]
  | cons c gap =>
      have ends := isWordChar_of_isBlank (blank c List.mem_cons_self)
      rw [List.cons_append, endsWord, ends, Bool.not_false]

/-- A mark begins or does not, whatever comment follows behind blanks. -/
theorem ends_append (among : mark ∈ marks) (filled : text ≠ []) (blank : Blank gap) :
    (after? mark (text ++ (gap ++ '/' :: '/' :: rest))).any endsWord =
      (after? mark text).any endsWord := by
  by_cases front : mark <+: text
  · obtain ⟨more, rfl⟩ := front
    rw [List.append_assoc, after?_append, after?_append, Option.any_some, Option.any_some]
    cases more with
    | nil => exact endsWord_comment blank
    | cons c more => rfl
  · have longer : ¬ mark <+: text ++ (gap ++ '/' :: '/' :: rest) := by
      intro read
      rcases List.prefix_or_prefix_of_prefix read (List.prefix_append text _) with short | long
      · exact front short
      · -- The rest of the mark would be read in the blanks and the slashes.
        obtain ⟨back, rfl⟩ := long
        obtain ⟨c, text, rfl⟩ := List.exists_cons_of_ne_nil filled
        refine not_prefix_of_mem_tails among ?_ ?_ blank ((List.prefix_append_right_inj _).mp read)
        · exact (List.mem_tails _ _).mpr (List.suffix_append text back)
        · rintro rfl
          exact front (by simp)
    rw [after?, after?, if_neg, if_neg]
    · rwa [List.isPrefixOf_iff_prefix]
    · rwa [List.isPrefixOf_iff_prefix]

theorem isSome_mark? (text : Text) : (mark? text).isSome = startsWithMark text := by
  rw [Bool.eq_iff_iff, mark?, List.find?_isSome, startsWithMark, List.any_eq_true]

theorem mark?_append (filled : text ≠ []) (blank : Blank gap) :
    mark? (text ++ (gap ++ '/' :: '/' :: rest)) = mark? text :=
  List.find?_congr fun _ among => ends_append among filled blank

theorem startsWithMark_append (filled : text ≠ []) (blank : Blank gap) :
    startsWithMark (text ++ (gap ++ '/' :: '/' :: rest)) = startsWithMark text := by
  rw [← isSome_mark?, mark?_append filled blank, isSome_mark?]

theorem startsWithMark_of_isBlank {c : Char} (blank : isBlank c = true) :
    startsWithMark (c :: rest) = false := by
  refine startsWithMark_of_ne ?_
  rintro word same
  rw [(List.cons.inj same).1] at blank
  cases blank

/-- The marks in front of a comment and those from there on. -/
theorem marksIn_append (blank : Blank gap) :
    marksIn (text ++ (gap ++ '/' :: '/' :: rest)) = marksIn text ++ marksIn ('/' :: '/' :: rest) := by
  induction text with
  | cons c text ih =>
      have same : mark? (c :: (text ++ (gap ++ '/' :: '/' :: rest))) = mark? (c :: text) :=
        mark?_append (List.cons_ne_nil c text) blank
      simp only [List.cons_append, marksIn] at ih ⊢
      rw [same, ih, List.append_assoc]
  | nil =>
      induction gap with
      | nil => rfl
      | cons c gap ih =>
          rw [Blank, List.forall_mem_cons] at blank
          have none : mark? (c :: (gap ++ '/' :: '/' :: rest)) = none := by
            rw [← Option.not_isSome_iff_eq_none, isSome_mark?, startsWithMark_of_isBlank blank.1]
            decide
          have behind := ih blank.2
          simp only [List.nil_append, List.cons_append, marksIn] at behind ⊢
          rw [none, behind]
          rfl

theorem outlasts_marksIn (kept : List Text) : Outlasts fun text => marksIn text = kept := by
  intro front old new rest blank other holds
  rwa [marksIn_append other, ← marksIn_append blank]

theorem outlasts_withoutBlanks (kept : Text) : Outlasts fun text => withoutBlanks text = kept := by
  intro front old new rest blank other holds
  rw [withoutBlanks_append, withoutBlanks_append, withoutBlanks_of_blank blank] at holds
  rwa [withoutBlanks_append, withoutBlanks_append, withoutBlanks_of_blank other]

end Marks

section Line

variable {line front mark : Text}

/-- A line is cut only if a mark is joined on it. -/
theorem lastCut?_of_not_joined (apart : ¬ Joined line) : lastCut? [] line = none := by
  cases found : lastCut? [] line with
  | none => rfl
  | some parts =>
      obtain ⟨front, mark⟩ := parts
      have cut := cutAt_of_lastCut? found
      rw [List.reverse_nil, List.nil_append] at cut
      cases cut with
      | @mk front gap word before d solid padded starts last =>
          refine absurd ⟨front ++ d :: gap, '/' :: '/' :: word, by simp, starts, d, ?_, solid⟩ apart
          exact List.mem_append_right _ List.mem_cons_self

theorem blank_of_lastCut? {before : Text} (none : lastCut? before (front ++ mark) = none)
    (starts : startsWithMark mark = true) :
    ∀ d ∈ (front.reverse ++ before).find? fun c => !isPadding c, isBlank d = true := by
  induction front generalizing before with
  | nil =>
      obtain ⟨word, rfl⟩ := exists_of_startsWithMark starts
      exact (lastCut?_cons_eq_none_iff.mp none).2 starts
  | cons c front ih =>
      have behind := ih (lastCut?_cons_eq_none_iff.mp none).1
      rwa [List.reverse_cons, List.append_assoc, List.singleton_append]

/-- Where blanks are padding, nothing but padding stands in front of a mark that is not cut off. -/
theorem forall_blank_of_lastCut? {before : Text} (none : lastCut? before (front ++ mark) = none)
    (starts : startsWithMark mark = true)
    (blanks : ∀ c ∈ front.reverse ++ before, isBlank c = true → isPadding c = true) :
    Blank (front.reverse ++ before) := by
  intro d member
  by_contra solid
  have other : isPadding d ≠ true := fun padding => solid (isBlank_of_isPadding padding)
  have some : ((front.reverse ++ before).find? fun c => !isPadding c).isSome = true := by
    rw [List.find?_isSome]
    exact ⟨d, member, by rw [Bool.eq_false_of_not_eq_true other, Bool.not_false]⟩
  obtain ⟨e, nearest⟩ := Option.isSome_iff_exists.mp some
  have blank := blank_of_lastCut? none starts e nearest
  have padding := blanks e (List.mem_of_find?_eq_some nearest) blank
  have stops := List.find?_some nearest
  rw [padding] at stops
  cases stops

theorem not_joined_of_lastCut? (none : lastCut? [] line = none)
    (blanks : ∀ c ∈ line, isBlank c = true → isPadding c = true) : ¬ Joined line := by
  rintro ⟨front, mark, rfl, starts, d, inside, solid⟩
  have blank := forall_blank_of_lastCut? none starts (by
    intro c member
    rw [List.append_nil, List.mem_reverse] at member
    exact blanks c (List.mem_append_left _ member))
  rw [List.append_nil] at blank
  rw [blank d (List.mem_reverse.mpr inside)] at solid
  cases solid

/-- A line without a joined mark is one piece. -/
theorem piecesFrom_of_apart {behind : Bool}
    (apart : ∀ front mark, line = front ++ mark → startsWithMark mark = true →
      behind = false ∧ Blank front) : piecesFrom behind line = [line] := by
  induction line generalizing behind with
  | nil => rfl
  | cons c rest ih =>
      have none : (behind && startsWithMark (c :: rest)) = false := by
        cases starts : startsWithMark (c :: rest) with
        | false => rw [Bool.and_false]
        | true => rw [(apart [] (c :: rest) rfl starts).1, Bool.false_and]
      have others : piecesFrom (behind || !isBlank c) rest = [rest] := by
        refine ih fun front mark split starts => ?_
        obtain ⟨first, blank⟩ := apart (c :: front) mark (by rw [split]; rfl) starts
        rw [Blank, List.forall_mem_cons] at blank
        rw [first, blank.1]
        exact ⟨rfl, blank.2⟩
      rw [piecesFrom, none, others]
      rfl

theorem piecesFrom_padding {gap : Text} (blank : Blank gap) (starts : startsWithMark mark = true)
    (word : Text) (comment : mark = '/' :: word) (alone : piecesFrom true word = [word]) :
    piecesFrom true (gap ++ mark) = [gap, mark] := by
  induction gap with
  | nil =>
      rw [comment] at starts
      rw [List.nil_append, comment, piecesFrom, starts, Bool.true_or, alone]
      rfl
  | cons c gap ih =>
      rw [Blank, List.forall_mem_cons] at blank
      rw [List.cons_append, piecesFrom, startsWithMark_of_isBlank blank.1, Bool.true_or, ih blank.2]
      rfl

/-- The last mark of a line begins the last piece, and the other pieces are those of the text in front
of it. -/
theorem exists_piecesFrom_append {gap word : Text} {behind : Bool} (blank : Blank gap)
    (starts : startsWithMark ('/' :: '/' :: word) = true)
    (alone : piecesFrom true ('/' :: word) = ['/' :: word])
    (joined : behind = true ∨ ∃ d ∈ front, isBlank d = false) :
    ∃ others last, piecesFrom behind front = others ++ [last] ∧
      piecesFrom behind (front ++ (gap ++ '/' :: '/' :: word)) =
        others ++ [last ++ gap, '/' :: '/' :: word] ∧
      last.getLast? = front.getLast? := by
  induction front generalizing behind with
  | nil =>
      rcases joined with rfl | ⟨d, member, -⟩
      · exact ⟨[], [], rfl, piecesFrom_padding blank starts _ rfl alone, rfl⟩
      · cases member
  | cons c front ih =>
      have further : (behind || !isBlank c) = true ∨ ∃ d ∈ front, isBlank d = false := by
        rcases joined with rfl | ⟨d, member, solid⟩
        · exact Or.inl rfl
        · rcases List.mem_cons.mp member with rfl | member
          · exact Or.inl (by rw [solid, Bool.not_false, Bool.or_true])
          · exact Or.inr ⟨d, member, solid⟩
      obtain ⟨others, last, short, long, ends⟩ := ih further
      -- Whether a mark begins here does not depend on the last one.
      have same : startsWithMark (c :: (front ++ (gap ++ '/' :: '/' :: word))) =
          startsWithMark (c :: front) := startsWithMark_append (List.cons_ne_nil c front) blank
      rw [List.cons_append, piecesFrom, piecesFrom, same, short, long]
      cases others with
      | nil =>
          -- There is one piece so far, and the character is put in front of it.
          have ends : (c :: last).getLast? = (c :: front).getLast? := by
            rw [List.getLast?_cons, List.getLast?_cons, ends]
          split
          · exact ⟨[[]], c :: last, rfl, rfl, ends⟩
          · exact ⟨[], c :: last, rfl, rfl, ends⟩
      | cons first others =>
          have ends : last.getLast? = (c :: front).getLast? := by
            cases front with
            | nil => simp [piecesFrom] at short
            | cons d front => rw [ends, List.getLast?_cons_cons]
          split
          · exact ⟨[] :: (c :: first) :: others, last, rfl, rfl, ends⟩
          · exact ⟨(c :: first) :: others, last, rfl, rfl, ends⟩

theorem dropTrailing_append {gap : Text} {d : Char} (padded : ∀ c ∈ gap, isPadding c = true)
    (other : isPadding d = false) (last : front.getLast? = some d) :
    dropTrailing isPadding (front ++ gap) = front := by
  obtain ⟨above, rfl⟩ := List.getLast?_eq_some_iff.mp last
  have all : ∀ c ∈ gap.reverse, isPadding c = true := fun c member =>
    padded c (List.mem_reverse.mp member)
  rw [dropTrailing, List.reverse_append, List.dropWhile_append_of_pos all, List.reverse_append]
  simp [other]

theorem trimmed_concat (pieces : List Text) (last : Text) :
    trimmed (pieces ++ [last]) = pieces.map (dropTrailing isPadding) ++ [last] := by
  rw [trimmed, List.dropLast_concat, List.getLast?_concat, Option.toList_some]

theorem indented_append {pieces : List Text} (some : pieces ≠ []) (padding last : Text) :
    indented padding (pieces ++ [last]) = indented padding pieces ++ [padding ++ last] := by
  obtain ⟨first, others, rfl⟩ := List.exists_cons_of_ne_nil some
  simp [indented]

theorem indentation_append {d : Char} (member : d ∈ front) (other : isPadding d = false)
    (more : Text) : indentation (front ++ more) = indentation front := by
  rw [indentation, List.takeWhile_append, if_neg, indentation]
  intro whole
  have same := (List.takeWhile_prefix isPadding).eq_of_length whole
  rw [← same] at member
  rw [List.mem_takeWhile_imp member] at other
  cases other

/-- Behind the two slashes of a mark that was cut off no other mark begins. -/
theorem piecesFrom_of_cut {before word : Text}
    (none : lastCut? ('/' :: before) ('/' :: word) = none)
    (blanks : ∀ c ∈ '/' :: word, isBlank c = true → isPadding c = true) :
    piecesFrom true ('/' :: word) = ['/' :: word] := by
  have none : lastCut? ['/'] ('/' :: word) = Option.none :=
    (lastCut?_behind (by decide) _ []).mp none
  refine piecesFrom_of_apart fun front mark split starts => ?_
  rw [split] at none blanks
  have blank := forall_blank_of_lastCut? none starts (by
    intro c member
    simp only [List.mem_append, List.mem_reverse, List.mem_singleton] at member
    rcases member with inside | rfl
    · exact blanks c (List.mem_append_left _ inside)
    · exact fun blank => absurd blank (by decide))
  exact absurd (blank '/' (by simp)) (by decide)

/-- One pass cuts off the last mark of a line as a single cut does. -/
theorem onePassLine_of_cutAt (cut : CutAt line front mark)
    (blanks : ∀ c ∈ line, isBlank c = true → isPadding c = true) :
    onePassLine line = onePassLine front ++ [indentation line ++ mark] := by
  cases cut with
  | @mk above gap word before d solid padded starts last =>
      have split : above ++ d :: (gap ++ '/' :: '/' :: word) =
          (above ++ [d]) ++ (gap ++ '/' :: '/' :: word) := by simp
      rw [split] at blanks ⊢
      have inside : d ∈ above ++ [d] := List.mem_concat_self
      have other := isPadding_eq_false solid
      have alone := piecesFrom_of_cut last fun c member =>
        blanks c (List.mem_append_right _ (List.mem_append_right _ (List.mem_cons_of_mem _ member)))
      have joined : false = true ∨ ∃ e ∈ above ++ [d], isBlank e = false :=
        Or.inr ⟨d, inside, solid⟩
      obtain ⟨others, piece, short, long, ends⟩ := exists_piecesFrom_append
        (fun c member => isBlank_of_isPadding (padded c member)) starts alone joined
      rw [List.getLast?_concat] at ends
      have pair : others ++ [piece ++ gap, '/' :: '/' :: word] =
          (others ++ [piece ++ gap]) ++ ['/' :: '/' :: word] := by simp
      have filled : others.map (dropTrailing isPadding) ++ [piece] ≠ [] := by simp
      rw [onePassLine, onePassLine, indentation_append inside other, short, long, pair,
        trimmed_concat, trimmed_concat, List.map_append, List.map_singleton,
        dropTrailing_append padded other ends, indented_append filled]

/-- One pass over a line makes the same lines of it as one cut after the other. -/
theorem separateLine_eq_onePassLine (line : Text)
    (blanks : ∀ c ∈ line, isBlank c = true → isPadding c = true) :
    separateLine line = onePassLine line := by
  induction line using cut_induction with
  | whole line none =>
      have apart := not_joined_of_lastCut? none blanks
      have one : piecesFrom false line = [line] := by
        refine piecesFrom_of_apart fun front mark split starts => ⟨rfl, ?_⟩
        intro c member
        by_contra solid
        exact apart ⟨front, mark, split, starts, c, member, Bool.eq_false_of_not_eq_true solid⟩
      rw [separateLine_of_none none, onePassLine, one]
      rfl
  | cut line front mark found ih =>
      have cut := cutAt_of_lastCut? found
      obtain ⟨gap, word, -, -, split⟩ := exists_of_lastCut? found
      rw [List.reverse_nil, List.nil_append] at cut split
      have above : separateLine front = onePassLine front := by
        refine ih fun c member => blanks c ?_
        rw [split]
        exact List.mem_append_left _ member
      rw [separateLine_of_some found, onePassLine_of_cutAt cut blanks, above]

end Line

section Texts

variable {text line : Text}

theorem marksIn_separate (text : Text) : marksIn (separate text) = marksIn text :=
  outlasts_separate (P := fun other => marksIn other = marksIn text) (outlasts_marksIn _) rfl

theorem withoutBlanks_separate (text : Text) :
    withoutBlanks (separate text) = withoutBlanks text :=
  outlasts_separate (P := fun other => withoutBlanks other = withoutBlanks text)
    (outlasts_withoutBlanks _) rfl

theorem separate_eq_onePass (blanks : ∀ c ∈ text, isBlank c = true → c = '\n' ∨ isPadding c = true) :
    separate text = onePass text := by
  have same : ∀ line ∈ splitAt '\n' text, separateLine line = onePassLine line := by
    intro line member
    exact separateLine_eq_onePassLine line fun c inside blank =>
      isPadding_of_mem_splitAt member blanks inside blank
  rw [separate, onePass, List.flatMap_congr same]

theorem not_joined_of_mem_separate
    (blanks : ∀ c ∈ text, isBlank c = true → c = '\n' ∨ isPadding c = true) :
    ∀ line ∈ splitAt '\n' (separate text), ¬ Joined line := by
  intro piece member
  rw [splitAt_separate] at member
  obtain ⟨line, among, cut⟩ := List.mem_flatMap.mp member
  refine not_joined_of_lastCut? (lastCut?_of_mem_separateLine line piece cut) ?_
  intro c inside blank
  exact isPadding_of_mem_splitAt among blanks (mem_of_mem_cuts line.length piece cut inside) blank

end Texts

/-- The loop over a text ends, whatever the text, and it ends in the separated one. All marks and all
that is no blank are kept in their order, and a line stays with no mark joined on it. Where only spaces,
tabs and new lines are blank, one pass does the same, and every mark is then the first thing on its line. -/
theorem separate_in_rounds (text : Text) :
    (∀ result, Rounds text result ↔ result = separate text) ∧
      marksIn (separate text) = marksIn text ∧
      withoutBlanks (separate text) = withoutBlanks text ∧
      (∀ above line below, splitAt '\n' text = above ++ line :: below → ¬ Joined line →
        splitAt '\n' (separate text) =
          above.flatMap separateLine ++ line :: below.flatMap separateLine) ∧
      ((∀ c ∈ text, isBlank c = true → c = '\n' ∨ c = ' ' ∨ c = '\t') →
        separate text = onePass text ∧ ∀ line ∈ splitAt '\n' (separate text), ¬ Joined line) := by
  refine ⟨rounds_iff text, marksIn_separate text, withoutBlanks_separate text, ?_, ?_⟩
  · intro above line below lines apart
    rw [splitAt_separate, lines, List.flatMap_append, List.flatMap_cons,
      separateLine_of_none (lastCut?_of_not_joined apart), List.singleton_append]
  · intro blanks
    have padding : ∀ c ∈ text, isBlank c = true → c = '\n' ∨ isPadding c = true := by
      intro c member blank
      rw [isPadding, Bool.or_eq_true, beq_iff_eq, beq_iff_eq]
      exact blanks c member blank
    exact ⟨separate_eq_onePass padding, not_joined_of_mem_separate padding⟩

/-- A line with two marks behind its statement, one whose comment only looks like a mark, and one that
is nothing but a mark. -/
def pulledUp : Text :=
  "\ta;  // #region B// #endregion\n  b // #regional\n // #endregion".toList

theorem separate_in_rounds_pulledUp :
    Rounds pulledUp (separate pulledUp) ∧ separate pulledUp = onePass pulledUp ∧
      (∀ line ∈ splitAt '\n' (separate pulledUp), ¬ Joined line) ∧
      separate pulledUp =
        "\ta;\n\t// #region B\n\t// #endregion\n  b // #regional\n // #endregion".toList := by
  have plain : (pulledUp.all fun c => !isBlank c || [' ', '\n', '\t'].contains c) = true := by
    decide +kernel
  have blanks : ∀ c ∈ pulledUp, isBlank c = true → c = '\n' ∨ c = ' ' ∨ c = '\t' := by
    intro c member blank
    have among := List.all_eq_true.mp plain c member
    rw [blank] at among
    simp at among
    tauto
  obtain ⟨rounds, -, -, -, once⟩ := separate_in_rounds pulledUp
  obtain ⟨same, apart⟩ := once blanks
  exact ⟨(rounds _).mpr rfl, same, apart, by decide +kernel⟩

end Region

end NestedStyles
