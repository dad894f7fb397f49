import NestedStyles.Proofs.Stylesheet.Separating
import NestedStyles.Proofs.Text.Decimal
import NestedStyles.Proofs.Text.Lines

/-!
The marks of regions stand alone on their lines once a text was separated in which nothing follows a
mark on its line. Such a line is cut in front of its mark, and what is cut off has no mark.
-/

set_option autoImplicit false

namespace NestedStyles

open Text

namespace Region

/-- A mark with what follows it: one that opens a region and has a number, to which all digits in a
row belong, or one that closes a region. -/
inductive MarkAt : Text → Text → Prop
  | opening {digits rest : Text} (numbered : digits ≠ [])
      (decimal : ∀ c ∈ digits, c.isDigit = true) (whole : ∀ c ∈ rest.head?, c.isDigit = false) :
      MarkAt ("// #region STYLE #".toList ++ digits) rest
  | closing (rest : Text) : MarkAt "// #endregion".toList rest

/-- That nothing but indentation stands on a line with a mark. -/
def AloneOn (line : Text) : Prop :=
  ∀ front mark rest, line = front ++ (mark ++ rest) → MarkAt mark rest →
    (∀ c ∈ front, isPadding c = true) ∧ rest = []

/-- That every mark of a text stands alone on its line. -/
def Alone (text : Text) : Prop :=
  ∀ line ∈ splitAt '\n' text, AloneOn line

/-- That every mark of a text is the last thing on its line. -/
def Last (text : Text) : Prop :=
  ∀ front mark rest, text = front ++ (mark ++ rest) → MarkAt mark rest →
    ∀ c ∈ rest.head?, c = '\n'

/-- That a text has no mark. -/
def Free (text : Text) : Prop :=
  ∀ front mark rest, text = front ++ (mark ++ rest) → ¬ MarkAt mark rest

section MarkAt

variable {mark rest : Text}

theorem ne_of_isDigit {c d : Char} (other : d.isDigit = false) (digit : c.isDigit = true) :
    c ≠ d := by
  rintro rfl
  rw [other] at digit
  cases digit

/-- A comment behind blanks begins with no digit. -/
theorem isDigit_of_head?_gap {gap word : Text} (blank : Blank gap) :
    ∀ c ∈ (gap ++ '/' :: word).head?, c.isDigit = false := by
  intro c first
  cases gap with
  | nil =>
      cases first
      rfl
  | cons d gap =>
      cases first
      exact isDigit_of_isBlank (blank _ List.mem_cons_self)

/-- A character that is in no mark. -/
theorem MarkAt.not_mem {c : Char} (marked : MarkAt mark rest)
    (opening : c ∉ "// #region STYLE #".toList) (closing : c ∉ "// #endregion".toList)
    (digit : c.isDigit = false) : c ∉ mark := by
  cases marked with
  | closing => exact closing
  | opening numbered decimal whole =>
      rw [List.mem_append, not_or]
      exact ⟨opening, fun member => ne_of_isDigit digit (decimal c member) rfl⟩

/-- A mark begins with the two slashes of a comment and has no more of them. -/
theorem MarkAt.exists_comment (marked : MarkAt mark rest) :
    ∃ word, mark = '/' :: '/' :: word ∧ '/' ∉ word := by
  cases marked with
  | closing => exact ⟨_, rfl, by decide⟩
  | @opening digits _ _ decimal _ =>
      refine ⟨" #region STYLE #".toList ++ digits, rfl, ?_⟩
      rw [List.mem_append, not_or]
      refine ⟨by decide, ?_⟩
      intro member
      exact ne_of_isDigit (d := '/') rfl (decimal _ member) rfl

theorem MarkAt.startsWithMark (marked : MarkAt mark rest) : startsWithMark mark = true := by
  cases marked with
  | closing => decide +kernel
  | @opening digits _ _ _ _ =>
      have split : "// #region STYLE #".toList ++ digits =
          "// #region".toList ++ ' ' :: ("STYLE #".toList ++ digits) := rfl
      have ends : (!isWordChar ' ') = true := by decide +kernel
      refine List.any_eq_true.mpr ⟨"// #region".toList, List.mem_cons_self, ?_⟩
      rw [split, Text.after?_append, Option.any_some, endsWord]
      exact ends

/-- A mark stays one before anything but a digit. -/
theorem MarkAt.behind (marked : MarkAt mark rest) {other : Text}
    (whole : ∀ c ∈ other.head?, c.isDigit = false) : MarkAt mark other := by
  cases marked with
  | closing => exact .closing other
  | opening numbered decimal _ => exact .opening numbered decimal whole

/-- Only the next character tells whether a mark ends. -/
theorem MarkAt.congr (marked : MarkAt mark rest) {other : Text}
    (same : rest.head? = other.head?) : MarkAt mark other := by
  cases marked with
  | closing => exact .closing other
  | opening numbered decimal whole => exact .opening numbered decimal (same ▸ whole)

theorem MarkAt.append (marked : MarkAt mark rest) {more : Text}
    (whole : ∀ c ∈ more.head?, c.isDigit = false) : MarkAt mark (rest ++ more) := by
  cases marked with
  | closing => exact .closing _
  | opening numbered decimal first =>
      refine .opening numbered decimal ?_
      cases rest with
      | nil => exact whole
      | cons d rest => exact first

end MarkAt

/-- What begins with a slash stands behind padding. -/
theorem exists_of_padding_append {padding text front word : Text}
    (padded : ∀ c ∈ padding, isPadding c = true)
    (split : padding ++ text = front ++ '/' :: word) :
    ∃ more, front = padding ++ more ∧ text = more ++ '/' :: word := by
  induction padding generalizing front with
  | nil => exact ⟨front, rfl, split⟩
  | cons c padding ih =>
      rw [List.forall_mem_cons] at padded
      cases front with
      | nil =>
          obtain ⟨rfl, -⟩ := List.cons.inj split
          cases padded.1
      | cons d front =>
          obtain ⟨rfl, behind⟩ := List.cons.inj split
          obtain ⟨more, rfl, rest⟩ := ih padded.2 behind
          exact ⟨more, rfl, rest⟩

section Free

variable {above below padding : Text}

theorem Free.back (free : Free (above ++ below)) : Free below := by
  intro front mark rest split
  refine free (above ++ front) mark rest ?_
  rw [split, List.append_assoc]

theorem Free.front (free : Free (above ++ below)) (whole : ∀ c ∈ below.head?, c.isDigit = false) :
    Free above := by
  intro front mark rest split marked
  exact free front mark (rest ++ below) (by rw [split]; simp) (marked.append whole)

theorem Free.indented (free : Free below) (padded : ∀ c ∈ padding, isPadding c = true) :
    Free (padding ++ below) := by
  intro front mark rest split marked
  obtain ⟨word, comment, -⟩ := marked.exists_comment
  obtain ⟨more, -, behind⟩ := exists_of_padding_append padded (by rw [split, comment]; rfl)
  refine free more mark rest ?_ marked
  rw [behind, comment]
  rfl

end Free

section Cut

variable {mark rest before front : Text}

theorem startsWithMark_of_ne {text : Text} (other : ∀ word, text ≠ '/' :: '/' :: word) :
    startsWithMark text = false := by
  rw [← Bool.not_eq_true]
  intro starts
  obtain ⟨word, same⟩ := exists_of_startsWithMark starts
  exact other word same

/-- No cut is made where no comment begins. -/
theorem lastCut?_eq_none {text : Text}
    (other : ∀ back, back <:+ text → ∀ word, back ≠ '/' :: '/' :: word) :
    ∀ before, lastCut? before text = none := by
  induction text with
  | nil => exact fun before => rfl
  | cons c rest ih =>
      intro before
      rw [lastCut?, ih (fun back suffix => other back (suffix.trans (List.suffix_cons c rest))),
        startsWithMark_of_ne (other _ List.suffix_rfl)]
      rfl

/-- Inside a mark no other one begins. -/
theorem lastCut?_mark (marked : MarkAt mark rest) (before : Text) :
    lastCut? before mark =
      match before.dropWhile isPadding with
      | [] => none
      | d :: farther => if isBlank d then none else some ((d :: farther).reverse, mark) := by
  have starts := marked.startsWithMark
  obtain ⟨word, rfl, clear⟩ := marked.exists_comment
  have none : ∀ before, lastCut? before ('/' :: word) = none := by
    apply lastCut?_eq_none
    rintro back suffix inner rfl
    rcases List.suffix_cons_iff.mp suffix with same | inside
    · exact clear ((List.cons.inj same).2 ▸ List.mem_cons_self)
    · exact clear (inside.subset List.mem_cons_self)
  rw [lastCut?, none, starts]
  rfl

/-- A line with a mark behind something else is cut in front of the mark. -/
theorem lastCut?_append_mark (marked : MarkAt mark rest) {d : Char} {farther : Text}
    (solid : isBlank d = false) :
    ∀ {before : Text}, (front.reverse ++ before).dropWhile isPadding = d :: farther →
      lastCut? before (front ++ mark) = some ((d :: farther).reverse, mark) := by
  induction front with
  | nil =>
      intro before stops
      rw [List.reverse_nil, List.nil_append] at stops
      rw [List.nil_append, lastCut?_mark marked, stops]
      simp only [solid, Bool.false_eq_true, if_false]
  | cons c front ih =>
      intro before stops
      rw [List.reverse_cons, List.append_assoc, List.singleton_append] at stops
      rw [List.cons_append, lastCut?, ih stops]

/-- No cut is made if none is made farther on and no mark begins here with something else, padding
aside, in front of it. -/
theorem lastCut?_cons_eq_none_iff {c : Char} {text : Text} :
    lastCut? before (c :: text) = none ↔ lastCut? (c :: before) text = none ∧
      (startsWithMark (c :: text) = true →
        ∀ d ∈ before.find? fun e => !isPadding e, isBlank d = true) := by
  rw [lastCut?, List.find?_not_eq_head?_dropWhile]
  cases lastCut? (c :: before) text with
  | some cut => simp
  | none =>
      cases startsWithMark (c :: text) with
      | false => simp
      | true =>
          cases before.dropWhile isPadding with
          | nil => simp
          | cons d farther => cases isBlank d <;> simp

/-- Padding is only read, as no mark begins in it. -/
theorem lastCut?_padding {text padding : Text} (padded : ∀ c ∈ padding, isPadding c = true) :
    ∀ before, (lastCut? before (padding ++ text) = none ↔
      lastCut? (padding.reverse ++ before) text = none) := by
  induction padding with
  | nil => exact fun before => Iff.rfl
  | cons c padding ih =>
      intro before
      rw [List.forall_mem_cons] at padded
      have other : startsWithMark (c :: (padding ++ text)) = false := by
        refine startsWithMark_of_ne ?_
        rintro word same
        rw [(List.cons.inj same).1] at padded
        cases padded.1
      rw [List.reverse_cons, List.append_assoc, List.singleton_append, ← ih padded.2,
        List.cons_append, lastCut?_cons_eq_none_iff, other]
      simp only [Bool.false_eq_true, false_implies, and_true]

/-- Only the last character that is no padding matters in front of a line. -/
theorem lastCut?_behind {c : Char} (solid : isPadding c = false) {other : Text} (line : Text) :
    ∀ between, (lastCut? (between ++ c :: before) line = none ↔
      lastCut? (between ++ c :: other) line = none) := by
  induction line with
  | nil => exact fun between => Iff.rfl
  | cons d rest ih =>
      intro between
      have stops (more : Text) : (c :: more).find? (fun e => !isPadding e) = some c :=
        List.find?_cons_of_pos (by rw [solid, Bool.not_false])
      rw [lastCut?_cons_eq_none_iff, lastCut?_cons_eq_none_iff, List.find?_append, List.find?_append,
        stops, stops]
      exact and_congr (ih (d :: between)) Iff.rfl

/-- A line with nothing but indentation in front of its mark is not cut. -/
theorem lastCut?_indented_mark (marked : MarkAt mark rest)
    (padded : ∀ c ∈ front, isPadding c = true) : lastCut? [] (front ++ mark) = none := by
  have all : ∀ c ∈ front.reverse, isPadding c = true :=
    fun c member => padded c (List.mem_reverse.mp member)
  rw [lastCut?_padding padded, List.append_nil, lastCut?_mark marked,
    List.dropWhile_eq_nil_iff.mpr all]

/-- How a line is separated that ends in a mark. -/
inductive Separated (front mark : Text) : List Text → Prop
  | whole (padded : ∀ c ∈ front, isPadding c = true) : Separated front mark [front ++ mark]
  | cut (bound : Nat) (above gap indentation : Text) (split : front = above ++ gap)
      (spaces : ∀ c ∈ gap, isPadding c = true) (padded : ∀ c ∈ indentation, isPadding c = true) :
      Separated front mark (cuts bound above ++ [indentation ++ mark])

theorem separated_separateLine (marked : MarkAt mark rest)
    (blanks : ∀ c ∈ front, isBlank c = true → isPadding c = true) :
    Separated front mark (separateLine (front ++ mark)) := by
  obtain ⟨word, comment, -⟩ := marked.exists_comment
  have long : (front ++ mark).length = (front.length + word.length + 1) + 1 := by
    rw [comment, List.length_append, List.length_cons, List.length_cons]
    omega
  rw [separateLine, long, cuts]
  cases stops : front.reverse.dropWhile isPadding with
  | nil =>
      have padded : ∀ c ∈ front, isPadding c = true := by
        intro c member
        exact List.dropWhile_eq_nil_iff.mp stops c (List.mem_reverse.mpr member)
      rw [lastCut?_indented_mark marked padded]
      exact .whole padded
  | cons d farther =>
      have among : d ∈ front := by
        have inside : d ∈ front.reverse.dropWhile isPadding := stops ▸ List.mem_cons_self
        exact List.mem_reverse.mp ((List.dropWhile_suffix isPadding).subset inside)
      have other : isPadding d = false := by
        have head := List.head?_dropWhile_not isPadding front.reverse
        rw [stops] at head
        simpa using head
      have solid : isBlank d = false := by
        rw [← Bool.not_eq_true]
        intro blank
        rw [blanks d among blank] at other
        cases other
      have split : front =
          (d :: farther).reverse ++ (front.reverse.takeWhile isPadding).reverse := by
        rw [← stops, ← List.reverse_append, List.takeWhile_append_dropWhile, List.reverse_reverse]
      have cut : lastCut? [] (front ++ mark) = some ((d :: farther).reverse, mark) :=
        lastCut?_append_mark marked solid (by rw [List.append_nil, stops])
      rw [cut]
      refine .cut _ _ _ _ split ?_ ?_
      · exact fun c member => List.mem_takeWhile_imp (List.mem_reverse.mp member)
      · exact fun c member => List.mem_takeWhile_imp member

end Cut

/-- What is cut off from a line without marks has none. -/
theorem free_cuts (bound : Nat) :
    ∀ {line : Text}, Free line → ∀ piece ∈ cuts bound line, Free piece := by
  induction bound with
  | zero =>
      intro line free piece member
      rw [cuts, List.mem_singleton] at member
      rwa [member]
  | succ bound ih =>
      intro line free piece member
      rw [cuts] at member
      split at member
      · rw [List.mem_singleton] at member
        rwa [member]
      · rename_i front mark cut
        obtain ⟨gap, rest, blank, comment, split⟩ := exists_of_lastCut? cut
        rw [List.reverse_nil, List.nil_append] at split
        rw [split] at free
        rcases List.mem_append.mp member with above | last
        · rw [comment] at free
          exact ih (free.front (isDigit_of_head?_gap blank)) piece above
        · rw [List.mem_singleton] at last
          rw [last]
          exact free.back.back.indented fun c among => List.mem_takeWhile_imp among

/-- Cutting a line adds no characters to it. -/
theorem mem_of_mem_cuts {c : Char} (bound : Nat) :
    ∀ {line : Text}, ∀ piece ∈ cuts bound line, c ∈ piece → c ∈ line := by
  induction bound with
  | zero =>
      intro line piece member inside
      rw [cuts, List.mem_singleton] at member
      rwa [← member]
  | succ bound ih =>
      intro line piece member inside
      rw [cuts] at member
      split at member
      · rw [List.mem_singleton] at member
        rwa [← member]
      · rename_i front mark cut
        obtain ⟨gap, rest, -, -, split⟩ := exists_of_lastCut? cut
        rw [List.reverse_nil, List.nil_append] at split
        rcases List.mem_append.mp member with above | last
        · rw [split]
          exact List.mem_append_left _ (ih piece above inside)
        · rw [List.mem_singleton.mp last] at inside
          rcases List.mem_append.mp inside with indent | behind
          · exact (List.takeWhile_prefix isPadding).subset indent
          · rw [split]
            exact List.mem_append_right _ (List.mem_append_right _ behind)

section Lines

variable {line front mark rest : Text}

/-- Behind a mark of a line nothing follows. -/
def Ending (line : Text) : Prop :=
  ∀ front mark rest, line = front ++ (mark ++ rest) → MarkAt mark rest → rest = []

theorem Free.aloneOn (free : Free line) : AloneOn line :=
  fun front mark rest split marked => absurd marked (free front mark rest split)

/-- What stands in front of the last mark of a line has no mark. -/
theorem Ending.free {above gap word : Text} (ending : Ending (above ++ (gap ++ '/' :: word)))
    (blank : Blank gap) : Free above := by
  intro front mark rest split marked
  have last := ending front mark (rest ++ (gap ++ '/' :: word)) (by rw [split]; simp)
    (marked.append (isDigit_of_head?_gap blank))
  exact absurd last (by simp)

/-- A word with no slash is behind the only two slashes. -/
theorem eq_nil_of_comment {word above below : Text} (clear : '/' ∉ word)
    (split : '/' :: '/' :: word = above ++ '/' :: '/' :: below) : above = [] := by
  cases above with
  | nil => rfl
  | cons c above =>
      have inside := (List.cons.inj split).2
      cases above with
      | nil => exact absurd ((List.cons.inj inside).2 ▸ List.mem_cons_self) clear
      | cons d above =>
          have inside := (List.cons.inj inside).2
          exact absurd (inside ▸ List.mem_append_right _ List.mem_cons_self) clear

/-- A mark behind padding stands alone. -/
theorem aloneOn_indented {padding : Text} (marked : MarkAt mark rest)
    (ending : Ending (front ++ mark)) (padded : ∀ c ∈ padding, isPadding c = true) :
    AloneOn (padding ++ mark) := by
  intro before other behind split markedOther
  obtain ⟨word, comment, clear⟩ := marked.exists_comment
  obtain ⟨further, commentOther, -⟩ := markedOther.exists_comment
  obtain ⟨more, rfl, inside⟩ := exists_of_padding_append padded (by rw [split, commentOther]; rfl)
  have inside : mark = more ++ '/' :: '/' :: (further ++ behind) := inside
  have first : more = [] := eq_nil_of_comment clear (comment.symm.trans inside)
  have same : mark = other ++ behind := by
    rw [inside, first, commentOther]
    rfl
  rw [first, List.append_nil]
  exact ⟨padded, ending front other behind (by rw [same]) markedOther⟩

/-- Every line with a mark is separated into lines with nothing else on the line of the mark. -/
theorem aloneOn_separateLine (ending : Ending line)
    (blanks : ∀ c ∈ line, isBlank c = true → isPadding c = true) :
    ∀ piece ∈ separateLine line, AloneOn piece := by
  intro piece member
  by_cases free : Free line
  · exact (free_cuts line.length free piece member).aloneOn
  · simp only [Free, not_forall, not_not] at free
    obtain ⟨front, mark, rest, split, marked⟩ := free
    have none := ending front mark rest split marked
    rw [none, List.append_nil] at split
    subst split
    have separated := separated_separateLine marked fun c among =>
      blanks c (List.mem_append_left _ among)
    generalize separateLine (front ++ mark) = pieces at separated member
    cases separated with
    | whole padded =>
        rw [List.mem_singleton.mp member]
        exact aloneOn_indented marked ending padded
    | cut bound above gap indentation split spaces padded =>
        rcases List.mem_append.mp member with before | last
        · obtain ⟨word, comment, -⟩ := marked.exists_comment
          rw [split, List.append_assoc, comment] at ending
          have free := ending.free fun c member => isBlank_of_isPadding (spaces c member)
          exact (free_cuts bound free piece before).aloneOn
        · rw [List.mem_singleton.mp last]
          exact aloneOn_indented marked ending padded

end Lines

section Texts

variable {text front mark rest : Text}

theorem Last.suffix {tail : Text} (last : Last text) (suffix : tail <:+ text) : Last tail := by
  obtain ⟨above, rfl⟩ := suffix
  intro front mark rest split
  exact last (above ++ front) mark rest (by rw [split, List.append_assoc])

theorem Last.ending (last : Last text) : ∀ line ∈ splitAt '\n' text, Ending line := by
  intro line member front mark rest split marked
  obtain ⟨before, behind, whole, next⟩ := exists_of_mem_splitAt member
  have digit : ∀ c ∈ behind.head?, c.isDigit = false := by
    intro c first
    rw [next c first]
    rfl
  have ends := last (before ++ front) mark (rest ++ behind) (by rw [whole, split]; simp)
    (marked.append digit)
  cases rest with
  | nil => rfl
  | cons c rest =>
      have new : c = '\n' := ends c rfl
      refine absurd ?_ (not_mem_of_mem_splitAt line member)
      rw [split, new]
      simp

/-- The blanks of a line are padding. -/
theorem isPadding_of_mem_splitAt {line : Text} {c : Char} (member : line ∈ splitAt '\n' text)
    (blanks : ∀ c ∈ text, isBlank c = true → c = '\n' ∨ isPadding c = true) (among : c ∈ line)
    (blank : isBlank c = true) : isPadding c = true := by
  obtain ⟨before, behind, whole, -⟩ := exists_of_mem_splitAt member
  rcases blanks c (by rw [whole]; simp [among]) blank with rfl | padding
  · exact absurd among (not_mem_of_mem_splitAt line member)
  · exact padding

theorem flatMap_separateLine_ne_nil (text : Text) :
    (splitAt '\n' text).flatMap separateLine ≠ [] := by
  obtain ⟨line, lines, split⟩ := List.exists_cons_of_ne_nil (splitAt_ne_nil '\n' text)
  rw [split, List.flatMap_cons]
  exact List.append_ne_nil_of_left_ne_nil (cuts_ne_nil _ _) _

/-- The lines of the separated text are those of each line one after the other. -/
theorem splitAt_separate (text : Text) :
    splitAt '\n' (separate text) = (splitAt '\n' text).flatMap separateLine := by
  refine splitAt_join ?_ (flatMap_separateLine_ne_nil text)
  intro piece member inside
  obtain ⟨line, among, cut⟩ := List.mem_flatMap.mp member
  exact not_mem_of_mem_splitAt line among (mem_of_mem_cuts line.length piece cut inside)

/-- Separation puts every mark on a line of its own, if it is the last thing on its line before. -/
theorem alone_separate (last : Last text)
    (blanks : ∀ c ∈ text, isBlank c = true → c = '\n' ∨ isPadding c = true) :
    Alone (separate text) := by
  rw [Alone, splitAt_separate]
  intro piece member
  obtain ⟨line, among, cut⟩ := List.mem_flatMap.mp member
  exact aloneOn_separateLine (last.ending line among)
    (fun c inside blank => isPadding_of_mem_splitAt among blanks inside blank) piece cut

/-- The lines of a text are separated one by one. -/
theorem separate_append_cons (above below : Text) :
    separate (above ++ '\n' :: below) = separate above ++ '\n' :: separate below := by
  rw [separate, splitAt_append_cons, List.flatMap_append,
    join_append (flatMap_separateLine_ne_nil below) (flatMap_separateLine_ne_nil above),
    List.append_assoc, List.singleton_append, separate, separate]

theorem exists_join_concat (parts : List Text) (front back : Text) :
    ∃ above, join ['\n'] (parts ++ [front ++ back]) = above ++ back := by
  cases parts with
  | nil => exact ⟨front, rfl⟩
  | cons part rest =>
      rw [join_append (List.cons_ne_nil _ _) (List.cons_ne_nil part rest), join_singleton,
        ← List.append_assoc]
      exact ⟨_, rfl⟩

/-- A mark at the end of a text is still there. -/
theorem exists_separate_append_mark (marked : MarkAt mark rest)
    (blanks : ∀ c ∈ front, isBlank c = true → c = '\n' ∨ isPadding c = true) :
    ∃ above, separate (front ++ mark) = above ++ mark := by
  have onLine : '\n' ∉ mark := marked.not_mem (by decide) (by decide) rfl
  obtain ⟨above, piece, short, long⟩ := exists_splitAt_append onLine front
  have among : piece ∈ splitAt '\n' front := short ▸ List.mem_concat_self
  have separated := separated_separateLine marked
    fun c inside blank => isPadding_of_mem_splitAt among blanks inside blank
  rw [separate, long, List.flatMap_append, List.flatMap_singleton]
  generalize separateLine (piece ++ mark) = pieces at separated
  cases separated with
  | whole padded => exact exists_join_concat _ piece mark
  | cut bound front gap indentation split spaces padded =>
      rw [← List.append_assoc]
      exact exists_join_concat _ indentation mark

end Texts

end Region

end NestedStyles
