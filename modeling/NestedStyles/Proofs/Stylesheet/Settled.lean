import NestedStyles.Proofs.Stylesheet.Stretches

/-!
What tidying makes of any text. A statement, whatever blanks it has, is one that was loosened from its
tidied form, and the tidied form is loosened from itself. So tidying changes nothing but blanks, and
tidying once more changes nothing at all.
-/

set_option autoImplicit false

namespace NestedStyles

open Text Weave

/-- A stitch with the blanks that were read in both texts. -/
def Stitch.settled (stitch : Stitch) : Stitch :=
  { stitch with written := stitch.read }

namespace Apply

section Loosened

variable {behind c : Char} {stitch : Stitch} {stitches : List Stitch} {gap text : Text}

theorem Loose.read (loose : Loose behind stitch) : Blank stitch.read := by
  rcases loose.spacing with ⟨space, -⟩ | ⟨none, -⟩
  · rw [space]
    intro c member
    rw [List.mem_singleton.mp member]
    rfl
  · rw [none]
    exact blank_nil

theorem Loose.settled (loose : Loose behind stitch) : Loose behind stitch.settled := by
  refine ⟨loose.read, loose.solid, ?_⟩
  rcases loose.spacing with ⟨space, -, tight, inner⟩ | ⟨none, -⟩
  · have filled : stitch.read ≠ [] := by
      rw [space]
      exact List.cons_ne_nil _ _
    exact Or.inl ⟨space, filled, tight, inner⟩
  · exact Or.inr ⟨none, Or.inl none⟩

/-- Any blanks in front of a character are loosened from some. -/
theorem exists_loose (behind : Char) (blank : Blank gap) (solid : isBlank c = false) :
    ∃ read, Loose behind ⟨read, gap, c⟩ := by
  by_cases open' : gap ≠ [] ∧ behind ≠ ':' ∧ c ≠ ';'
  · exact ⟨[' '], blank, solid, Or.inl ⟨rfl, open'⟩⟩
  · refine ⟨[], blank, solid, Or.inr ⟨rfl, ?_⟩⟩
    by_contra closed
    simp only [not_or] at closed
    exact open' closed

theorem Loosened.solid (loosened : Loosened behind stitches) :
    ∀ stitch ∈ stitches, isBlank stitch.char = false := by
  intro stitch member
  obtain ⟨_, loose⟩ := loosened.forall_loose stitch member
  exact loose.solid

theorem Loosened.read (loosened : Loosened behind stitches) :
    ∀ stitch ∈ stitches, Blank stitch.read := by
  intro stitch member
  obtain ⟨_, loose⟩ := loosened.forall_loose stitch member
  exact loose.read

theorem Loosened.settled (loosened : Loosened behind stitches) :
    Loosened behind (stitches.map Stitch.settled) := by
  induction stitches generalizing behind with
  | nil => trivial
  | cons first rest ih => exact ⟨loosened.1.settled, ih loosened.2⟩

theorem source_settled (stitches : List Stitch) :
    source (stitches.map Stitch.settled) = source stitches := by
  induction stitches with
  | nil => rfl
  | cons first rest ih => rw [List.map_cons, source_cons, source_cons, ih, Stitch.settled]

theorem result_settled (stitches : List Stitch) :
    result (stitches.map Stitch.settled) = source stitches := by
  induction stitches with
  | nil => rfl
  | cons first rest ih => rw [List.map_cons, result_cons, source_cons, ih, Stitch.settled]

/-- Every text that no blank ends is loosened from some text. -/
theorem exists_loosened (text : Text) :
    ∀ (behind : Char) (gap : Text), Blank gap → (∀ c ∈ (gap ++ text).getLast?, isBlank c = false) →
      ∃ stitches, Loosened behind stitches ∧ result stitches = gap ++ text := by
  induction text with
  | nil =>
      intro behind gap blank ends
      rcases List.eq_nil_or_concat' gap with rfl | ⟨front, c, rfl⟩
      · exact ⟨[], trivial, rfl⟩
      · have solid := ends c (by simp)
        rw [blank c (by simp)] at solid
        cases solid
  | cons c text ih =>
      intro behind gap blank ends
      cases here : isBlank c with
      | true =>
          have longer : Blank (gap ++ [c]) := by
            refine blank.append fun d member => ?_
            rw [List.mem_singleton.mp member, here]
          have split : gap ++ c :: text = (gap ++ [c]) ++ text := by simp
          rw [split] at ends ⊢
          exact ih behind _ longer ends
      | false =>
          have ends : ∀ d ∈ ([] ++ text).getLast?, isBlank d = false := by
            intro d last
            refine ends d ?_
            rw [List.nil_append] at last
            cases text with
            | nil => cases last
            | cons e text => simpa using last
          obtain ⟨read, loose⟩ := exists_loose behind blank here
          obtain ⟨stitches, loosened, written⟩ := ih c [] blank_nil ends
          refine ⟨⟨read, gap, c⟩ :: stitches, ⟨loose, loosened⟩, ?_⟩
          rw [result_cons, written]
          rfl

theorem tidy_of_loosened (loosened : Loosened behind stitches) (tight : behind ≠ ':') :
    tidy (result stitches) = source stitches := by
  have restored := tidy_result loosened
  rwa [beq_eq_false_iff_ne.mpr tight] at restored

/-- A text without its blanks is the same before tidying and after. -/
theorem withoutBlanks_tidy (ends : ∀ c ∈ text.getLast?, isBlank c = false) :
    withoutBlanks (tidy text) = withoutBlanks text := by
  obtain ⟨stitches, loosened, rfl⟩ := exists_loosened text ' ' [] blank_nil ends
  rw [tidy_of_loosened loosened (by decide), source, result,
    withoutBlanks_side loosened.read loosened.solid, withoutBlanks_side loosened.blank loosened.solid]

/-- What is tidy already is tidied to itself. -/
theorem tidy_tidy (ends : ∀ c ∈ text.getLast?, isBlank c = false) :
    tidy (tidy text) = tidy text := by
  obtain ⟨stitches, loosened, rfl⟩ := exists_loosened text ' ' [] blank_nil ends
  have again := tidy_of_loosened loosened.settled (by decide)
  rw [result_settled, source_settled] at again
  rw [tidy_of_loosened loosened (by decide), again]

/-- A word is loosened from itself, and what follows it from what follows it there. -/
theorem Loosened.append_word {word : Text} (solid : ∀ c ∈ word, isBlank c = false) :
    ∀ behind : Char, Loosened (word.getLast?.getD behind) stitches →
      ∃ others, Loosened behind others ∧ source others = word ++ source stitches ∧
        result others = word ++ result stitches := by
  induction word with
  | nil => exact fun _ loosened => ⟨stitches, loosened, rfl, rfl⟩
  | cons c word ih =>
      intro behind loosened
      rw [List.forall_mem_cons] at solid
      have last : ((c :: word).getLast?).getD behind = word.getLast?.getD c := by
        rw [List.getLast?_cons, Option.getD_some]
      rw [last] at loosened
      obtain ⟨others, loosened, reads, writes⟩ := ih solid.2 c loosened
      refine ⟨⟨[], [], c⟩ :: others, ⟨⟨blank_nil, solid.1, Or.inr ⟨rfl, Or.inl rfl⟩⟩, loosened⟩, ?_, ?_⟩
      · rw [source_cons, reads]
        rfl
      · rw [result_cons, writes]
        rfl

end Loosened

section Statement

variable {b c : Char} {inside stretch : Text}

/-- A stretch and its end are loosened from a stretch and the same end. -/
theorem Loosened.exists_stretch {behind : Char} {stitches : List Stitch}
    (loosened : Loosened behind stitches) (free : Stretch stretch)
    (written : result stitches = stretch ++ [c]) :
    ∃ more, source stitches = more ++ [c] ∧ Stretch more := by
  obtain ⟨more, reads, among⟩ := exists_inside loosened.read written
  refine ⟨more, reads, fun d member => ?_⟩
  rcases among d member with space | kept
  · exact endsStatement_of_blank space
  · exact free d kept

/-- A tidied statement is empty, or has one space behind its keyword. -/
theorem tidy_statement (blank : isBlank b = true) (inner : Stretch inside) :
    tidy (keyword ++ b :: (inside ++ [';'])) = keyword ++ [';'] ∨
      ∃ classes, Stretch classes ∧
        tidy (keyword ++ b :: (inside ++ [';'])) = keyword ++ ' ' :: (classes ++ [';']) := by
  have ends : ∀ c ∈ ([] ++ b :: (inside ++ [';'])).getLast?, isBlank c = false := by
    rw [List.nil_append, ← List.cons_append, List.getLast?_concat]
    rintro c ⟨⟩
    rfl
  obtain ⟨stitches, loosened, written⟩ :=
    exists_loosened (b :: (inside ++ [';'])) 'y' [] blank_nil ends
  obtain ⟨others, whole, reads, writes⟩ :=
    Loosened.append_word (fun c member => (solid_keyword c member).1) ' ' loosened
  rw [written] at writes
  have tidied : tidy (keyword ++ b :: (inside ++ [';'])) = keyword ++ source stitches := by
    rw [← reads, ← tidy_of_loosened whole (by decide), writes]
    rfl
  have free : Stretch (b :: inside) := stretch_cons.mpr ⟨endsStatement_of_blank blank, inner⟩
  cases stitches with
  | nil => cases written
  | cons stitch rest =>
      have loose := loosened.1
      rcases loose.spacing with ⟨space, -, -, -⟩ | ⟨none, narrow | colon | semicolon⟩
      · -- The first class stands behind the space.
        obtain ⟨more, reads, clear⟩ := loosened.exists_stretch free written
        rw [tidied, reads]
        rw [source_cons, space] at reads
        cases more with
        | nil => cases reads
        | cons d classes =>
            obtain ⟨rfl, -⟩ := List.cons.inj reads
            exact Or.inr ⟨classes, (stretch_cons.mp clear).2, rfl⟩
      · rw [result_cons, narrow] at written
        obtain ⟨same, -⟩ := List.cons.inj written
        have solid := loose.solid
        rw [same, blank] at solid
        cases solid
      · cases colon
      · -- Nothing but blanks stands in front of the semicolon.
        rw [result_cons, semicolon] at written
        obtain ⟨-, -, empty⟩ := eq_of_append_cons free written.symm rfl
        have last : rest = [] := by
          cases rest with
          | nil => rfl
          | cons other rest =>
              rw [result_cons] at empty
              simp at empty
        left
        rw [tidied, source_cons, none, semicolon, last]
        rfl

/-- What tidying makes of a stretch and its end, it leaves as it is. -/
theorem exists_tidyAll_concat (inner : Stretch stretch) :
    ∃ above, tidyAll (stretch ++ [c]) = above ++ [c] ∧ tidyAll (above ++ [c]) = above ++ [c] := by
  by_cases plain : c ≠ ';' ∨ ¬ Opens stretch
  · have same := tidyAll_concat_of_not_opens inner plain
    exact ⟨stretch, same, same⟩
  · rw [not_or, not_not, not_not] at plain
    obtain ⟨rfl, opens⟩ := plain
    obtain ⟨front, b, inside, rfl, blank, first⟩ := exists_first_of_opens opens
    obtain ⟨outer, inner⟩ := stretch_append.mp inner
    have inner : Stretch inside := (stretch_cons.mp (stretch_append.mp inner).2).2
    have whole := tidyAll_of_first first blank inner
    have split : front ++ (keyword ++ b :: inside) ++ [';'] =
        front ++ (keyword ++ b :: (inside ++ [';'])) := by simp
    rw [split, whole]
    rcases tidy_statement blank inner with none | ⟨classes, clear, some⟩
    · have bare := tidyAll_concat_of_not_opens (c := ';')
        (stretch_append.mpr ⟨outer, stretch_keyword⟩) (Or.inr first)
      rw [List.append_assoc] at bare
      exact ⟨front ++ keyword, by rw [none, List.append_assoc], by rw [List.append_assoc, bare]⟩
    · have again := tidyAll_of_first first (b := ' ') rfl clear
      have settled : tidy (keyword ++ ' ' :: (classes ++ [';'])) =
          keyword ++ ' ' :: (classes ++ [';']) := by
        rw [← some]
        refine tidy_tidy ?_
        rw [← List.cons_append, ← List.append_assoc, List.getLast?_concat]
        rintro c ⟨⟩
        rfl
      rw [settled] at again
      refine ⟨front ++ (keyword ++ ' ' :: classes), ?_, ?_⟩
      · rw [some]
        simp
      · have shape : front ++ (keyword ++ ' ' :: classes) ++ [';'] =
            front ++ (keyword ++ ' ' :: (classes ++ [';'])) := by simp
        rw [shape, again]

end Statement

/-- Tidying twice is tidying once. -/
theorem tidyAll_tidyAll (text : Text) : tidyAll (tidyAll text) = tidyAll text := by
  induction text using stretch_induction with
  | last text stretch => rw [tidyAll_of_stretch stretch, tidyAll_of_stretch stretch]
  | cut stretch c rest inner ends ih =>
      obtain ⟨above, tidied, settled⟩ := exists_tidyAll_concat (c := c) inner
      rw [tidyAll_append_cons ends, tidied, List.append_assoc, List.singleton_append,
        tidyAll_append_cons ends, settled, ih, List.append_assoc, List.singleton_append]

theorem withoutBlanks_tidyAll (text : Text) : withoutBlanks (tidyAll text) = withoutBlanks text := by
  induction text using tidyAll_induction with
  | nil => rfl
  | char c rest none ih =>
      rw [tidyAll_cons_of_none none, ← List.singleton_append, withoutBlanks_append, ih,
        ← withoutBlanks_append, List.singleton_append]
  | statement st tail found ih =>
      obtain ⟨body, other, shape, -, -⟩ := exists_of_statement? found
      have ends : ∀ c ∈ st.getLast?, isBlank c = false := by
        rw [shape, ← List.cons_append, List.getLast?_concat]
        rintro c ⟨⟩
        rfl
      rw [tidyAll_append_of_some found, withoutBlanks_append, withoutBlanks_tidy ends, ih,
        ← withoutBlanks_append]

/-- Tidying settles a text at once, changes nothing but blanks, and goes from stretch to stretch: what
follows a semicolon or a brace does not matter to what stands before, and a stretch stays that no
semicolon ends or in which no statement begins. -/
theorem tidyAll_settles (text : Text) :
    tidyAll (tidyAll text) = tidyAll text ∧
      withoutBlanks (tidyAll text) = withoutBlanks text ∧
      (∀ above c below, text = above ++ c :: below → endsStatement c = true →
        tidyAll text = tidyAll (above ++ [c]) ++ tidyAll below) ∧
      ∀ above stretch below, text = above ++ (stretch ++ below) → Begun above → Stretch stretch →
        (∀ c ∈ below.head?, endsStatement c = true) →
        (below.head? ≠ some ';' ∨ ¬ Opens stretch) →
        tidyAll text = tidyAll above ++ (stretch ++ tidyAll below) := by
  refine ⟨tidyAll_tidyAll text, withoutBlanks_tidyAll text, ?_, ?_⟩
  · rintro above c below rfl ends
    exact tidyAll_append_cons ends above below
  · rintro above stretch below rfl begun inner ended plain
    exact tidyAll_stretch begun inner ended plain

/-- A text with an open class list, a tidy one, an unfinished statement and an empty one. -/
def crowded : Text :=
  "@apply hover:\n  b  @apply ;c\x7b@apply  d\x7d@apply ;".toList

theorem tidyAll_settles_crowded :
    tidyAll (tidyAll crowded) = tidyAll crowded ∧
      tidyAll crowded = tidyAll "@apply hover:\n  b  @apply ;".toList ++
        tidyAll "c\x7b@apply  d\x7d@apply ;".toList ∧
      tidyAll crowded = tidyAll "@apply hover:\n  b  @apply ;c\x7b".toList ++
        ("@apply  d".toList ++ tidyAll "\x7d@apply ;".toList) := by
  obtain ⟨twice, -, local', whole⟩ := tidyAll_settles crowded
  have begun : Begun "@apply hover:\n  b  @apply ;c\x7b".toList := by decide
  have stretch : Stretch "@apply  d".toList := by decide
  have ended : ∀ c ∈ "\x7d@apply ;".toList.head?, endsStatement c = true := by
    rintro c ⟨⟩
    rfl
  refine ⟨twice, ?_, ?_⟩
  · exact local' "@apply hover:\n  b  @apply ".toList ';' "c\x7b@apply  d\x7d@apply ;".toList
      (by decide) rfl
  · exact whole "@apply hover:\n  b  @apply ;c\x7b".toList "@apply  d".toList
      "\x7d@apply ;".toList (by decide) begun stretch ended (Or.inl (by decide))

end Apply

end NestedStyles
