import Mathlib.Data.List.Infix
import NestedStyles.Proofs.Text.Lines
import NestedStyles.Proofs.Text.Tidiness

/-!
The words of a text. Cleaning keeps them and nothing else of a text: a cleaned text is its words with a
space between each two of them, so two texts are cleaned to the same exactly if they have the same words.
What holds no blank stands in a text exactly if it stands in one of its words.
-/

set_option autoImplicit false

namespace NestedStyles

namespace Text

/-- The words of a text in order: its longest pieces without blanks. -/
def words (text : Text) : List Text :=
  (text.splitOnP isBlank).filter fun piece => !piece.isEmpty

/-- A text without blanks. -/
def Solid (text : Text) : Prop :=
  ∀ c ∈ text, isBlank c = false

section Words

variable {text : Text} {c : Char}

/-- From blank to blank, up to the piece that no blank ends. -/
theorem solid_induction {motive : Text → Prop} (last : ∀ text, Solid text → motive text)
    (cut : ∀ front blank back, Solid front → isBlank blank = true → motive back →
      motive (front ++ blank :: back)) (text : Text) : motive text :=
  piece_induction isBlank last cut text

@[simp] theorem words_nil : words [] = [] := rfl

theorem words_of_solid (solid : Solid text) (filled : text ≠ []) : words text = [text] := by
  rw [words, List.splitOnP_eq_singleton solid]
  simp [filled]

/-- A blank ends one word and begins no other. -/
theorem words_append_blank (blank : isBlank c = true) (front back : Text) :
    words (front ++ c :: back) = words front ++ words back := by
  rw [words, List.splitOnP_append_cons front back blank, List.filter_append, words, words]

theorem words_blank_cons (blank : isBlank c = true) (back : Text) :
    words (c :: back) = words back :=
  words_append_blank blank [] back

theorem words_append_of_blank {blanks : Text} (blank : ∀ c ∈ blanks, isBlank c = true)
    (front : Text) : words (front ++ blanks) = words front := by
  induction blanks generalizing front with
  | nil => rw [List.append_nil]
  | cons c rest ih =>
      rw [List.forall_mem_cons] at blank
      rw [words_append_blank blank.1, ← List.nil_append rest, ih blank.2, words_nil,
        List.append_nil]

theorem words_of_blank_append {blanks : Text} (blank : ∀ c ∈ blanks, isBlank c = true)
    (back : Text) : words (blanks ++ back) = words back := by
  induction blanks with
  | nil => rw [List.nil_append]
  | cons c rest ih =>
      rw [List.forall_mem_cons] at blank
      rw [List.cons_append, words_blank_cons blank.1, ih blank.2]

end Words

section Cleaning

variable {text : Text}

/-- Collapsing keeps the words, whatever stands in front; behind a blank it does not matter that the mark
of a run is already written. -/
theorem words_squeezeFrom (text : Text) :
    (∀ front, words (front ++ squeezeFrom isBlank ' ' false text) = words (front ++ text)) ∧
      words (squeezeFrom isBlank ' ' true text) = words text := by
  induction text with
  | nil => exact ⟨fun front => rfl, rfl⟩
  | cons c rest ih =>
      obtain ⟨inside, behind⟩ := ih
      rw [squeezeFrom, squeezeFrom]
      cases blank : isBlank c with
      | true =>
          simp only [↓reduceIte, Bool.false_eq_true]
          refine ⟨fun front => ?_, ?_⟩
          · rw [words_append_blank (by decide), words_append_blank blank, behind]
          · rw [words_blank_cons blank, behind]
      | false =>
          simp only [↓reduceIte, Bool.false_eq_true]
          -- The character goes to what stands in front, so that the word it is in stays whole.
          have further : ∀ front, words (front ++ c :: squeezeFrom isBlank ' ' false rest) =
              words (front ++ c :: rest) := by
            intro front
            have longer := inside (front ++ [c])
            rwa [List.append_assoc, List.append_assoc] at longer
          exact ⟨further, further []⟩

theorem words_trim (text : Text) : words (trim isBlank text) = words text := by
  have leading : words (text.dropWhile isBlank) = words text := by
    have split := List.takeWhile_append_dropWhile (p := isBlank) (l := text)
    conv_rhs => rw [← split]
    exact (words_of_blank_append (fun c member => List.mem_takeWhile_imp member) _).symm
  have trailing : ∀ back : Text, words (dropTrailing isBlank back) = words back := by
    intro back
    have split := congrArg List.reverse
      (List.takeWhile_append_dropWhile (p := isBlank) (l := back.reverse))
    rw [List.reverse_append, List.reverse_reverse] at split
    conv_rhs => rw [← split]
    refine (words_append_of_blank (fun c member => ?_) _).symm
    exact List.mem_takeWhile_imp (List.mem_reverse.mp member)
  rw [trim, trailing, leading]

theorem words_clean? {cleaned : Text} (result : clean? text = some cleaned) :
    words cleaned = words text := by
  rw [← trim_of_clean? result, words_trim]
  exact (words_squeezeFrom text).1 []

theorem words_eq_nil_iff (text : Text) : words text = [] ↔ ∀ c ∈ text, isBlank c = true := by
  constructor
  · intro none
    induction text using solid_induction with
    | last text solid =>
        by_cases empty : text = []
        · rw [empty]
          exact fun c member => absurd member List.not_mem_nil
        · rw [words_of_solid solid empty] at none
          cases none
    | cut front blank back solid ends ih =>
        rw [words_append_blank ends, List.append_eq_nil_iff] at none
        have empty : front = [] := by
          by_contra filled
          rw [words_of_solid solid filled] at none
          cases none.1
        rw [empty, List.nil_append, List.forall_mem_cons]
        exact ⟨ends, ih none.2⟩
  · intro blank
    exact words_append_of_blank blank []

/-- A tidy text is one word, or a word and a tidy text with a space between them. -/
theorem Tidy.solid_or_exists (tidy : Tidy text) :
    Solid text ∨ ∃ word back, text = word ++ ' ' :: back ∧ Solid word ∧ word ≠ [] ∧ Tidy back := by
  rcases free_or_exists isBlank text with solid | ⟨word, blank, back, rfl, solid, ends⟩
  · exact .inl solid
  -- The blank is a space with something on both sides, and what follows it begins with no other.
  obtain rfl : blank = ' ' := tidy.spaces blank (by simp) ends
  have filled : word ≠ [] := by
    rintro rfl
    have starts := tidy.starts ' ' rfl
    cases starts
  have more : back ≠ [] := by
    rintro rfl
    have stops := tidy.ends ' ' (by simp)
    cases stops
  have inside : (' ' :: back).IsChain fun c d => c = ' ' → d ≠ ' ' :=
    (List.isChain_append.mp tidy.single).2.1
  refine .inr ⟨word, back, rfl, solid, filled, more, ?_, ?_, ?_, inside.tail⟩
  · intro c first
    by_contra blank
    have space := tidy.spaces c (by simp [List.mem_of_mem_head? first]) (by simpa using blank)
    exact (List.isChain_cons.mp inside).1 c first rfl space
  · intro c last
    refine tidy.ends c ?_
    rw [List.getLast?_append_of_ne_nil _ (List.cons_ne_nil _ _)]
    obtain ⟨d, others, rfl⟩ := List.exists_cons_of_ne_nil more
    rwa [List.getLast?_cons_cons]
  · intro c member
    exact tidy.spaces c (by simp [member])

/-- A tidy text is its words with a space between each two of them. -/
theorem Tidy.join_words (tidy : Tidy text) : join [' '] (words text) = text := by
  induction length : text.length using Nat.strong_induction_on generalizing text with
  | h length ih =>
      rcases tidy.solid_or_exists with solid | ⟨word, back, rfl, solid, filled, further⟩
      · rw [words_of_solid solid tidy.filled, join_singleton]
      · have rest : join [' '] (words back) = back := by
          refine ih back.length ?_ further rfl
          rw [← length, List.length_append, List.length_cons]
          omega
        rw [words_append_blank (by decide), words_of_solid solid filled, List.singleton_append]
        cases split : words back with
        | nil =>
            rw [split] at rest
            exact absurd rest.symm further.filled
        | cons next others =>
            rw [split] at rest
            rw [join_cons_cons, rest, List.append_assoc, List.singleton_append]

/-- Cleaning leaves the words of a text with a space between each two of them, or nothing of a text
without words. -/
theorem clean?_eq_join_words (text : Text) :
    clean? text = if words text = [] then none else some (join [' '] (words text)) := by
  cases result : clean? text with
  | none =>
      rw [if_pos ((words_eq_nil_iff text).mpr ((clean?_eq_none_iff text).mp result))]
  | some cleaned =>
      have tidy := tidy_of_clean? result
      have joined := tidy.join_words
      rw [words_clean? result] at joined
      rw [joined, if_neg]
      intro none
      rw [none, join_nil] at joined
      exact tidy.filled joined.symm

theorem clean?_of_tidy (tidy : Tidy text) : clean? text = some text := by
  rw [clean?_eq_join_words, tidy.join_words, if_neg]
  intro none
  have joined := tidy.join_words
  rw [none, join_nil] at joined
  exact tidy.filled joined.symm

/-- Two texts are cleaned to the same exactly if they have the same words. -/
theorem clean?_eq_clean?_iff (text other : Text) :
    clean? text = clean? other ↔ words text = words other := by
  constructor
  · intro same
    cases result : clean? text with
    | some cleaned =>
        rw [← words_clean? result, words_clean? (same.symm.trans result)]
    | none =>
        rw [(words_eq_nil_iff text).mpr ((clean?_eq_none_iff text).mp result),
          (words_eq_nil_iff other).mpr ((clean?_eq_none_iff other).mp (same.symm.trans result))]
  · intro same
    rw [clean?_eq_join_words, clean?_eq_join_words, same]

end Cleaning

section Within

variable {text part : Text}

/-- What does not hold a character stands on one side of it. -/
theorem infix_append_cons_iff {c : Char} {front back : Text} (free : c ∉ part) :
    part <:+: front ++ c :: back ↔ part <:+: front ∨ part <:+: back := by
  constructor
  · rintro ⟨before, behind, split⟩
    rcases List.append_eq_append_iff.mp split with ⟨more, rfl, -⟩ | ⟨more, early, late⟩
    · exact .inl ⟨before, more, rfl⟩
    cases more with
    | nil => exact .inl ⟨before, [], by rw [early, List.append_nil, List.append_nil]⟩
    | cons d more =>
        obtain ⟨rfl, rfl⟩ := List.cons.inj late
        rcases List.append_eq_append_iff.mp early with ⟨inner, -, rfl⟩ | ⟨inner, -, rest⟩
        · exact absurd (List.mem_append_right inner List.mem_cons_self) free
        cases inner with
        | nil =>
            rw [List.nil_append] at rest
            exact absurd (rest ▸ List.mem_cons_self) free
        | cons e inner =>
            obtain ⟨-, rfl⟩ := List.cons.inj rest
            exact .inr ⟨inner, behind, rfl⟩
  · rintro (inside | inside)
    · exact inside.trans (List.prefix_append _ _).isInfix
    · exact inside.trans ((List.suffix_cons _ _).trans (List.suffix_append _ _)).isInfix

/-- What holds something but no blanks stands in one word. -/
theorem infix_iff_exists_mem_words (solid : Solid part) (filled : part ≠ []) :
    part <:+: text ↔ ∃ word ∈ words text, part <:+: word := by
  have alone : ∀ {text : Text}, Solid text →
      (part <:+: text ↔ ∃ word ∈ words text, part <:+: word) := by
    intro text whole
    by_cases empty : text = []
    · simp [empty, filled]
    · simp [words_of_solid whole empty]
  induction text using solid_induction with
  | last text whole => exact alone whole
  | cut front blank back whole ends ih =>
      have free : blank ∉ part := by
        intro member
        rw [solid blank member] at ends
        cases ends
      rw [infix_append_cons_iff free, words_append_blank ends, or_congr (alone whole) ih]
      simp only [List.mem_append, or_and_right, exists_or]

/-- Cleaning neither joins nor parts what holds no blanks. -/
theorem infix_clean?_iff (solid : Solid part) (filled : part ≠ []) {cleaned : Text}
    (result : clean? text = some cleaned) : part <:+: cleaned ↔ part <:+: text := by
  rw [infix_iff_exists_mem_words solid filled, infix_iff_exists_mem_words solid filled,
    words_clean? result]

end Within

end Text

end NestedStyles
