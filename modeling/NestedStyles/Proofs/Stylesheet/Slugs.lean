import NestedStyles.Proofs.Text.Tidiness
import NestedStyles.Stylesheet.Slug

/-!
What a slug is made of. It has the letters and digits that its text spells in ASCII, in their order, with
the separator between some of them and nowhere else; so it begins with the first of them.
-/

set_option autoImplicit false

namespace NestedStyles

namespace Text

section Filter

variable {test look : Char → Bool} {mark : Char}

/-- Squeezing loses nothing that is looked for, if neither the runs nor the mark are. -/
theorem filter_squeezeFrom (other : ∀ c, test c = true → look c = false)
    (marked : look mark = false) (text : Text) :
    ∀ after, (squeezeFrom test mark after text).filter look = text.filter look := by
  induction text with
  | nil => exact fun after => rfl
  | cons c rest ih =>
      intro after
      rw [squeezeFrom]
      cases tested : test c with
      | false => rw [if_neg Bool.false_ne_true, List.filter_cons, List.filter_cons, ih]
      | true =>
          have unseen : ¬ look c = true := by rw [other c tested]; exact Bool.false_ne_true
          have unmarked : ¬ look mark = true := by rw [marked]; exact Bool.false_ne_true
          rw [if_pos rfl, List.filter_cons_of_neg unseen]
          cases after with
          | true => exact ih true
          | false => rw [if_neg Bool.false_ne_true, List.filter_cons_of_neg unmarked, ih]

theorem filter_dropWhile (other : ∀ c, test c = true → look c = false) (text : Text) :
    (text.dropWhile test).filter look = text.filter look := by
  have none : (text.takeWhile test).filter look = [] := by
    rw [List.filter_eq_nil_iff]
    intro c member
    rw [other c (List.mem_takeWhile_imp member)]
    exact Bool.false_ne_true
  conv_rhs => rw [← List.takeWhile_append_dropWhile (p := test) (l := text)]
  rw [List.filter_append, none, List.nil_append]

theorem filter_trim (other : ∀ c, test c = true → look c = false) (text : Text) :
    (trim test text).filter look = text.filter look := by
  rw [trim, dropTrailing, List.filter_reverse, filter_dropWhile other, List.filter_reverse,
    List.reverse_reverse, filter_dropWhile other]

/-- What is left of a squeezed text besides marks is not tested for. -/
theorem eq_mark_or_not_of_mem_squeezeFrom {c : Char} {text : Text} :
    ∀ {after}, c ∈ squeezeFrom test mark after text → c = mark ∨ test c = false ∧ c ∈ text := by
  induction text with
  | nil => exact fun member => absurd member List.not_mem_nil
  | cons d rest ih =>
      intro after member
      have longer : c = mark ∨ test c = false ∧ c ∈ rest → c = mark ∨ test c = false ∧ c ∈ d :: rest :=
        Or.imp_right (And.imp_right (List.mem_cons_of_mem d))
      rw [squeezeFrom] at member
      split at member
      · split at member
        · exact longer (ih member)
        · rcases List.mem_cons.mp member with rfl | behind
          · exact Or.inl rfl
          · exact longer (ih behind)
      · rename_i solid
        rcases List.mem_cons.mp member with rfl | behind
        · exact Or.inr ⟨Bool.eq_false_iff.mpr solid, List.mem_cons_self⟩
        · exact longer (ih behind)

end Filter

/-- One character in the place of another. -/
theorem replace_singleton (c d : Char) (text : Text) :
    replace [c] [d] text = text.map fun e => if e = c then d else e := by
  rw [replace]
  induction text with
  | nil => rfl
  | cons e rest ih =>
      rw [substitute, List.map_cons]
      by_cases same : e = c
      · rw [if_pos (by simp [same]), if_pos same]
        exact congrArg (d :: ·) ih
      · rw [if_neg (by simpa using Ne.symm same), if_neg same, ih]

end Text

open Text

namespace Slug

theorem isAlphanum_eq_false_of_beq {c d : Char} (other : d.isAlphanum = false)
    (same : (c == d) = true) : c.isAlphanum = false := by
  rw [beq_iff_eq.mp same, other]

theorem filter_withoutDigitCommas (text : Text) :
    ∀ before, (withoutDigitCommas before text).filter Char.isAlphanum =
      text.filter Char.isAlphanum := by
  induction text with
  | nil => exact fun before => rfl
  | cons c rest ih =>
      intro before
      rw [withoutDigitCommas]
      split
      · rename_i dropped
        simp only [Bool.and_eq_true] at dropped
        have unseen := isAlphanum_eq_false_of_beq (d := ',') rfl dropped.1.1
        rw [ih, List.filter_cons_of_neg (by rw [unseen]; exact Bool.false_ne_true)]
      · rw [List.filter_cons, List.filter_cons, ih]

variable [Romanization]

/-- What a text spells in ASCII, with its references resolved. -/
def spelled (lowercase : Bool) (text : Text) : Text :=
  let ascii := Romanization.romanized (decomposed (squeeze (· == '\'') '-' text))
  let plain := decomposed (Reference.decodeBasic ascii)
  if lowercase then asciiLower plain else plain

/-- The first letter or digit that a text spells. -/
def initial? (lowercase : Bool) (text : Text) : Option Char :=
  (spelled lowercase text).find? Char.isAlphanum

theorem hyphenated_eq (lowercase : Bool) (text : Text) :
    hyphenated lowercase text = trim (· == '-') (squeeze (· == '-') '-' (squeeze
      (fun c => !isAllowed c) '-'
      (withoutDigitCommas none ((spelled lowercase text).filter (· != '\''))))) :=
  rfl

/-- A slug has the letters and digits that its text spells. -/
theorem filter_isAlphanum_hyphenated (lowercase : Bool) (text : Text) :
    (hyphenated lowercase text).filter Char.isAlphanum =
      (spelled lowercase text).filter Char.isAlphanum := by
  have hyphen : ∀ c, (c == '-') = true → c.isAlphanum = false :=
    fun c => isAlphanum_eq_false_of_beq rfl
  have refused : ∀ c, (!isAllowed c) = true → c.isAlphanum = false := by
    intro c
    rw [isAllowed]
    cases c.isAlphanum <;> simp
  have quotes : ((spelled lowercase text).filter (· != '\'')).filter Char.isAlphanum =
      (spelled lowercase text).filter Char.isAlphanum := by
    rw [List.filter_filter]
    refine List.filter_congr fun c _ => ?_
    cases seen : c.isAlphanum with
    | false => rfl
    | true =>
        have other : c ≠ '\'' := by
          rintro rfl
          cases seen
        simp [other]
  rw [hyphenated_eq, filter_trim hyphen, squeeze, filter_squeezeFrom hyphen rfl, squeeze,
    filter_squeezeFrom refused rfl, filter_withoutDigitCommas, quotes]

theorem isAllowed_of_mem_hyphenated {lowercase : Bool} {text : Text} {c : Char}
    (member : c ∈ hyphenated lowercase text) : isAllowed c = true := by
  rw [hyphenated_eq] at member
  have inside := List.IsInfix.mem member <| trim_infix _ _
  rcases eq_mark_or_not_of_mem_squeezeFrom inside with rfl | ⟨-, within⟩
  · rfl
  · rcases eq_mark_or_not_of_mem_squeezeFrom within with rfl | ⟨allowed, -⟩
    · rfl
    · simpa using allowed

/-- A slug begins with the first letter or digit that its text spells. -/
theorem head?_hyphenated (lowercase : Bool) (text : Text) :
    (hyphenated lowercase text).head? = initial? lowercase text := by
  rw [initial?, ← List.head?_filter, ← filter_isAlphanum_hyphenated]
  cases slug : hyphenated lowercase text with
  | nil => rfl
  | cons c rest =>
      have first : c ∈ (hyphenated lowercase text).head? := by rw [slug]; rfl
      have allowed := isAllowed_of_mem_hyphenated (List.mem_of_mem_head? first)
      rw [hyphenated_eq] at first
      have other := not_of_mem_head?_trim first
      rw [isAllowed, other, Bool.or_false] at allowed
      rw [List.filter_cons_of_pos allowed, List.head?_cons, List.head?_cons]

end Slug

end NestedStyles
