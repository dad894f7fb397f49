import Mathlib.Data.List.TakeWhile
import NestedStyles.Text.Blank

/-!
What cleaning keeps of a text. A text is cleaned to nothing exactly if it holds nothing but blanks.
-/

set_option autoImplicit false

namespace NestedStyles

namespace Text

theorem dropTrailing_eq_nil_iff (test : Char → Bool) (text : Text) :
    dropTrailing test text = [] ↔ ∀ c ∈ text, test c = true := by
  simp only [dropTrailing, List.reverse_eq_nil_iff, List.dropWhile_eq_nil_iff, List.mem_reverse]

/-- Trimming leaves nothing of a text exactly if every character satisfies the test. -/
theorem trim_eq_nil_iff (test : Char → Bool) (text : Text) :
    trim test text = [] ↔ ∀ c ∈ text, test c = true := by
  rw [trim, dropTrailing_eq_nil_iff]
  induction text with
  | nil => simp only [List.dropWhile_nil]
  | cons c rest ih =>
      cases passes : test c with
      | false => simp only [List.dropWhile_cons, passes, Bool.false_eq_true, ↓reduceIte]
      | true =>
          simp only [List.dropWhile_cons, passes, ↓reduceIte, ih, List.mem_cons, forall_eq_or_imp,
            true_and]

/-- Squeezing runs into a mark that satisfies the test makes no difference to whether all
characters do. -/
theorem forall_mem_squeezeFrom {test : Char → Bool} {mark : Char} (marked : test mark = true)
    (after : Bool) (text : Text) :
    (∀ c ∈ squeezeFrom test mark after text, test c = true) ↔ ∀ c ∈ text, test c = true := by
  induction text generalizing after with
  | nil => simp only [squeezeFrom]
  | cons c rest ih =>
      cases passes : test c with
      | false =>
          simp only [squeezeFrom, passes, Bool.false_eq_true, ↓reduceIte, List.mem_cons,
            forall_eq_or_imp, false_and]
      | true =>
          cases after with
          | true =>
              simp only [squeezeFrom, passes, ↓reduceIte, ih, List.mem_cons, forall_eq_or_imp,
                true_and]
          | false =>
              simp only [squeezeFrom, passes, Bool.false_eq_true, ↓reduceIte, ih, List.mem_cons,
                forall_eq_or_imp, marked, true_and]

theorem clean?_eq_none_iff (text : Text) :
    clean? text = none ↔ ∀ c ∈ text, isBlank c = true := by
  have nothing : trim isBlank (collapse text) = [] ↔ ∀ c ∈ text, isBlank c = true := by
    rw [trim_eq_nil_iff, collapse, squeeze]
    exact forall_mem_squeezeFrom (by decide) false text
  rw [← nothing, clean?]
  split
  · rename_i empty
    simp only [empty]
  · rename_i c rest left
    simp only [left, reduceCtorEq]

theorem clean?_isSome_iff (text : Text) :
    (clean? text).isSome = true ↔ ∃ c ∈ text, isBlank c = false := by
  rw [← Option.ne_none_iff_isSome, ne_eq, clean?_eq_none_iff]
  simp only [not_forall, exists_prop, Bool.not_eq_true]

/-- What is cleaned is collapsed and trimmed. -/
theorem trim_of_clean? {text cleaned : Text} (result : clean? text = some cleaned) :
    trim isBlank (collapse text) = cleaned := by
  rw [clean?] at result
  split at result
  · cases result
  · rename_i c rest left
    rw [left]
    exact Option.some.inj result

theorem ne_nil_of_clean? {text cleaned : Text} (result : clean? text = some cleaned) :
    cleaned ≠ [] := by
  rw [clean?] at result
  split at result
  · cases result
  · cases result
    exact List.cons_ne_nil _ _

end Text

end NestedStyles
