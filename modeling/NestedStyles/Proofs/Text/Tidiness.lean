import Mathlib.Data.List.Chain
import NestedStyles.Proofs.Text.Cleaning

/-!
What a cleaned text looks like: it is tidy, and so are tidy texts joined with commas.
-/

set_option autoImplicit false

namespace NestedStyles

namespace Text

/-- A text that says something on one line: no blanks at its ends, and none inside but single spaces. -/
structure Tidy (text : Text) : Prop where
  filled : text ≠ []
  starts : ∀ c ∈ text.head?, isBlank c = false
  ends : ∀ c ∈ text.getLast?, isBlank c = false
  spaces : ∀ c ∈ text, isBlank c = true → c = ' '
  single : text.IsChain fun c d => c = ' ' → d ≠ ' '

/-- Collapsing leaves no blanks but spaces. -/
theorem eq_space_of_mem_squeezeFrom (text : Text) :
    ∀ after, ∀ c ∈ squeezeFrom isBlank ' ' after text, isBlank c = true → c = ' ' := by
  induction text with
  | nil =>
      intro after c member
      cases member
  | cons d rest ih =>
      intro after c member blank
      rw [squeezeFrom] at member
      split at member
      · split at member
        · exact ih true c member blank
        · rcases List.mem_cons.mp member with rfl | behind
          · rfl
          · exact ih true c behind blank
      · rename_i solid
        rcases List.mem_cons.mp member with rfl | behind
        · exact absurd blank solid
        · exact ih false c behind blank

/-- Collapsing leaves no space behind a space, neither inside nor behind a mark already written. -/
theorem isChain_squeezeFrom (text : Text) :
    ∀ after, (squeezeFrom isBlank ' ' after text).IsChain (fun c d => c = ' ' → d ≠ ' ') ∧
      (after = true → ∀ c ∈ (squeezeFrom isBlank ' ' after text).head?, c ≠ ' ') := by
  induction text with
  | nil =>
      intro after
      refine ⟨List.IsChain.nil, ?_⟩
      intro _ c member
      cases member
  | cons d rest ih =>
      intro after
      obtain ⟨inside, never⟩ := ih true
      rw [squeezeFrom]
      by_cases blank : isBlank d = true
      · cases after with
        | true =>
            simp only [blank, ↓reduceIte]
            exact ⟨inside, fun _ => never rfl⟩
        | false =>
            simp only [blank, ↓reduceIte, Bool.false_eq_true]
            refine ⟨List.isChain_cons.mpr ⟨?_, inside⟩, fun absurd => absurd.elim⟩
            intro c member _
            exact never rfl c member
      · have other : d ≠ ' ' := by
          rintro rfl
          exact blank rfl
        simp only [blank, Bool.false_eq_true, ↓reduceIte]
        refine ⟨List.isChain_cons.mpr ⟨?_, (ih false).1⟩, ?_⟩
        · intro c _ space
          exact absurd space other
        · intro _ c member
          rw [List.head?_cons, Option.mem_some_iff] at member
          rw [← member]
          exact other

/-- Dropping at the end leaves a beginning of the text. -/
theorem exists_dropTrailing_append (test : Char → Bool) (text : Text) :
    ∃ back, dropTrailing test text ++ back = text := by
  have front : dropTrailing test text <+: text := by
    rw [dropTrailing, ← List.reverse_suffix, List.reverse_reverse]
    exact List.dropWhile_suffix test
  exact front

theorem trim_infix (test : Char → Bool) (text : Text) : trim test text <:+: text := by
  obtain ⟨back, whole⟩ := exists_dropTrailing_append test (text.dropWhile test)
  obtain ⟨front, split⟩ := List.dropWhile_suffix (l := text) test
  refine ⟨front, back, ?_⟩
  rw [trim, List.append_assoc, whole, split]

theorem not_of_mem_head?_dropWhile {test : Char → Bool} {text : Text} {c : Char}
    (first : c ∈ (text.dropWhile test).head?) : test c = false := by
  have stops := List.head?_dropWhile_not test text
  rw [Option.mem_def] at first
  rwa [first] at stops

theorem not_of_mem_head?_trim {test : Char → Bool} {text : Text} {c : Char}
    (first : c ∈ (trim test text).head?) : test c = false := by
  obtain ⟨back, whole⟩ := exists_dropTrailing_append test (text.dropWhile test)
  apply not_of_mem_head?_dropWhile
  rw [← whole]
  exact List.mem_head?_append_of_mem_head? first

theorem not_of_mem_getLast?_trim {test : Char → Bool} {text : Text} {c : Char}
    (last : c ∈ (trim test text).getLast?) : test c = false := by
  rw [trim, dropTrailing, List.getLast?_reverse] at last
  exact not_of_mem_head?_dropWhile last

/-- A cleaned text is tidy. -/
theorem tidy_of_clean? {text cleaned : Text} (result : clean? text = some cleaned) : Tidy cleaned := by
  have filled := ne_nil_of_clean? result
  have trimmed := trim_of_clean? result
  have inside := trim_infix isBlank (collapse text)
  rw [trimmed] at inside
  refine ⟨filled, ?_, ?_, ?_, ?_⟩
  · intro c first
    rw [← trimmed] at first
    exact not_of_mem_head?_trim first
  · intro c last
    rw [← trimmed] at last
    exact not_of_mem_getLast?_trim last
  · intro c member
    exact eq_space_of_mem_squeezeFrom text false c (inside.subset member)
  · obtain ⟨front, back, whole⟩ := inside
    have chain := (isChain_squeezeFrom text false).1
    rw [← squeeze, ← collapse, ← whole, List.isChain_append, List.isChain_append] at chain
    exact chain.1.2.1

/-- Two tidy texts with a comma and a space between them are tidy. -/
theorem Tidy.append {front back : Text} (first : Tidy front) (second : Tidy back) :
    Tidy (front ++ ", ".toList ++ back) := by
  have comma : ", ".toList = [',', ' '] := by decide
  rw [comma]
  refine ⟨?_, ?_, ?_, ?_, ?_⟩
  · simp
  · intro c member
    rw [List.append_assoc, List.head?_append_of_ne_nil _ first.filled] at member
    exact first.starts c member
  · intro c member
    rw [List.getLast?_append_of_ne_nil _ second.filled] at member
    exact second.ends c member
  · intro c member blank
    rw [List.mem_append, List.mem_append] at member
    rcases member with (inFront | between) | inBack
    · exact first.spaces c inFront blank
    · simp only [List.mem_cons, List.not_mem_nil, or_false] at between
      rcases between with rfl | rfl
      · cases blank
      · rfl
    · exact second.spaces c inBack blank
  · have between : ([',', ' '] : Text).IsChain fun c d => c = ' ' → d ≠ ' ' := by
      rw [List.isChain_cons_cons]
      exact ⟨fun comma => absurd comma (by decide), List.IsChain.singleton _⟩
    rw [List.append_assoc, List.isChain_append, List.isChain_append]
    refine ⟨first.single, ⟨between, second.single, ?_⟩, ?_⟩
    · intro c _ d member _ space
      have solid := second.starts d member
      rw [space] at solid
      cases solid
    · intro c member d comma space
      have solid := first.ends c member
      rw [space] at solid
      cases solid

/-- Tidy texts joined with commas are tidy. -/
theorem tidy_join {parts : List Text} (some : parts ≠ []) (tidy : ∀ part ∈ parts, Tidy part) :
    Tidy (join ", ".toList parts) := by
  induction parts with
  | nil => exact absurd rfl some
  | cons part rest ih =>
      rw [List.forall_mem_cons] at tidy
      cases rest with
      | nil =>
          rw [join_singleton]
          exact tidy.1
      | cons next more =>
          rw [join_cons_cons]
          exact tidy.1.append (ih (List.cons_ne_nil _ _) tidy.2)

end Text

end NestedStyles
