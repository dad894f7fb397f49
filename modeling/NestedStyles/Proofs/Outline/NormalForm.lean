import NestedStyles.Proofs.Outline.Level

/-!
The normal form of what an outline keeps. Each element says something, for itself or below, and counts
one level more than the element it stands in.
-/

set_option autoImplicit false

namespace NestedStyles

/-- A styling with at least one value, each of them cleaned. -/
structure Styling.Cleaned (styling : Styling) : Prop where
  filled : styling.classes ≠ none ∨ styling.inlineStyle ≠ none
  classes : ∀ value, styling.classes = some value → ∃ text, Text.clean? text = some value
  inlineStyle : ∀ value, styling.inlineStyle = some value → ∃ text, Text.clean? text = some value

namespace Outline

/-- Elements in normal form, on a level of the given depth. -/
inductive Normal : Int → List Entry → Prop
  | nil (depth : Int) : Normal depth []
  | leaf {depth : Int} {subject : Subject} {rest : List Entry}
      (level : subject.depth = depth)
      (styled : subject.styling ≠ none)
      (cleaned : ∀ styling, subject.styling = some styling → styling.Cleaned)
      (others : Normal depth rest) :
      Normal depth (.element subject none :: rest)
  | branch {depth : Int} {subject : Subject} {child : Entry} {more rest : List Entry}
      (level : subject.depth = depth)
      (cleaned : ∀ styling, subject.styling = some styling → styling.Cleaned)
      (below : Normal (depth + 1) (child :: more))
      (others : Normal depth rest) :
      Normal depth (.element subject (some (child :: more)) :: rest)

theorem cleaned_ofAttributes? {attributes : Attributes} {styling : Styling}
    (given : Styling.ofAttributes? attributes = some styling) : styling.Cleaned := by
  have cleaned : ∀ name value, (attributes.first? name).bind Text.clean? = some value →
      ∃ text, Text.clean? text = some value := by
    intro name value result
    obtain ⟨text, -, cleaned⟩ := Option.bind_eq_some_iff.mp result
    exact ⟨text, cleaned⟩
  rw [Styling.ofAttributes?] at given
  split at given
  · cases given
  · rename_i filled
    cases given
    refine ⟨?_, cleaned _, cleaned _⟩
    rw [Bool.and_eq_true, Option.isNone_iff_eq_none, Option.isNone_iff_eq_none, not_and_or] at filled
    exact filled

/-- An entry that a node adds keeps its level in normal form. -/
theorem Normal.cons_of_element? {depth : Int} {tag : Text} {attributes : Attributes} {text : Text}
    {children rest : List Entry} {entry : Entry}
    (added : element? ⟨tag, text, depth, Styling.ofAttributes? attributes⟩ children = some entry)
    (below : Normal (depth + 1) children) (others : Normal depth rest) :
    Normal depth (entry :: rest) := by
  rcases element?_eq_some added with ⟨-, styled, rfl⟩ | ⟨filled, rfl⟩
  · exact Normal.leaf rfl styled (fun styling given => cleaned_ofAttributes? given) others
  · obtain ⟨child, more, rfl⟩ := List.exists_cons_of_ne_nil filled
    exact Normal.branch rfl (fun styling given => cleaned_ofAttributes? given) below others

/-- The elements of a level are in normal form. -/
theorem normal_levelFrom (forest : List Node) :
    ∀ depth before, Normal depth (levelFrom depth before forest).elements := by
  induction forest using Node.forest_induction with
  | nil =>
      intro depth before
      rw [elements_levelFrom_nil]
      exact Normal.nil depth
  | cons node rest ihChildren ihRest =>
      intro depth before
      rw [elements_levelFrom_cons]
      cases added : nodeElement? depth before node with
      | none => exact ihRest depth _
      | some entry =>
          obtain ⟨tag, attributes, children, rfl, -, own⟩ := nodeElement?_eq_some added
          exact Normal.cons_of_element? own (ihChildren (depth + 1) []) (ihRest depth _)

theorem normal_level (depth : Int) (forest : List Node) :
    Normal depth (level depth forest).elements :=
  normal_levelFrom forest depth []

end Outline

end NestedStyles
