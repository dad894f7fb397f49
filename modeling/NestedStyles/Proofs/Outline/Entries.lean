import NestedStyles.Proofs.Outline.NormalForm
import NestedStyles.Proofs.Text.Tidiness

/-!
The entries of an outline: where style blocks and elements stand, and what is known of each element
wherever it stands.
-/

set_option autoImplicit false

namespace NestedStyles

/-- What an outline says of an element, and that it says something, for itself or below. -/
structure Subject.Proper (subject : Subject) (children : Option (List Entry)) : Prop where
  carries : subject.styling ≠ none ∨ children ≠ none
  listed : children ≠ some []
  nested : ∀ child ∈ children.getD [], child.isElement = true
  filled : ∀ styling, subject.styling = some styling →
    styling.classes ≠ none ∨ styling.inlineStyle ≠ none
  classes : ∀ value, subject.classes = some value → Text.Tidy value
  inlineStyle : ∀ value, subject.inlineStyle = some value → Text.Tidy value
  label : subject.label = [] ∨ Text.Tidy subject.label

namespace Outline

/-- What it means that an outline is in order: style blocks in front of elements and never below, and
every element proper. -/
structure InOrder (outline : List Entry) : Prop where
  front : ∃ (blocks : List StyleBlock) (elements : List Entry),
    outline = blocks.map Entry.block ++ elements ∧
    ∀ entry ∈ elements, entry.isElement = true
  top : ∀ place block, Place.at? Entry.children outline place = some (.block block) →
    ∃ index, place = [index]
  proper : ∀ place subject children,
    Place.at? Entry.children outline place = some (.element subject children) →
    subject.Proper children

/-- A label is empty or tidy, whatever the comments say. -/
theorem eq_nil_or_tidy_label (before : List Node) : label before = [] ∨ Text.Tidy (label before) := by
  rw [label]
  by_cases silent : ((before.take labelReach).filterMap labelPart?).reverse = []
  · rw [silent]
    exact Or.inl rfl
  · right
    apply Text.tidy_join silent
    intro part member
    rw [List.mem_reverse, List.mem_filterMap] at member
    obtain ⟨node, -, given⟩ := member
    cases node with
    | comment content => exact Text.tidy_of_clean? given
    | text content => cases given
    | element tag attributes children => cases given

/-- The entry that a node adds is proper. -/
theorem proper_of_nodeElement? {depth : Int} {before : List Node} {node : Node} {subject : Subject}
    {children : Option (List Entry)}
    (added : nodeElement? depth before node = some (.element subject children)) :
    subject.Proper children := by
  obtain ⟨tag, attributes, inner, rfl, -, own⟩ := nodeElement?_eq_some added
  have below : ∀ child ∈ (level (depth + 1) inner).elements, child.isElement = true :=
    isElement_of_mem_elements
  have said : subject = ⟨tag, label before, depth, Styling.ofAttributes? attributes⟩ ∧
      (subject.styling ≠ none ∨ children ≠ none) ∧ children ≠ some [] ∧
      ∀ child ∈ children.getD [], child.isElement = true := by
    rcases element?_eq_some own with ⟨-, styled, same⟩ | ⟨filled, same⟩
    · cases same
      exact ⟨rfl, Or.inl styled, by simp, by simp⟩
    · cases same
      exact ⟨rfl, Or.inr (by simp), by simpa using filled, below⟩
  obtain ⟨rfl, carries, listed, nested⟩ := said
  refine ⟨carries, listed, nested, fun styling given => (cleaned_ofAttributes? given).filled, ?_, ?_,
    eq_nil_or_tidy_label before⟩
  · intro value given
    obtain ⟨styling, styled, classes⟩ := Option.bind_eq_some_iff.mp given
    obtain ⟨text, cleans⟩ := (cleaned_ofAttributes? styled).classes value classes
    exact Text.tidy_of_clean? cleans
  · intro value given
    obtain ⟨styling, styled, inlineStyle⟩ := Option.bind_eq_some_iff.mp given
    obtain ⟨text, cleans⟩ := (cleaned_ofAttributes? styled).inlineStyle value inlineStyle
    exact Text.tidy_of_clean? cleans

/-- What stands in an outline is one of its style blocks or stands in its elements. -/
theorem at?_entries {level : Level} {place : Place} {entry : Entry}
    (stands : Place.at? Entry.children level.entries place = some entry) :
    (∃ index block, place = [index] ∧ entry = .block block) ∨
      ∃ place, Place.at? Entry.children level.elements place = some entry := by
  have split (index : Nat) : level.entries[index]? =
      if index < level.blocks.length then level.blocks[index]?.map Entry.block
      else level.elements[index - level.blocks.length]? := by
    rw [Level.entries, List.getElem?_append, List.length_map, List.getElem?_map]
  rcases place with _ | ⟨index, _ | ⟨inner, rest⟩⟩
  · rw [Place.at?_nil] at stands
    cases stands
  · rw [Place.at?_singleton, split] at stands
    split at stands
    · obtain ⟨block, -, rfl⟩ := Option.map_eq_some_iff.mp stands
      exact Or.inl ⟨index, block, rfl, rfl⟩
    · exact Or.inr ⟨[index - level.blocks.length], by rw [Place.at?_singleton, stands]⟩
  · rw [Place.at?_cons_cons, split] at stands
    obtain ⟨above, found, below⟩ := Option.bind_eq_some_iff.mp stands
    split at found
    · obtain ⟨block, -, rfl⟩ := Option.map_eq_some_iff.mp found
      rw [Entry.children, Place.at?_empty] at below
      cases below
    · refine Or.inr ⟨(index - level.blocks.length) :: inner :: rest, ?_⟩
      rw [Place.at?_cons_cons, found, Option.bind_some, below]

/-- The outline of a forest is in order. -/
theorem inOrder_ofForest? {depth : Int} {forest : List Node} {outline : List Entry}
    (made : ofForest? depth forest = some outline) : InOrder outline := by
  have entries : outline = (level depth forest).entries :=
    (eq_of_ofForest? made).trans (ofForest_eq depth forest)
  subst entries
  refine ⟨⟨_, _, rfl, isElement_of_mem_elements⟩, ?_, ?_⟩
  · intro place block stands
    rcases at?_entries stands with ⟨index, _, rfl, -⟩ | ⟨inside, below⟩
    · exact ⟨index, rfl⟩
    · exact absurd (isElement_of_at?_elements inside below) Bool.false_ne_true
  · intro place subject children stands
    rcases at?_entries stands with ⟨_, _, -, other⟩ | ⟨inside, below⟩
    · cases other
    · obtain ⟨_, _, _, added⟩ := exists_nodeElement?_of_at? inside below
      exact proper_of_nodeElement? added

end Outline

end NestedStyles
