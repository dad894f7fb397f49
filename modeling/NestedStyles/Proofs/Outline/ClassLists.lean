import NestedStyles.Proofs.Outline.Level

/-!
The class lists of an outline are those of the forest it was made from, in document order. A dropped
element has none, neither for itself nor below.
-/

set_option autoImplicit false

namespace NestedStyles

namespace Node

/-- The cleaned class list of an element that is not a style element. -/
def classList? : Node → Option Text
  | element tag attributes _ =>
    if tag = styleTag then none else (attributes.first? "class".toList).bind Text.clean?
  | _ => none

end Node

namespace Outline

def classLists : List Entry → List Text
  | [] => []
  | .block _ :: rest => classLists rest
  | .element subject none :: rest => subject.classes.toList ++ classLists rest
  | .element subject (some children) :: rest =>
    subject.classes.toList ++ classLists children ++ classLists rest

@[simp] theorem classLists_nil : classLists [] = [] := by
  rw [classLists]

theorem classLists_cons (subject : Subject) (children : Option (List Entry)) (rest : List Entry) :
    classLists (.element subject children :: rest) =
      subject.classes.toList ++ classLists (children.getD []) ++ classLists rest := by
  cases children with
  | none => rw [classLists, Option.getD_none, classLists_nil, List.append_nil]
  | some children => rw [classLists, Option.getD_some]

/-- An element that is dropped loses no class list. -/
theorem classLists_element?_append (subject : Subject) (below others : List Entry) :
    classLists ((element? subject below).toList ++ others) =
      subject.classes.toList ++ classLists below ++ classLists others := by
  cases added : element? subject below with
  | some entry =>
      obtain ⟨children, rfl, elements⟩ := eq_element_of_element? added
      rw [Option.toList_some, List.singleton_append, classLists_cons, elements]
  | none =>
      have dropped : ¬ (subject.styling ≠ none ∨ below ≠ []) := by
        rw [← isSome_element?, added]
        exact Bool.false_ne_true
      rw [not_or, not_not, not_not] at dropped
      rw [Subject.classes, dropped.1, dropped.2]
      simp

/-- A node adds its own class list and those below it. -/
theorem classLists_nodeElement?_append (depth : Int) (before : List Node) (node : Node)
    (others : List Entry) :
    classLists ((nodeElement? depth before node).toList ++ others) =
      node.classList?.toList ++ classLists (level (depth + 1) node.inner).elements ++
        classLists others := by
  have leaf : classLists (level (depth + 1) []).elements = [] := by
    rw [level, elements_levelFrom_nil, classLists_nil]
  cases node with
  | text content =>
      have nothing : (Node.text content).inner = [] := rfl
      rw [nothing, leaf]
      rfl
  | comment content =>
      have nothing : (Node.comment content).inner = [] := rfl
      rw [nothing, leaf]
      rfl
  | element tag attributes children =>
      by_cases style : tag = Node.styleTag
      · have nothing : (Node.element tag attributes children).inner = [] :=
          Node.inner_of_isStyle (beq_iff_eq.mpr style)
        rw [nothing, leaf, nodeElement?, if_pos style, Node.classList?, if_pos style]
        rfl
      · have all : (Node.element tag attributes children).inner = children :=
          Node.inner_of_not_isStyle (Node.isStyle_of_tag_ne style attributes children)
        rw [all, nodeElement?, if_neg style, Node.classList?, if_neg style,
          classLists_element?_append, Subject.classes, classes_ofAttributes?]

/-- No class list is lost, doubled, moved or changed on the way from a forest to its outline. -/
theorem classLists_levelFrom (forest : List Node) :
    ∀ depth before, classLists (levelFrom depth before forest).elements =
      Node.gather Node.classList? forest := by
  induction forest using Node.forest_induction with
  | nil =>
      intro depth before
      rw [elements_levelFrom_nil, classLists_nil, Node.gather_nil]
  | cons node rest ihChildren ihRest =>
      intro depth before
      have below : classLists (level (depth + 1) node.inner).elements =
          Node.gather Node.classList? node.inner := by
        cases style : node.isStyle with
        | true =>
            rw [Node.inner_of_isStyle style, level, elements_levelFrom_nil, classLists_nil,
              Node.gather_nil]
        | false =>
            rw [Node.inner_of_not_isStyle style]
            exact ihChildren (depth + 1) []
      rw [elements_levelFrom_cons, classLists_nodeElement?_append, below, ihRest, Node.gather_cons]

theorem classLists_level (depth : Int) (forest : List Node) :
    classLists (level depth forest).elements = Node.gather Node.classList? forest :=
  classLists_levelFrom forest depth []

end Outline

end NestedStyles
