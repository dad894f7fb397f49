import Mathlib
import NestedStyles.Proofs.Outline.StyledPart

/-!
Where the label of an element comes from. The level of an element is read in one pass that carries the
candidates met so far; here the label is read off the siblings of the element alone, by a walk from the
element to the left.
-/

set_option autoImplicit false

namespace NestedStyles

namespace Node

def comment? : Node → Option Text
  | comment content => some content
  | _ => none

/-- The nodes among which a place ends: the children of what stands above it, or the roots. -/
def siblings (forest : List Node) (place : Place) : List Node :=
  match place.dropLast with
  | [] => forest
  | above => (Place.at? children forest above).elim [] children

/-- The siblings in front of a place, in document order. -/
def inFront (forest : List Node) (place : Place) : List Node :=
  (siblings forest place).take (place.getLast?.getD 0)

/-- The first nodes that a walk along siblings meets, up to a number. It passes over text and over
style elements. -/
def met : Nat → List Node → List Node
  | 0, _ => []
  | _ + 1, [] => []
  | count + 1, node :: rest =>
    if node.text?.isSome || node.isStyle then met (count + 1) rest else node :: met count rest

/-- The label read off the siblings in front of a place: a walk to the left meets two nodes at most, and
those of them that are comments and say anything are joined in document order. -/
def readLabel (forest : List Node) (place : Place) : Text :=
  let nearest := met 2 (inFront forest place).reverse
  Text.join ", ".toList ((nearest.reverse.filterMap comment?).filterMap Text.cleanComment?)

/-- The nodes that a walk does not pass over are the candidates. -/
theorem isCandidate_eq (node : Node) : node.isCandidate = !(node.text?.isSome || node.isStyle) := by
  cases node <;> rfl

theorem met_eq_take_filter (rest : List Node) :
    ∀ count, met count rest = (rest.filter isCandidate).take count := by
  induction rest with
  | nil =>
      intro count
      cases count <;> rfl
  | cons node rest ih =>
      intro count
      cases count with
      | zero => rw [met, List.take_zero]
      | succ count =>
          rw [met, List.filter_cons, isCandidate_eq]
          cases node.text?.isSome || node.isStyle with
          | true => exact ih (count + 1)
          | false => exact congrArg (node :: ·) (ih count)

theorem siblings_singleton (forest : List Node) (index : Nat) : siblings forest [index] = forest :=
  rfl

/-- Deeper down, siblings are those among the children of the root. -/
theorem siblings_cons {forest : List Node} {index : Nat} {root : Node} {rest : Place}
    (found : forest[index]? = some root) (deeper : rest ≠ []) :
    siblings forest (index :: rest) = siblings root.children rest := by
  rw [siblings, siblings, List.dropLast_cons_of_ne_nil deeper]
  cases last : rest.dropLast with
  | nil =>
      change (Place.at? children forest [index]).elim [] children = root.children
      rw [Place.at?_singleton, found, Option.elim_some]
  | cons inner more =>
      change (Place.at? children forest (index :: inner :: more)).elim [] children =
        (Place.at? children root.children (inner :: more)).elim [] children
      rw [Place.at?_cons_cons, found, Option.bind_some]

theorem inFront_singleton (forest : List Node) (index : Nat) :
    inFront forest [index] = forest.take index := by
  rw [inFront, siblings_singleton, List.getLast?_singleton, Option.getD_some]

theorem inFront_cons {forest : List Node} {index : Nat} {root : Node} {rest : Place}
    (found : forest[index]? = some root) (deeper : rest ≠ []) :
    inFront forest (index :: rest) = inFront root.children rest := by
  obtain ⟨inner, more, rfl⟩ := List.exists_cons_of_ne_nil deeper
  rw [inFront, inFront, siblings_cons found deeper, List.getLast?_cons_cons]

end Node

namespace Outline

theorem labelPart?_eq (node : Node) : labelPart? node = node.comment?.bind Text.cleanComment? := by
  cases node <;> rfl

/-- A pass over siblings carries their candidates, nearest first. -/
theorem foldl_passed (front : List Node) :
    ∀ before, front.foldl passed before = (front.filter Node.isCandidate).reverse ++ before := by
  induction front with
  | nil => exact fun before => rfl
  | cons node rest ih =>
      intro before
      rw [List.foldl_cons, ih, passed, List.filter_cons]
      cases node.isCandidate with
      | true => simp
      | false => rfl

theorem isStyle_of_keeps {node : Node} (kept : keeps node = true) : node.isStyle = false := by
  obtain ⟨entry, own⟩ := Option.isSome_iff_exists.mp kept
  obtain ⟨_, _, _, _, other, _⟩ := nodeElement?_eq_some own
  exact other

/-- The candidates in front of a kept place are those among the siblings in front of it. -/
theorem neighbours_eq (place : Place) :
    ∀ forest, Node.InStyledPart forest place →
      neighbours forest place = ((Node.inFront forest place).filter Node.isCandidate).reverse := by
  induction place with
  | nil => exact fun forest inside => absurd rfl inside.1
  | cons index rest ih =>
      intro forest inside
      obtain ⟨root, found, kept, within⟩ := inStyledPart_cons.mp inside
      rcases within with rfl | deeper
      · rw [neighbours, foldl_passed, List.append_nil, Node.inFront_singleton]
      · have same : root.inner = root.children := Node.inner_of_not_isStyle (isStyle_of_keeps kept)
        rw [same] at deeper
        obtain ⟨inner, more, rfl⟩ := List.exists_cons_of_ne_nil deeper.1
        rw [neighbours, found, Option.elim_some, same, ih _ deeper, Node.inFront_cons found deeper.1]

/-- The label of the candidates in front of a kept place is read off its siblings. -/
theorem label_neighbours {forest : List Node} {place : Place}
    (inside : Node.InStyledPart forest place) :
    label (neighbours forest place) = Node.readLabel forest place := by
  have parts : ∀ nodes : List Node,
      nodes.filterMap labelPart? = (nodes.filterMap Node.comment?).filterMap Text.cleanComment? := by
    intro nodes
    rw [List.filterMap_filterMap]
    exact List.filterMap_congr fun node _ => labelPart?_eq node
  rw [label, neighbours_eq place forest inside, Node.readLabel, Node.met_eq_take_filter,
    List.filter_reverse, ← List.filterMap_reverse, parts, labelReach]

/-- The label of a kept place, as that of a position among the candidates of its level. -/
theorem labelAt_eq {forest : List Node} {place : Place}
    (inside : Node.InStyledPart forest place) :
    labelAt ((Node.siblings forest place).filter Node.isCandidate)
        ((Node.inFront forest place).countP Node.isCandidate) =
      label (neighbours forest place) := by
  have front : ((Node.siblings forest place).filter Node.isCandidate).take
      ((Node.inFront forest place).countP Node.isCandidate) =
        (Node.inFront forest place).filter Node.isCandidate := by
    have cut := (List.take_prefix (place.getLast?.getD 0) (Node.siblings forest place)).filter
      Node.isCandidate
    rw [List.countP_eq_length_filter]
    exact (List.prefix_iff_eq_take.mp cut).symm
  rw [labelAt, front, neighbours_eq place forest inside]

/-- The label of a kept element, wherever it stands, is the one that is read off its own siblings. -/
theorem label_ofForest {depth : Int} {forest : List Node} {target : Place} {subject : Subject}
    {below : Option (List Entry)}
    (stands : Place.at? Entry.children (kept (ofForest depth forest)) target =
      some (.element subject below)) :
    ∃ place attributes children, Node.InStyledPart forest place ∧ image forest place = target ∧
      Place.at? Node.children forest place = some (.element subject.tag attributes children) ∧
      subject.label = Node.readLabel forest place ∧
      subject.label = labelAt ((Node.siblings forest place).filter Node.isCandidate)
        ((Node.inFront forest place).countP Node.isCandidate) := by
  obtain ⟨place, attributes, children, inside, imaged, placed, labelled⟩ := exists_origin stands
  refine ⟨place, attributes, children, inside, imaged, placed, ?_, ?_⟩
  · rw [labelled, label_neighbours inside]
  · rw [labelled, labelAt_eq inside]

/-- A list below a group without styling, behind two comments, a line break and a style element. -/
def captioned : List Node :=
  [.element "nav".toList [] [.comment " a\n".toList, .text "\n".toList, .comment "b".toList,
    .element Node.styleTag [] [.text "i{}".toList],
    .element "ul".toList [("class".toList, "x".toList)] []]]

theorem label_ofForest_captioned :
    Place.at? Entry.children (kept (ofForest 1 captioned)) [0, 0] =
        some (.element ⟨"ul".toList, "a, b".toList, 2, some ⟨some "x".toList, none⟩⟩ none) ∧
      ∃ place attributes children, Node.InStyledPart captioned place ∧
        image captioned place = [0, 0] ∧
        Place.at? Node.children captioned place =
          some (.element "ul".toList attributes children) ∧
        "a, b".toList = Node.readLabel captioned place ∧
        "a, b".toList = labelAt ((Node.siblings captioned place).filter Node.isCandidate)
          ((Node.inFront captioned place).countP Node.isCandidate) := by
  have stands : Place.at? Entry.children (kept (ofForest 1 captioned)) [0, 0] =
      some (.element ⟨"ul".toList, "a, b".toList, 2, some ⟨some "x".toList, none⟩⟩ none) := by
    cbv
  exact ⟨stands, label_ofForest stands⟩

end Outline

end NestedStyles
