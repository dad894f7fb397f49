import Mathlib.Data.List.Basic
import NestedStyles.Markup.Node
import NestedStyles.Proofs.Place

/-!
Walks through a forest in document order. `Node.gather` asks every node outside style elements, one
place after the other; `gather_cons` says what it answers along the structure of the forest, which
is the form that inductions use.
-/

set_option autoImplicit false

namespace NestedStyles

namespace Node

/-- The children of an element; other nodes have none. -/
def children : Node → List Node
  | element _ _ children => children
  | _ => []

/-- The nodes below a node that are not inside a style element. -/
def inner (node : Node) : List Node :=
  if node.isStyle then [] else node.children

/-- The node at a place, if the way to it passes through no style element. The node itself may be
one. -/
def reached? (forest : List Node) (place : Place) : Option Node :=
  Place.at? inner forest place

/-- The places of a forest in document order. -/
def places : List Node → List Place
  | [] => []
  | element _ _ children :: rest =>
    [0] :: (places children).map (0 :: ·) ++ (places rest).map Place.next
  | _ :: rest => [0] :: (places rest).map Place.next

/-- What a question gets from the nodes outside style elements, in document order. -/
def gather {α : Type} (ask : Node → Option α) (forest : List Node) : List α :=
  (places forest).filterMap fun place => (reached? forest place).bind ask

@[simp] theorem isStyle_text (content : Text) : (text content).isStyle = false := rfl

@[simp] theorem isStyle_comment (content : Text) : (comment content).isStyle = false := rfl

@[simp] theorem isStyle_element (tag : Text) (attributes : Attributes) (children : List Node) :
    (element tag attributes children).isStyle = (tag == styleTag) := rfl

theorem isStyle_of_tag_ne {tag : Text} (other : tag ≠ styleTag) (attributes : Attributes)
    (children : List Node) : (element tag attributes children).isStyle = false :=
  beq_eq_false_iff_ne.mpr other

theorem inner_of_isStyle {node : Node} (style : node.isStyle = true) : node.inner = [] := by
  simp only [inner, style, ↓reduceIte]

theorem inner_of_not_isStyle {node : Node} (other : node.isStyle = false) :
    node.inner = node.children := by
  simp only [inner, other, Bool.false_eq_true, ↓reduceIte]

/-- What is reached below a root is reached from the forest, too. -/
theorem reached?_cons_of_ne_nil {forest : List Node} {index : Nat} {rest : Place}
    (deeper : rest ≠ []) :
    reached? forest (index :: rest) = forest[index]?.bind fun node => reached? node.inner rest :=
  Place.at?_cons_of_ne_nil inner deeper forest index

theorem ne_nil_of_reached? {forest : List Node} {place : Place} {node : Node}
    (reached : reached? forest place = some node) : place ≠ [] :=
  Place.ne_nil_of_at? inner reached

/-- A node with a property can be reached exactly if the first root has it, or a node reached below
that root, or one reached from the other roots. -/
theorem exists_reached?_cons {P : Node → Prop} (node : Node) (rest : List Node) :
    (∃ place found, reached? (node :: rest) place = some found ∧ P found) ↔
      P node ∨ (∃ place found, reached? node.inner place = some found ∧ P found) ∨
        ∃ place found, reached? rest place = some found ∧ P found :=
  Place.exists_at?_cons inner node rest

/-- Induction along a forest: over the children of its first root and over the other roots. -/
theorem forest_induction {P : List Node → Prop} (nil : P [])
    (cons : ∀ node rest, P node.children → P rest → P (node :: rest)) :
    ∀ forest, P forest
  | [] => nil
  | .text content :: rest => cons (.text content) rest nil (forest_induction nil cons rest)
  | .comment content :: rest => cons (.comment content) rest nil (forest_induction nil cons rest)
  | .element tag attributes children :: rest =>
    cons (.element tag attributes children) rest (forest_induction nil cons children)
      (forest_induction nil cons rest)

theorem places_cons (node : Node) (rest : List Node) :
    places (node :: rest) =
      [0] :: (places node.children).map (0 :: ·) ++ (places rest).map Place.next := by
  cases node <;> simp only [places, children, List.map_nil, List.singleton_append]

theorem ne_nil_of_mem_places {forest : List Node} {place : Place} (member : place ∈ places forest) :
    place ≠ [] := by
  induction forest generalizing place with
  | nil => simp [places] at member
  | cons node rest ih =>
      rw [places_cons] at member
      simp only [List.cons_append, List.mem_cons, List.mem_append, List.mem_map] at member
      rcases member with rfl | ⟨place, -, rfl⟩ | ⟨place, found, rfl⟩
      · exact List.cons_ne_nil _ _
      · exact List.cons_ne_nil _ _
      · have inhabited := ih found
        cases place with
        | nil => exact absurd rfl inhabited
        | cons index rest => exact List.cons_ne_nil _ _

@[simp] theorem gather_nil {α : Type} (ask : Node → Option α) : gather ask [] = [] := by
  rw [gather, places, List.filterMap_nil]

/-- A walk does not enter a style element. -/
theorem gather_inner {α : Type} (ask : Node → Option α) (node : Node) (rest : List Node) :
    ((places node.children).map (0 :: ·)).filterMap
      (fun place => (reached? (node :: rest) place).bind ask) = gather ask node.inner := by
  have inside : ∀ place ∈ places node.children,
      reached? (node :: rest) (0 :: place) = reached? node.inner place := by
    intro place member
    cases place with
    | nil => exact absurd rfl (ne_nil_of_mem_places member)
    | cons index deeper => rfl
  have same : ((places node.children).map (0 :: ·)).filterMap
      (fun place => (reached? (node :: rest) place).bind ask) =
        (places node.children).filterMap fun place => (reached? node.inner place).bind ask := by
    rw [List.filterMap_map]
    refine List.filterMap_congr ?_
    intro place member
    rw [Function.comp_apply, inside place member]
  rw [same]
  cases style : node.isStyle with
  | false => rw [inner_of_not_isStyle style, gather]
  | true =>
      rw [inner_of_isStyle style, gather_nil, List.filterMap_eq_nil_iff]
      intro place _
      rw [reached?, Place.at?_empty, Option.bind_none]

/-- A walk asks the first root, then what is below it, then the other roots. -/
theorem gather_cons {α : Type} (ask : Node → Option α) (node : Node) (rest : List Node) :
    gather ask (node :: rest) = (ask node).toList ++ gather ask node.inner ++ gather ask rest := by
  have behind : ((places rest).map Place.next).filterMap
      (fun place => (reached? (node :: rest) place).bind ask) = gather ask rest := by
    rw [List.filterMap_map, gather]
    congr 1
    funext place
    simp only [Function.comp_apply, reached?, Place.at?_cons_next]
  have root : (reached? (node :: rest) [0]).bind ask = ask node := rfl
  rw [gather, places_cons, List.filterMap_append, List.filterMap_cons, root, gather_inner, behind]
  cases ask node <;> rfl

theorem gather_append {α : Type} (ask : Node → Option α) (front back : List Node) :
    gather ask (front ++ back) = gather ask front ++ gather ask back := by
  induction front with
  | nil => rw [gather_nil, List.nil_append, List.nil_append]
  | cons node rest ih =>
      rw [List.cons_append, gather_cons, gather_cons, ih]
      simp only [List.append_assoc]

end Node

end NestedStyles
