import NestedStyles.Outline.Normal
import NestedStyles.Proofs.Markup.Walk

/-!
What one node adds to its level, and what a level is made of: its style blocks are those of a walk
through everything below it, and its elements are what its own nodes add.
-/

set_option autoImplicit false

namespace NestedStyles

namespace Subject

/-- The cleaned class list of an element. -/
def classes (subject : Subject) : Option Text :=
  subject.styling.bind Styling.classes

def inlineStyle (subject : Subject) : Option Text :=
  subject.styling.bind Styling.inlineStyle

end Subject

namespace Entry

def children : Entry → List Entry
  | element _ below => below.getD []
  | block _ => []

def isElement : Entry → Bool
  | element _ _ => true
  | block _ => false

end Entry

namespace Node

/-- The text of a style element: that of its own text nodes, joined. -/
def styleContent? : Node → Option Text
  | element tag _ children =>
    if tag = styleTag then some (children.filterMap text?).flatten else none
  | _ => none

end Node

namespace Outline

/-- The entries of the outline of a forest; no entries if it has no outline. -/
def ofForest (depth : Int) (forest : List Node) : List Entry :=
  (ofForest? depth forest).getD []

/-- The elements of an outline alone, without its style blocks. -/
def kept (outline : List Entry) : List Entry :=
  outline.filter Entry.isElement

/-- The candidates in front of what follows a node, nearest first. -/
def passed (before : List Node) (node : Node) : List Node :=
  if node.isCandidate then node :: before else before

/-- The entry that a node adds to its level. -/
def nodeElement? (depth : Int) (before : List Node) : Node → Option Entry
  | .element tag attributes children =>
    if tag = Node.styleTag then none
    else
      element? ⟨tag, label before, depth, Styling.ofAttributes? attributes⟩
        (level (depth + 1) children).elements
  | _ => none

theorem classes_ofAttributes? (attributes : Attributes) :
    (Styling.ofAttributes? attributes).bind Styling.classes =
      (attributes.first? "class".toList).bind Text.clean? := by
  rw [Styling.ofAttributes?]
  cases (attributes.first? "class".toList).bind Text.clean? <;>
    cases (attributes.first? "style".toList).bind Text.clean? <;>
    rfl

theorem inlineStyle_ofAttributes? (attributes : Attributes) :
    (Styling.ofAttributes? attributes).bind Styling.inlineStyle =
      (attributes.first? "style".toList).bind Text.clean? := by
  rw [Styling.ofAttributes?]
  cases (attributes.first? "class".toList).bind Text.clean? <;>
    cases (attributes.first? "style".toList).bind Text.clean? <;>
    rfl

@[simp] theorem elements_levelFrom_nil (depth : Int) (before : List Node) :
    (levelFrom depth before []).elements = [] := by
  rw [levelFrom]

@[simp] theorem blocks_levelFrom_nil (depth : Int) (before : List Node) :
    (levelFrom depth before []).blocks = [] := by
  rw [levelFrom]

/-- Only a node's own entry joins the elements of its level. -/
theorem elements_levelFrom_cons (depth : Int) (before : List Node) (node : Node)
    (rest : List Node) :
    (levelFrom depth before (node :: rest)).elements =
      (nodeElement? depth before node).toList ++
        (levelFrom depth (passed before node) rest).elements := by
  cases node with
  | text content => rw [levelFrom]; rfl
  | comment content => rw [levelFrom]; rfl
  | element tag attributes children =>
      by_cases style : tag = Node.styleTag
      · subst style
        rw [levelFrom]
        simp [nodeElement?, passed, Node.isCandidate]
      · rw [levelFrom]
        simp [nodeElement?, passed, Node.isCandidate, style, level]

/-- Style blocks are lifted from below and joined in document order, whatever becomes of the elements
around them. -/
theorem blocks_levelFrom (forest : List Node) :
    ∀ depth before, (levelFrom depth before forest).blocks =
      (Node.gather Node.styleContent? forest).map fun content => { content } := by
  induction forest using Node.forest_induction with
  | nil =>
      intro depth before
      rw [blocks_levelFrom_nil, Node.gather_nil, List.map_nil]
  | cons node rest ihChildren ihRest =>
      intro depth before
      rw [Node.gather_cons]
      cases node with
      | text content =>
          rw [levelFrom, ihRest]
          simp [Node.styleContent?, Node.inner, Node.children]
      | comment content =>
          rw [levelFrom, ihRest]
          simp [Node.styleContent?, Node.inner, Node.children]
      | element tag attributes children =>
          by_cases style : tag = Node.styleTag
          · rw [levelFrom, if_pos style]
            simp [Node.styleContent?, Node.inner, style, StyleBlock.ofChildren, ihRest]
          · have below := ihChildren (depth + 1) []
            rw [Node.children] at below
            rw [levelFrom, if_neg style]
            simp only [Node.styleContent?, if_neg style, below, ihRest, Option.toList_none,
              List.nil_append, List.map_append,
              Node.inner_of_not_isStyle (Node.isStyle_of_tag_ne style attributes children),
              Node.children]

/-- The style blocks of a level are the contents of the style elements of its forest. -/
theorem blocks_level (depth : Int) (forest : List Node) :
    (level depth forest).blocks =
      (Node.gather Node.styleContent? forest).map fun content => { content } :=
  blocks_levelFrom forest depth []

/-- An element is kept as a leaf that has styling, or with the entries below it. -/
theorem element?_eq_some {subject : Subject} {below : List Entry} {entry : Entry}
    (result : element? subject below = some entry) :
    (below = [] ∧ subject.styling ≠ none ∧ entry = .element subject none) ∨
      (below ≠ [] ∧ entry = .element subject (some below)) := by
  cases below with
  | nil =>
      rw [element?] at result
      split at result
      · cases result
      · rename_i styled
        cases result
        refine Or.inl ⟨rfl, ?_, rfl⟩
        intro absent
        rw [absent] at styled
        exact styled rfl
  | cons first more =>
      cases result
      exact Or.inr ⟨List.cons_ne_nil _ _, rfl⟩

theorem isSome_element? (subject : Subject) (below : List Entry) :
    (element? subject below).isSome = true ↔ subject.styling ≠ none ∨ below ≠ [] := by
  cases below with
  | nil => cases styling : subject.styling <;> simp [element?, styling]
  | cons first more => simp [element?]

theorem eq_element_of_element? {subject : Subject} {below : List Entry} {entry : Entry}
    (result : element? subject below = some entry) :
    ∃ children, entry = .element subject children ∧ children.getD [] = below := by
  rcases element?_eq_some result with ⟨rfl, -, rfl⟩ | ⟨-, rfl⟩
  · exact ⟨none, rfl, rfl⟩
  · exact ⟨some below, rfl, rfl⟩

/-- What a node adds is its own: the tag, the depth of the level, the cleaned values, and the elements
of the level below. -/
theorem nodeElement?_eq_some {depth : Int} {before : List Node} {node : Node} {entry : Entry}
    (result : nodeElement? depth before node = some entry) :
    ∃ tag attributes children, node = .element tag attributes children ∧ node.isStyle = false ∧
      element? ⟨tag, label before, depth, Styling.ofAttributes? attributes⟩
        (level (depth + 1) children).elements = some entry := by
  cases node with
  | text content => cases result
  | comment content => cases result
  | element tag attributes children =>
      rw [nodeElement?] at result
      split at result
      · cases result
      · rename_i other
        exact ⟨tag, attributes, children, rfl, Node.isStyle_of_tag_ne other attributes children,
          result⟩

theorem isElement_of_nodeElement? {depth : Int} {before : List Node} {node : Node} {entry : Entry}
    (result : nodeElement? depth before node = some entry) : entry.isElement = true := by
  obtain ⟨tag, attributes, children, -, -, added⟩ := nodeElement?_eq_some result
  obtain ⟨below, rfl, -⟩ := eq_element_of_element? added
  rfl

/-- What is below the entry of a node is the level below the node. -/
theorem children_of_nodeElement? {depth : Int} {before : List Node} {node : Node} {entry : Entry}
    (result : nodeElement? depth before node = some entry) :
    entry.children = (level (depth + 1) node.inner).elements := by
  obtain ⟨tag, attributes, children, rfl, other, added⟩ := nodeElement?_eq_some result
  obtain ⟨below, rfl, elements⟩ := eq_element_of_element? added
  rw [Entry.children, elements, Node.inner_of_not_isStyle other, Node.children]

/-- Every element of a level was added by one of its nodes. -/
theorem exists_nodeElement?_of_mem {depth : Int} {before : List Node} {forest : List Node}
    {entry : Entry} (member : entry ∈ (levelFrom depth before forest).elements) :
    ∃ near node, nodeElement? depth near node = some entry := by
  induction forest generalizing before with
  | nil =>
      rw [elements_levelFrom_nil] at member
      cases member
  | cons node rest ih =>
      rw [elements_levelFrom_cons, List.mem_append, Option.mem_toList] at member
      rcases member with own | behind
      · exact ⟨before, node, own⟩
      · exact ih behind

/-- Every element at any depth of a level was added by a node. -/
theorem exists_nodeElement?_of_at? (place : Place) :
    ∀ {depth before forest entry},
      Place.at? Entry.children (levelFrom depth before forest).elements place = some entry →
      ∃ depth near node, nodeElement? depth near node = some entry := by
  induction place with
  | nil =>
      intro depth before forest entry stands
      rw [Place.at?_nil] at stands
      cases stands
  | cons index rest ih =>
      intro depth before forest entry stands
      by_cases last : rest = []
      · subst last
        rw [Place.at?_singleton] at stands
        exact ⟨depth, exists_nodeElement?_of_mem (List.mem_of_getElem? stands)⟩
      · rw [Place.at?_cons_of_ne_nil _ last] at stands
        obtain ⟨above, found, below⟩ := Option.bind_eq_some_iff.mp stands
        obtain ⟨near, node, added⟩ := exists_nodeElement?_of_mem (List.mem_of_getElem? found)
        rw [children_of_nodeElement? added] at below
        exact ih below

/-- Nothing in a level but elements, at any depth: style blocks never stay below. -/
theorem isElement_of_at?_elements (place : Place) {depth : Int} {before forest : List Node}
    {entry : Entry}
    (stands : Place.at? Entry.children (levelFrom depth before forest).elements place = some entry) :
    entry.isElement = true := by
  obtain ⟨_, near, node, added⟩ := exists_nodeElement?_of_at? place stands
  exact isElement_of_nodeElement? added

theorem isElement_of_mem_elements {depth : Int} {before : List Node} {forest : List Node} :
    ∀ entry ∈ (levelFrom depth before forest).elements, entry.isElement = true := by
  intro entry member
  obtain ⟨index, found⟩ := List.mem_iff_getElem?.mp member
  exact isElement_of_at?_elements [index] (by rw [Place.at?_singleton, found])

theorem ofForest_eq (depth : Int) (forest : List Node) :
    ofForest depth forest = (level depth forest).entries := by
  rw [ofForest, ofForest?]
  split
  · rename_i empty
    rw [empty, Option.getD_none]
  · rename_i entry more found
    rw [found, Option.getD_some]

theorem eq_of_ofForest? {depth : Int} {forest : List Node} {outline : List Entry}
    (made : ofForest? depth forest = some outline) : outline = ofForest depth forest := by
  rw [ofForest, made, Option.getD_some]

theorem ofForest?_of_ne_nil {depth : Int} {forest : List Node} (filled : ofForest depth forest ≠ []) :
    ofForest? depth forest = some (ofForest depth forest) := by
  cases made : ofForest? depth forest with
  | none => exact absurd (by rw [ofForest, made, Option.getD_none]) filled
  | some outline => rw [eq_of_ofForest? made]

theorem kept_ofForest (depth : Int) (forest : List Node) :
    kept (ofForest depth forest) = (level depth forest).elements := by
  have none : ((level depth forest).blocks.map Entry.block).filter Entry.isElement = [] := by
    rw [List.filter_eq_nil_iff]
    intro entry member
    obtain ⟨block, -, rfl⟩ := List.mem_map.mp member
    exact Bool.false_ne_true
  have all : (level depth forest).elements.filter Entry.isElement = (level depth forest).elements :=
    List.filter_eq_self.mpr isElement_of_mem_elements
  rw [ofForest_eq, Level.entries, kept, List.filter_append, none, all, List.nil_append]

end Outline

end NestedStyles
