import NestedStyles.Proofs.Outline.Level
import NestedStyles.Proofs.Text.Cleaning

/-!
Which elements an outline keeps. The styled part of a forest is made of the elements that have
styling and of all elements above them; style elements and what is inside them are no part of it.
An outline keeps exactly the styled part, in the same order and with the same nesting.
-/

set_option autoImplicit false

namespace NestedStyles

/-- Whether the first value given for a name holds more than blanks. -/
def Attributes.Gives (attributes : Attributes) (name : Text) : Prop :=
  ∃ value, attributes.first? name = some value ∧ ∃ c ∈ value, Text.isBlank c = false

namespace Node

/-- Whether a node is an element with a class list or an inline style of its own. Style elements do
not count. -/
def IsStyled : Node → Prop
  | element tag attributes _ =>
    tag ≠ styleTag ∧ (attributes.Gives "class".toList ∨ attributes.Gives "style".toList)
  | _ => False

/-- Whether a styled element stands at a place or below it, and can be reached without passing
through a style element. -/
def InStyledPart (forest : List Node) (place : Place) : Prop :=
  place ≠ [] ∧ ∃ target node, place <+: target ∧ reached? forest target = some node ∧ node.IsStyled

end Node

namespace Outline

/-- What it means that an outline keeps the styled part of a forest: each place of that part has an
`image` among the elements of the outline. -/
structure KeepsStyledPart (depth : Int) (forest : List Node) (elements : List Entry)
    (image : Place → Place) : Prop where
  /-- An element of the styled part is kept with its own tag and its cleaned values, and its depth
  counts its ancestors. -/
  own : ∀ place, Node.InStyledPart forest place →
    ∃ tag attributes children subject below,
      Place.at? Node.children forest place = some (.element tag attributes children) ∧
      Place.at? Entry.children elements (image place) = some (.element subject below) ∧
      subject.tag = tag ∧
      subject.classes = (attributes.first? "class".toList).bind Text.clean? ∧
      subject.inlineStyle = (attributes.first? "style".toList).bind Text.clean? ∧
      subject.depth = depth + Place.ancestors place
  /-- Nothing else is kept. -/
  only : ∀ target entry, Place.at? Entry.children elements target = some entry →
    ∃ place, Node.InStyledPart forest place ∧ image place = target
  /-- Document order stays, so no two places share an image. -/
  order : ∀ left right, Node.InStyledPart forest left → Node.InStyledPart forest right →
    (image left < image right ↔ left < right)
  /-- Ancestors stay ancestors, and nothing else becomes one. -/
  ancestor : ∀ left right, Node.InStyledPart forest left → Node.InStyledPart forest right →
    (image left <+: image right ↔ left <+: right)
  /-- The parent of what is kept is kept as its parent. -/
  parent : ∀ place, Node.InStyledPart forest place → place.dropLast ≠ [] →
    Node.InStyledPart forest place.dropLast ∧ image place.dropLast = (image place).dropLast

/-- Whether a node gets an entry. -/
def keeps (node : Node) : Bool :=
  (nodeElement? 0 [] node).isSome

/-- How many nodes in front of an index get an entry. -/
def rank (forest : List Node) (index : Nat) : Nat :=
  (forest.take index).countP keeps

/-- Where the element at a place of a forest stands among the elements of the outline. -/
def image : List Node → Place → Place
  | _, [] => []
  | forest, index :: rest =>
    rank forest index :: image (forest[index]?.elim [] Node.inner) rest

theorem Attributes.isSome_clean?_iff (attributes : Attributes) (name : Text) :
    ((attributes.first? name).bind Text.clean?).isSome = true ↔ attributes.Gives name := by
  cases given : attributes.first? name with
  | none => simp [Attributes.Gives, given]
  | some value =>
      rw [Option.bind_some, Text.clean?_isSome_iff]
      simp [Attributes.Gives, given]

theorem ofAttributes?_ne_none_iff (attributes : Attributes) :
    Styling.ofAttributes? attributes ≠ none ↔
      attributes.Gives "class".toList ∨ attributes.Gives "style".toList := by
  rw [← Attributes.isSome_clean?_iff, ← Attributes.isSome_clean?_iff, Styling.ofAttributes?]
  cases (attributes.first? "class".toList).bind Text.clean? <;>
    cases (attributes.first? "style".toList).bind Text.clean? <;>
    simp

/-- A node gets an entry if it is styled itself or a styled element can be reached below it. -/
theorem isSome_nodeElement? {node : Node} (depth : Int) (before : List Node)
    (below : (level (depth + 1) node.children).elements ≠ [] ↔
      ∃ place found, Node.reached? node.children place = some found ∧ found.IsStyled) :
    (nodeElement? depth before node).isSome = true ↔ node.IsStyled ∨
      ∃ place found, Node.reached? node.inner place = some found ∧ found.IsStyled := by
  cases node with
  | text content => simp [nodeElement?, Node.IsStyled, Node.inner, Node.children, Node.reached?]
  | comment content => simp [nodeElement?, Node.IsStyled, Node.inner, Node.children, Node.reached?]
  | element tag attributes children =>
      by_cases style : tag = Node.styleTag
      · simp [nodeElement?, Node.IsStyled, Node.inner, style, Node.reached?]
      · rw [Node.children] at below
        rw [nodeElement?, if_neg style, isSome_element?, below, ofAttributes?_ne_none_iff, Node.IsStyled,
          Node.inner_of_not_isStyle (Node.isStyle_of_tag_ne style attributes children), Node.children]
        simp only [ne_eq, style, not_false_eq_true, true_and]

/-- A level has elements exactly if a styled element can be reached from it. -/
theorem elements_levelFrom_ne_nil_iff (forest : List Node) :
    ∀ depth before, (levelFrom depth before forest).elements ≠ [] ↔
      ∃ place found, Node.reached? forest place = some found ∧ found.IsStyled := by
  induction forest using Node.forest_induction with
  | nil =>
      intro depth before
      simp [Node.reached?]
  | cons node rest ihChildren ihRest =>
      intro depth before
      have here := isSome_nodeElement? depth before (ihChildren (depth + 1) [])
      have others := ihRest depth (passed before node)
      rw [elements_levelFrom_cons, Node.exists_reached?_cons, ← or_assoc, ← here, ← others]
      cases nodeElement? depth before node <;> simp

theorem isSome_nodeElement?_eq_keeps (depth : Int) (before : List Node) (node : Node) :
    (nodeElement? depth before node).isSome = keeps node := by
  have carries : ∀ depth before, (nodeElement? depth before node).isSome = true ↔ node.IsStyled ∨
      ∃ place found, Node.reached? node.inner place = some found ∧ found.IsStyled :=
    fun depth before => isSome_nodeElement? depth before
      (elements_levelFrom_ne_nil_iff node.children (depth + 1) [])
  rw [Bool.eq_iff_iff, keeps, carries depth before, carries 0 []]

theorem keeps_iff (node : Node) :
    keeps node = true ↔ node.IsStyled ∨
      ∃ place found, Node.reached? node.inner place = some found ∧ found.IsStyled :=
  isSome_nodeElement? 0 [] (elements_levelFrom_ne_nil_iff node.children _ _)

@[simp] theorem rank_zero (forest : List Node) : rank forest 0 = 0 := by
  rw [rank, List.take_zero, List.countP_nil]

theorem rank_cons_succ (node : Node) (rest : List Node) (index : Nat) :
    rank (node :: rest) (index + 1) = (if keeps node then 1 else 0) + rank rest index := by
  rw [rank, List.take_succ_cons, List.countP_cons, rank]
  omega

theorem length_toList_nodeElement? (depth : Int) (before : List Node) (node : Node) :
    (nodeElement? depth before node).toList.length = if keeps node then 1 else 0 := by
  rw [← isSome_nodeElement?_eq_keeps depth before node]
  cases nodeElement? depth before node <;> rfl

/-- The rank of a kept node is where its entry stands among the elements of the level. -/
theorem getElem?_elements_levelFrom (forest : List Node) :
    ∀ depth before index node, forest[index]? = some node → keeps node = true →
      (levelFrom depth before forest).elements[rank forest index]? =
        nodeElement? depth ((forest.take index).foldl passed before) node := by
  induction forest with
  | nil =>
      intro depth before index node found
      cases found
  | cons first rest ih =>
      intro depth before index node found kept
      rw [elements_levelFrom_cons]
      cases index with
      | zero =>
          cases found
          rw [← isSome_nodeElement?_eq_keeps depth before first] at kept
          obtain ⟨entry, own⟩ := Option.isSome_iff_exists.mp kept
          rw [rank_zero, List.take_zero, List.foldl_nil, own]
          rfl
      | succ index =>
          rw [rank_cons_succ, List.getElem?_append_right (by
            rw [length_toList_nodeElement?]
            omega), length_toList_nodeElement?, Nat.add_sub_cancel_left]
          exact ih depth (passed before first) index node found kept

/-- Every element of a level is the entry of a node whose rank is where it stands. -/
theorem exists_of_getElem?_elements (forest : List Node) :
    ∀ depth before position entry,
      (levelFrom depth before forest).elements[position]? = some entry →
      ∃ index node, forest[index]? = some node ∧ keeps node = true ∧ rank forest index = position := by
  induction forest with
  | nil =>
      intro depth before position entry found
      rw [elements_levelFrom_nil] at found
      cases found
  | cons first rest ih =>
      intro depth before position entry found
      rw [elements_levelFrom_cons, List.getElem?_append, length_toList_nodeElement?] at found
      by_cases kept : keeps first = true
      · rw [if_pos kept] at found
        cases position with
        | zero => exact ⟨0, first, rfl, kept, rank_zero _⟩
        | succ position =>
            rw [if_neg (by omega)] at found
            obtain ⟨index, node, stands, keep, ranked⟩ := ih _ _ _ entry found
            refine ⟨index + 1, node, stands, keep, ?_⟩
            rw [rank_cons_succ, if_pos kept, ranked]
            omega
      · rw [if_neg kept, if_neg (by omega)] at found
        obtain ⟨index, node, stands, keep, ranked⟩ := ih _ _ _ entry found
        refine ⟨index + 1, node, stands, keep, ?_⟩
        rw [rank_cons_succ, if_neg kept, ranked]
        omega

theorem rank_lt_rank {forest : List Node} {left right : Nat} {node : Node}
    (found : forest[left]? = some node) (kept : keeps node = true) (before : left < right) :
    rank forest left < rank forest right := by
  induction forest generalizing left right with
  | nil => cases found
  | cons first rest ih =>
      cases right with
      | zero => omega
      | succ right =>
          rw [rank_cons_succ]
          cases left with
          | zero =>
              cases found
              rw [rank_zero, if_pos kept]
              omega
          | succ left =>
              have ascends := ih found (Nat.lt_of_succ_lt_succ before)
              rw [rank_cons_succ]
              omega

/-- Whether a place leads nowhere yet or into the styled part: what is left of a place of the styled
part on the way down. -/
def OnTheWay (forest : List Node) (place : Place) : Prop :=
  place = [] ∨ Node.InStyledPart forest place

/-- The way into the styled part passes through kept nodes only. -/
theorem inStyledPart_cons {forest : List Node} {index : Nat} {rest : Place} :
    Node.InStyledPart forest (index :: rest) ↔
      ∃ node, forest[index]? = some node ∧ keeps node = true ∧ OnTheWay node.inner rest := by
  constructor
  · rintro ⟨-, target, found, front, reached, styled⟩
    obtain ⟨number, deeper, rfl⟩ := List.exists_cons_of_ne_nil (Node.ne_nil_of_reached? reached)
    obtain ⟨rfl, shorter⟩ := List.cons_prefix_cons.mp front
    by_cases last : deeper = []
    · subst last
      rw [Node.reached?, Place.at?_singleton] at reached
      exact ⟨found, reached, (keeps_iff found).mpr (Or.inl styled),
        Or.inl (List.prefix_nil.mp shorter)⟩
    · rw [Node.reached?_cons_of_ne_nil last] at reached
      obtain ⟨node, root, inside⟩ := Option.bind_eq_some_iff.mp reached
      refine ⟨node, root, (keeps_iff node).mpr (Or.inr ⟨deeper, found, inside, styled⟩), ?_⟩
      by_cases done : rest = []
      · exact Or.inl done
      · exact Or.inr ⟨done, deeper, found, shorter, inside, styled⟩
  · rintro ⟨node, root, kept, rfl | ⟨-, target, found, front, reached, styled⟩⟩
    · refine ⟨List.cons_ne_nil _ _, ?_⟩
      rcases (keeps_iff node).mp kept with styled | ⟨place, found, reached, styled⟩
      · refine ⟨[index], node, List.prefix_rfl, ?_, styled⟩
        rw [Node.reached?, Place.at?_singleton, root]
      · refine ⟨index :: place, found, ⟨place, rfl⟩, ?_, styled⟩
        rw [Node.reached?_cons_of_ne_nil (Node.ne_nil_of_reached? reached), root, Option.bind_some,
          reached]
    · refine ⟨List.cons_ne_nil _ _, index :: target, found, ?_, ?_, styled⟩
      · exact List.cons_prefix_cons.mpr ⟨rfl, front⟩
      · rw [Node.reached?_cons_of_ne_nil (Node.ne_nil_of_reached? reached), root, Option.bind_some,
          reached]

theorem onTheWay_cons {forest : List Node} {index : Nat} {rest : Place} :
    OnTheWay forest (index :: rest) ↔
      ∃ node, forest[index]? = some node ∧ keeps node = true ∧ OnTheWay node.inner rest := by
  rw [OnTheWay, inStyledPart_cons]
  simp only [reduceCtorEq, false_or]

theorem image_cons {forest : List Node} {index : Nat} {node : Node}
    (root : forest[index]? = some node) (rest : Place) :
    image forest (index :: rest) = rank forest index :: image node.inner rest := by
  rw [image, root, Option.elim_some]

theorem image_eq_nil_iff {forest : List Node} {place : Place} :
    image forest place = [] ↔ place = [] := by
  cases place <;> simp [image]

/-- Images are found level by level, by the ranks of nodes. -/
theorem image_eq_lead (place : Place) :
    ∀ forest, image forest place =
      Place.lead rank (fun forest index => forest[index]?.elim [] Node.inner) forest place := by
  induction place with
  | nil => exact fun forest => rfl
  | cons index rest ih =>
      intro forest
      rw [image, Place.lead_cons, ih]

/-- On the way into the styled part ranks ascend. -/
theorem ascends_rank :
    Place.Ascends rank (fun forest index => forest[index]?.elim [] Node.inner) OnTheWay where
  step := by
    intro forest index rest onTheWay
    obtain ⟨node, root, -, within⟩ := onTheWay_cons.mp onTheWay
    rw [root, Option.elim_some]
    exact within
  spots := by
    intro forest index rest other others onLeft _ before
    obtain ⟨node, root, kept, -⟩ := onTheWay_cons.mp onLeft
    exact rank_lt_rank root kept before

/-- Images keep document order. -/
theorem image_lt_iff (left : Place) :
    ∀ forest right, OnTheWay forest left → OnTheWay forest right →
      (image forest left < image forest right ↔ left < right) := by
  intro forest right onLeft onRight
  rw [image_eq_lead, image_eq_lead]
  exact ascends_rank.lead_lt_iff left forest right onLeft onRight

/-- Images keep ancestors. -/
theorem image_prefix_iff (left : Place) :
    ∀ forest right, OnTheWay forest left → OnTheWay forest right →
      (image forest left <+: image forest right ↔ left <+: right) := by
  intro forest right onLeft onRight
  rw [image_eq_lead, image_eq_lead]
  exact ascends_rank.lead_prefix_iff left forest right onLeft onRight

/-- The image of the parent is the parent of the image. -/
theorem image_dropLast (place : Place) :
    ∀ forest, image forest place.dropLast = (image forest place).dropLast := by
  intro forest
  rw [image_eq_lead, image_eq_lead, Place.lead_dropLast]

/-- The candidates in front of a place among its siblings, nearest first. -/
def neighbours : List Node → Place → List Node
  | _, [] => []
  | forest, [index] => (forest.take index).foldl passed []
  | forest, index :: inner :: rest => neighbours (forest[index]?.elim [] Node.inner) (inner :: rest)

/-- What stands at the image of a place is the entry that the node at the place adds to its level. -/
theorem at?_image (place : Place) :
    ∀ depth forest, Node.InStyledPart forest place →
      ∃ node entry, Place.at? Node.children forest place = some node ∧
        Place.at? Entry.children (level depth forest).elements (image forest place) = some entry ∧
        nodeElement? (depth + Place.ancestors place) (neighbours forest place) node = some entry := by
  induction place with
  | nil =>
      intro depth forest inside
      exact absurd rfl inside.1
  | cons index rest ih =>
      intro depth forest inside
      obtain ⟨node, root, kept, within⟩ := inStyledPart_cons.mp inside
      -- The place begins at a kept root, whose entry stands at the rank of the root.
      have stands := getElem?_elements_levelFrom forest depth [] index node root kept
      rw [← isSome_nodeElement?_eq_keeps depth ((forest.take index).foldl passed []) node] at kept
      obtain ⟨entry, own⟩ := Option.isSome_iff_exists.mp kept
      rw [own] at stands
      rw [image_cons root]
      rcases within with rfl | deeper
      · refine ⟨node, entry, ?_, ?_, ?_⟩
        · rw [Place.at?_singleton, root]
        · rw [image, Place.at?_singleton]
          exact stands
        · simpa [Place.ancestors, neighbours] using own
      · obtain ⟨found, kept, placed, imaged, added⟩ := ih (depth + 1) node.inner deeper
        have other : node.inner = node.children := by
          obtain ⟨_, _, _, _, other, _⟩ := nodeElement?_eq_some own
          exact Node.inner_of_not_isStyle other
        refine ⟨found, kept, ?_, ?_, ?_⟩
        · rw [Place.at?_cons_of_ne_nil _ deeper.1, root, Option.bind_some, ← other, placed]
        · rw [Place.at?_cons_of_ne_nil _ (fun empty => deeper.1 (image_eq_nil_iff.mp empty)), level,
            stands, Option.bind_some, children_of_nodeElement? own, imaged]
        · rw [← added]
          obtain ⟨inner, more, rfl⟩ := List.exists_cons_of_ne_nil deeper.1
          rw [neighbours, root, Option.elim_some]
          congr 1
          simp only [Place.ancestors, List.length_cons]
          omega

/-- The element at the image of a place has the tag and the cleaned values of the node at the place, the
label that its neighbours give, and a depth that counts its ancestors. -/
theorem exists_element_at_image (depth : Int) {forest : List Node} {place : Place}
    (inside : Node.InStyledPart forest place) :
    ∃ tag attributes children below,
      Place.at? Node.children forest place = some (.element tag attributes children) ∧
      Place.at? Entry.children (level depth forest).elements (image forest place) =
        some (.element ⟨tag, label (neighbours forest place), depth + Place.ancestors place,
          Styling.ofAttributes? attributes⟩ below) := by
  obtain ⟨node, entry, placed, imaged, added⟩ := at?_image place depth forest inside
  obtain ⟨tag, attributes, children, rfl, -, own⟩ := nodeElement?_eq_some added
  obtain ⟨below, rfl, -⟩ := eq_element_of_element? own
  exact ⟨tag, attributes, children, below, placed, imaged⟩

/-- Everything in a level comes from a place of the styled part. -/
theorem exists_image_eq (target : Place) :
    ∀ depth forest entry,
      Place.at? Entry.children (level depth forest).elements target = some entry →
      ∃ place, Node.InStyledPart forest place ∧ image forest place = target := by
  induction target with
  | nil =>
      intro depth forest entry stands
      rw [Place.at?_nil] at stands
      cases stands
  | cons position rest ih =>
      intro depth forest entry stands
      by_cases last : rest = []
      · subst last
        rw [Place.at?_singleton] at stands
        obtain ⟨index, node, root, kept, ranked⟩ := exists_of_getElem?_elements _ _ _ _ _ stands
        refine ⟨[index], inStyledPart_cons.mpr ⟨node, root, kept, Or.inl rfl⟩, ?_⟩
        rw [image_cons root, ranked, image]
      · rw [Place.at?_cons_of_ne_nil _ last] at stands
        obtain ⟨above, found, below⟩ := Option.bind_eq_some_iff.mp stands
        obtain ⟨index, node, root, kept, ranked⟩ := exists_of_getElem?_elements _ _ _ _ _ found
        have added := getElem?_elements_levelFrom forest depth [] index node root kept
        rw [ranked] at added
        rw [children_of_nodeElement? (added.symm.trans found)] at below
        obtain ⟨place, deeper, imaged⟩ := ih (depth + 1) node.inner entry below
        refine ⟨index :: place, inStyledPart_cons.mpr ⟨node, root, kept, Or.inr deeper⟩, ?_⟩
        rw [image_cons root, ranked, imaged]

/-- Every element of an outline stands at the image of a place of the styled part, and its tag and its
label are those of the place. -/
theorem exists_origin {depth : Int} {forest : List Node} {target : Place} {subject : Subject}
    {below : Option (List Entry)}
    (stands : Place.at? Entry.children (kept (ofForest depth forest)) target =
      some (.element subject below)) :
    ∃ place attributes children, Node.InStyledPart forest place ∧ image forest place = target ∧
      Place.at? Node.children forest place = some (.element subject.tag attributes children) ∧
      subject.label = label (neighbours forest place) := by
  rw [kept_ofForest] at stands
  obtain ⟨place, inside, rfl⟩ := exists_image_eq target depth forest _ stands
  obtain ⟨tag, attributes, children, others, placed, imaged⟩ :=
    exists_element_at_image depth inside
  rw [stands] at imaged
  cases imaged
  exact ⟨place, attributes, children, inside, rfl, placed, rfl⟩

theorem inStyledPart_dropLast {forest : List Node} {place : Place}
    (inside : Node.InStyledPart forest place) (parent : place.dropLast ≠ []) :
    Node.InStyledPart forest place.dropLast := by
  obtain ⟨-, target, found, front, reached, styled⟩ := inside
  exact ⟨parent, target, found, (List.dropLast_prefix place).trans front, reached, styled⟩

/-- The outline of a forest keeps exactly the styled part: an element that is no style element and not
inside one is kept if and only if it has styling or an element with styling can be reached below it.
Order and nesting are those of the forest. -/
theorem exists_keepsStyledPart (depth : Int) (forest : List Node) :
    ∃ image, KeepsStyledPart depth forest (kept (ofForest depth forest)) image := by
  rw [kept_ofForest]
  refine ⟨image forest, ?_, ?_, ?_, ?_, ?_⟩
  · intro place inside
    obtain ⟨tag, attributes, children, below, placed, imaged⟩ := exists_element_at_image depth inside
    refine ⟨tag, attributes, children, _, below, placed, imaged, rfl, ?_, ?_, rfl⟩
    · exact classes_ofAttributes? attributes
    · exact inlineStyle_ofAttributes? attributes
  · exact fun target entry stands => exists_image_eq target depth forest entry stands
  · exact fun left right insideLeft insideRight =>
      image_lt_iff left forest right (Or.inr insideLeft) (Or.inr insideRight)
  · exact fun left right insideLeft insideRight =>
      image_prefix_iff left forest right (Or.inr insideLeft) (Or.inr insideRight)
  · exact fun place inside parent =>
      ⟨inStyledPart_dropLast inside parent, image_dropLast place forest⟩

end Outline

end NestedStyles
