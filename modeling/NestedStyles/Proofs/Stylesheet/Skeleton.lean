import NestedStyles.CommandLine.Romanized
import NestedStyles.Proofs.Outline.Level
import NestedStyles.Proofs.Stylesheet.Placing

/-!
What of a forest its stylesheet depends on: the skeleton. It has no text outside style elements, and of
its attributes only the first class list and the first inline style of each element. Two forests with one
skeleton have one stylesheet, and style elements in other places change nothing in the rules of elements.
-/

set_option autoImplicit false

namespace NestedStyles

/-- The attributes of the given names, each name at its first place only. -/
def Attributes.firsts (names : List Text) : Attributes → Attributes
  | [] => []
  | (name, value) :: rest =>
    if name ∈ names then (name, value) :: firsts (names.erase name) rest else firsts names rest

namespace Node

def stylingNames : List Text :=
  ["class".toList, "style".toList]

/-- The forest without its text, and with no attributes but the first class list and the first inline
style of each element. The text of a forest `within` a style element stays. -/
def skeleton (within : Bool) : List Node → List Node
  | [] => []
  | text content :: rest =>
    if within then text content :: skeleton within rest else skeleton within rest
  | comment content :: rest => comment content :: skeleton within rest
  | element tag attributes children :: rest =>
    element tag (Attributes.firsts stylingNames attributes)
      (skeleton (within || tag == styleTag) children) :: skeleton within rest

def withoutStyles : List Node → List Node
  | [] => []
  | element tag attributes children :: rest =>
    if tag = styleTag then withoutStyles rest
    else element tag attributes (withoutStyles children) :: withoutStyles rest
  | node :: rest => node :: withoutStyles rest

end Node

namespace Attributes

theorem first?_cons (entry : Text × Text) (rest : Attributes) (name : Text) :
    first? (entry :: rest) name = if entry.1 = name then some entry.2 else first? rest name := by
  rw [first?, List.find?_cons]
  by_cases same : entry.1 = name
  · rw [if_pos same, beq_iff_eq.mpr same, Option.map_some]
  · rw [if_neg same, beq_eq_false_iff_ne.mpr same, first?]

/-- A name that is asked for keeps its first value. -/
theorem first?_firsts {name : Text} (attributes : Attributes) :
    ∀ {names : List Text}, name ∈ names → first? (firsts names attributes) name =
      first? attributes name := by
  induction attributes with
  | nil => exact fun _ => rfl
  | cons entry rest ih =>
      intro names asked
      rw [firsts, first?_cons]
      by_cases listed : entry.1 ∈ names
      · rw [if_pos listed, first?_cons]
        by_cases same : entry.1 = name
        · rw [if_pos same, if_pos same]
        · rw [if_neg same, if_neg same]
          exact ih ((List.mem_erase_of_ne (Ne.symm same)).mpr asked)
      · have other : entry.1 ≠ name := by
          rintro rfl
          exact listed asked
        rw [if_neg listed, if_neg other]
        exact ih asked

end Attributes

namespace Outline

theorem ofAttributes?_firsts (attributes : Attributes) :
    Styling.ofAttributes? (Attributes.firsts Node.stylingNames attributes) =
      Styling.ofAttributes? attributes := by
  have classes : "class".toList ∈ Node.stylingNames := List.mem_cons_self
  have inlineStyle : "style".toList ∈ Node.stylingNames :=
    List.mem_cons_of_mem _ List.mem_cons_self
  rw [Styling.ofAttributes?, Styling.ofAttributes?, Attributes.first?_firsts attributes classes,
    Attributes.first?_firsts attributes inlineStyle]

/-- A label depends on what its neighbours give to labels, and on nothing else of them. -/
theorem label_congr {near before : List Node} (same : near.map labelPart? = before.map labelPart?) :
    label near = label before := by
  have parts (nodes : List Node) : (nodes.take labelReach).filterMap labelPart? =
      ((nodes.map labelPart?).take labelReach).filterMap id := by
    rw [← List.map_take, List.filterMap_map]
    rfl
  rw [label, label, parts, parts, same]

/-- The text inside a style element stays in its skeleton. -/
theorem filterMap_text?_skeleton (forest : List Node) :
    (Node.skeleton true forest).filterMap Node.text? = forest.filterMap Node.text? := by
  induction forest with
  | nil => rw [Node.skeleton]
  | cons node rest ih =>
      cases node with
      | text content => rw [Node.skeleton, if_pos rfl, List.filterMap_cons, List.filterMap_cons, ih]
      | comment content => rw [Node.skeleton, List.filterMap_cons, List.filterMap_cons, ih]
      | element tag attributes children =>
          rw [Node.skeleton, List.filterMap_cons, List.filterMap_cons, ih]
          rfl

/-- A forest and its skeleton give the same to an outline, whatever stands between the neighbours in front
of them. -/
theorem levelFrom_skeleton (forest : List Node) :
    ∀ depth near before, near.map labelPart? = before.map labelPart? →
      levelFrom depth near (Node.skeleton false forest) = levelFrom depth before forest := by
  induction forest using Node.forest_induction with
  | nil =>
      intro depth near before _
      rw [Node.skeleton, levelFrom, levelFrom]
  | cons node rest ihChildren ihRest =>
      intro depth near before same
      cases node with
      | text content =>
          rw [Node.skeleton, if_neg Bool.false_ne_true, levelFrom]
          exact ihRest depth near before same
      | comment content =>
          rw [Node.skeleton, levelFrom, levelFrom]
          apply ihRest
          rw [List.map_cons, List.map_cons, same]
      | element tag attributes children =>
          rw [Node.skeleton, levelFrom, levelFrom]
          by_cases style : tag = Node.styleTag
          · rw [if_pos style, if_pos style, beq_iff_eq.mpr style, Bool.or_true, ihRest depth near before same,
              StyleBlock.ofChildren, StyleBlock.ofChildren, filterMap_text?_skeleton]
          · have passed : (Node.element tag (Attributes.firsts Node.stylingNames attributes)
                (Node.skeleton false children) :: near).map labelPart? =
                  (Node.element tag attributes children :: before).map labelPart? := by
              rw [List.map_cons, List.map_cons, same]
              rfl
            have below : levelFrom (depth + 1) [] (Node.skeleton false children) =
                levelFrom (depth + 1) [] children := ihChildren (depth + 1) [] [] rfl
            rw [if_neg style, if_neg style, beq_eq_false_iff_ne.mpr style, Bool.or_false, below,
              ihRest depth _ _ passed, label_congr same, ofAttributes?_firsts]

/-- Style elements make no difference to the entries of the elements around them. -/
theorem elements_levelFrom_withoutStyles (forest : List Node) :
    ∀ depth near before, near.map labelPart? = before.map labelPart? →
      (levelFrom depth near (Node.withoutStyles forest)).elements =
        (levelFrom depth before forest).elements := by
  induction forest using Node.forest_induction with
  | nil =>
      intro depth near before _
      rw [Node.withoutStyles, levelFrom, levelFrom]
  | cons node rest ihChildren ihRest =>
      intro depth near before same
      cases node with
      | text content =>
          rw [Node.withoutStyles, levelFrom, levelFrom]
          · exact ihRest depth near before same
          · simp
      | comment content =>
          rw [Node.withoutStyles, levelFrom, levelFrom]
          · apply ihRest
            rw [List.map_cons, List.map_cons, same]
          · simp
      | element tag attributes children =>
          rw [Node.withoutStyles, levelFrom]
          by_cases style : tag = Node.styleTag
          · rw [if_pos style, if_pos style]
            exact ihRest depth near before same
          · have passed : (Node.element tag attributes (Node.withoutStyles children) :: near).map
                labelPart? = (Node.element tag attributes children :: before).map labelPart? := by
              rw [List.map_cons, List.map_cons, same]
              rfl
            have below : (levelFrom (depth + 1) [] (Node.withoutStyles children)).elements =
                (levelFrom (depth + 1) [] children).elements := ihChildren (depth + 1) [] [] rfl
            rw [if_neg style, if_neg style, levelFrom, if_neg style]
            dsimp only
            rw [below, ihRest depth _ _ passed, label_congr same]

/-- A forest has the outline of its skeleton. -/
theorem ofForest?_skeleton (depth : Int) (forest : List Node) :
    ofForest? depth (Node.skeleton false forest) = ofForest? depth forest := by
  have same : level depth (Node.skeleton false forest) = level depth forest :=
    levelFrom_skeleton forest depth [] [] rfl
  rw [ofForest?, ofForest?, same]

/-- What an outline keeps of elements is decided by the skeleton without its style elements. -/
theorem kept_ofForest_skeleton (depth : Int) (forest : List Node) :
    kept (ofForest depth forest) =
      (level depth (Node.withoutStyles (Node.skeleton false forest))).elements := by
  rw [kept_ofForest, level, level, elements_levelFrom_withoutStyles _ depth [] [] rfl,
    levelFrom_skeleton forest depth [] [] rfl]

end Outline

namespace Raw

/-- Forests with one skeleton have one stylesheet or none, and forests whose skeletons differ in style
elements alone have the same rules behind their regions. -/
theorem ofOutline_of_skeleton [Romanization] {settings : Settings} (typed : settings.WellTyped)
    (depth number : Int) (forest other : List Node) :
    (Node.skeleton false forest = Node.skeleton false other →
      (Outline.ofForest? depth forest = none ∧ Outline.ofForest? depth other = none) ∨
        ∃ outline another raw, Outline.ofForest? depth forest = some outline ∧
          Outline.ofForest? depth other = some another ∧
          ofOutline settings number outline = .ok raw ∧
          ofOutline settings number another = .ok raw) ∧
      (Node.withoutStyles (Node.skeleton false forest) =
          Node.withoutStyles (Node.skeleton false other) →
        ∃ rules,
          ofOutline settings number (Outline.kept (Outline.ofForest depth forest)) = .ok rules ∧
          ofOutline settings number (Outline.kept (Outline.ofForest depth other)) = .ok rules) := by
  constructor
  · intro same
    have outlines : Outline.ofForest? depth other = Outline.ofForest? depth forest := by
      rw [← Outline.ofForest?_skeleton, ← same, Outline.ofForest?_skeleton]
    cases made : Outline.ofForest? depth forest with
    | none => exact Or.inl ⟨rfl, outlines.trans made⟩
    | some outline =>
        obtain ⟨raw, written⟩ := exists_siblings typed outline number 0
        exact Or.inr ⟨outline, outline, raw, rfl, outlines.trans made, written, written⟩
  · intro same
    rw [Outline.kept_ofForest_skeleton depth forest, Outline.kept_ofForest_skeleton depth other, same]
    obtain ⟨rules, written⟩ := exists_siblings typed
      (Outline.level depth (Node.withoutStyles (Node.skeleton false other))).elements number 0
    exact ⟨rules, written, written⟩

def tile : List Node :=
  [.comment "tile".toList, .text ['\n'],
    .element "div".toList [("id".toList, ['t']), ("class".toList, "p-2".toList),
        ("class".toList, "p-3".toList)]
      [.text "Hi".toList, .element "style".toList [] [.text "a {}".toList],
        .element ['b'] [("style".toList, "color: red".toList)] [.text ['!']]]]

/-- The box with other text and other attributes. -/
def retold : List Node :=
  [.comment "tile".toList,
    .element "div".toList [("class".toList, "p-2".toList), ("title".toList, ['T'])]
      [.element "style".toList [("media".toList, "print".toList)] [.text "a {}".toList], .text ['?'],
        .element ['b'] [("style".toList, "color: red".toList)] []]]

/-- The box with its style elements elsewhere. -/
def restyled : List Node :=
  [.comment "tile".toList, .element "style".toList [] [.text "p {}".toList],
    .element "style".toList [] [],
    .element "div".toList [("class".toList, "p-2".toList)]
      [.element ['b'] [("style".toList, "color: red".toList)] []]]

theorem ofOutline_of_skeleton_tile :
    (Node.skeleton false tile = Node.skeleton false retold ∧
      ((Outline.ofForest? 1 tile = none ∧ Outline.ofForest? 1 retold = none) ∨
        ∃ outline another raw, Outline.ofForest? 1 tile = some outline ∧
          Outline.ofForest? 1 retold = some another ∧ ofOutline {} 0 outline = .ok raw ∧
          ofOutline {} 0 another = .ok raw)) ∧
      Node.withoutStyles (Node.skeleton false tile) =
          Node.withoutStyles (Node.skeleton false restyled) ∧
        ∃ rules, ofOutline {} 0 (Outline.kept (Outline.ofForest 1 tile)) = .ok rules ∧
          ofOutline {} 0 (Outline.kept (Outline.ofForest 1 restyled)) = .ok rules := by
  have typed := Settings.wellTyped_default
  have same : Node.skeleton false tile = Node.skeleton false retold := by
    cbv
  have bare : Node.withoutStyles (Node.skeleton false tile) =
      Node.withoutStyles (Node.skeleton false restyled) := by
    cbv
  exact ⟨⟨same, (ofOutline_of_skeleton typed 1 0 tile retold).1 same⟩, bare,
    (ofOutline_of_skeleton typed 1 0 tile restyled).2 bare⟩

end Raw

end NestedStyles
