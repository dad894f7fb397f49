import NestedStyles.Proofs.Outline.Labels

/-!
How far a forest reaches into the outline of what follows it. Only the last candidates count, and only for
the labels behind them: where they say nothing, the outline of two forests in a row is made of those of
the two.
-/

set_option autoImplicit false

namespace NestedStyles

/-- Parts that say something say something together. -/
theorem Text.join_ne_nil {separator : Text} {parts : List Text} (some : parts ≠ [])
    (filled : ∀ part ∈ parts, part ≠ []) : join separator parts ≠ [] := by
  cases parts with
  | nil => exact absurd rfl some
  | cons part rest =>
      have first : part ≠ [] := filled part List.mem_cons_self
      cases rest with
      | nil => exact first
      | cons next more => simp [first]

def Entry.block? : Entry → Option StyleBlock
  | .block own => some own
  | .element _ _ => none

namespace Outline

def blocks (outline : List Entry) : List StyleBlock :=
  outline.filterMap Entry.block?

/-- The candidates at the end of a forest that labels behind it may be taken from, nearest first. -/
def lastCandidates (forest : List Node) : List Node :=
  (forest.filter Node.isCandidate).reverse.take labelReach

theorem blocks_ofForest (depth : Int) (forest : List Node) :
    blocks (ofForest depth forest) = (level depth forest).blocks := by
  have none : (level depth forest).elements.filterMap Entry.block? = [] := by
    rw [List.filterMap_eq_nil_iff]
    intro entry member
    cases entry with
    | block block => exact absurd (isElement_of_mem_elements _ member) Bool.false_ne_true
    | element subject children => rfl
  have all : (Entry.block? ∘ Entry.block) = Option.some := rfl
  rw [ofForest_eq, Level.entries, blocks, List.filterMap_append, none, List.filterMap_map, all,
    List.filterMap_some, List.append_nil]

theorem ofForest?_eq_none_iff_blocks_kept (depth : Int) (forest : List Node) :
    ofForest? depth forest = none ↔
      blocks (ofForest depth forest) = [] ∧ kept (ofForest depth forest) = [] := by
  have empty : ofForest? depth forest = none ↔ ofForest depth forest = [] := by
    refine ⟨fun none => by rw [ofForest, none, Option.getD_none], fun nothing => ?_⟩
    cases made : ofForest? depth forest with
    | none => rfl
    | some outline =>
        rw [eq_of_ofForest? made, nothing, ofForest?] at made
        split at made
        · cases made
        · cases made
  rw [empty, blocks_ofForest, kept_ofForest, ofForest_eq, Level.entries, List.append_eq_nil_iff,
    List.map_eq_nil_iff]

/-- Forests in a row are read one after the other, the second behind the candidates of the first. -/
theorem elements_levelFrom_append (depth : Int) (front back : List Node) :
    ∀ before, (levelFrom depth before (front ++ back)).elements =
      (levelFrom depth before front).elements ++
        (levelFrom depth (front.foldl passed before) back).elements := by
  induction front with
  | nil =>
      intro before
      rw [elements_levelFrom_nil]
      rfl
  | cons node rest ih =>
      intro before
      rw [List.cons_append, elements_levelFrom_cons, elements_levelFrom_cons, ih, List.append_assoc,
        List.foldl_cons]

/-- A label is empty exactly if no neighbour in reach says anything. -/
theorem label_eq_nil_iff (before : List Node) :
    label before = [] ↔ ∀ node ∈ before.take labelReach, labelPart? node = none := by
  rw [← List.filterMap_eq_nil_iff, label]
  constructor
  · intro silent
    by_contra said
    refine Text.join_ne_nil (mt List.reverse_eq_nil_iff.mp said) ?_ silent
    intro part member
    obtain ⟨node, -, given⟩ := List.mem_filterMap.mp (List.mem_reverse.mp member)
    cases node with
    | comment content => exact Text.ne_nil_of_clean? given
    | text content => cases given
    | element tag attributes children => cases given
  · intro silent
    rw [silent]
    rfl

section Silent

variable {old : List Node}

/-- What says nothing adds nothing to the label of what stands nearer. -/
theorem label_append_of_silent (silent : ∀ node ∈ old.take labelReach, labelPart? node = none)
    (recent : List Node) : label (recent ++ old) = label recent := by
  have nothing : (old.take (labelReach - recent.length)).filterMap labelPart? = [] := by
    rw [List.filterMap_eq_nil_iff]
    intro node member
    exact silent node ((List.take_prefix_take_left (Nat.sub_le _ _)).subset member)
  rw [label, label, List.take_append, List.filterMap_append, nothing, List.append_nil]

theorem nodeElement?_append_of_silent
    (silent : ∀ node ∈ old.take labelReach, labelPart? node = none) (depth : Int)
    (recent : List Node) (node : Node) :
    nodeElement? depth (recent ++ old) node = nodeElement? depth recent node := by
  cases node with
  | text content => rfl
  | comment content => rfl
  | element tag attributes children =>
      rw [nodeElement?, nodeElement?, label_append_of_silent silent]

theorem passed_append (recent old : List Node) (node : Node) :
    passed (recent ++ old) node = passed recent node ++ old := by
  rw [passed, passed]
  split
  · rfl
  · rfl

/-- A level is the same behind candidates that say nothing. -/
theorem elements_levelFrom_of_silent
    (silent : ∀ node ∈ old.take labelReach, labelPart? node = none) (depth : Int)
    (forest : List Node) :
    ∀ recent, (levelFrom depth (recent ++ old) forest).elements =
      (levelFrom depth recent forest).elements := by
  induction forest with
  | nil =>
      intro recent
      rw [elements_levelFrom_nil, elements_levelFrom_nil]
  | cons node rest ih =>
      intro recent
      rw [elements_levelFrom_cons, elements_levelFrom_cons, nodeElement?_append_of_silent silent,
        passed_append, ih]

end Silent

/-- An element that is kept wherever it stands. -/
def probe : Node :=
  .element "p".toList [("class".toList, "x".toList)] []

/-- The elements of a forest and of any other behind it are kept as they are apart exactly if none of the
last candidates of the first says anything. -/
theorem forall_kept_append_iff (depth : Int) (front : List Node) :
    (∀ back, kept (ofForest depth (front ++ back)) =
      kept (ofForest depth front) ++ kept (ofForest depth back)) ↔
      ∀ node ∈ lastCandidates front, labelPart? node = none := by
  have last : lastCandidates front = (front.foldl passed []).take labelReach := by
    rw [foldl_passed, List.append_nil, lastCandidates]
  simp only [kept_ofForest, level, elements_levelFrom_append, List.append_cancel_left_eq, last]
  constructor
  · intro apart
    have styled : ∀ before, nodeElement? depth before probe =
        some (.element ⟨"p".toList, label before, depth, some ⟨some ['x'], none⟩⟩ none) := by
      intro before
      have below : (level (depth + 1) []).elements = [] := elements_levelFrom_nil _ _
      have own : Styling.ofAttributes? [("class".toList, "x".toList)] =
          some ⟨some ['x'], none⟩ := by cbv
      rw [probe, nodeElement?, below, own, if_neg (by decide)]
      rfl
    have same := apart [probe]
    simp only [elements_levelFrom_cons, elements_levelFrom_nil, styled, Option.toList_some,
      List.append_nil, List.cons.injEq, Entry.element.injEq, Subject.mk.injEq, and_true, true_and]
      at same
    exact (label_eq_nil_iff _).mp same
  · exact fun silent back => elements_levelFrom_of_silent silent depth back []

/-- Where none of the last candidates of a forest is a comment, its outline and that of what follows do
not depend on each other. -/
theorem ofForest_append {front : List Node}
    (quiet : ∀ node ∈ lastCandidates front, node.comment? = none) (depth : Int) (back : List Node) :
    blocks (ofForest depth (front ++ back)) =
        blocks (ofForest depth front) ++ blocks (ofForest depth back) ∧
      kept (ofForest depth (front ++ back)) =
        kept (ofForest depth front) ++ kept (ofForest depth back) ∧
      (ofForest? depth (front ++ back) = none ↔
        ofForest? depth front = none ∧ ofForest? depth back = none) := by
  have gathered : blocks (ofForest depth (front ++ back)) =
      blocks (ofForest depth front) ++ blocks (ofForest depth back) := by
    rw [blocks_ofForest, blocks_ofForest, blocks_ofForest, blocks_level, blocks_level, blocks_level,
      Node.gather_append, List.map_append]
  have joined : kept (ofForest depth (front ++ back)) =
      kept (ofForest depth front) ++ kept (ofForest depth back) := by
    refine (forall_kept_append_iff depth front).mpr (fun node member => ?_) back
    rw [labelPart?_eq, quiet node member, Option.bind_none]
  refine ⟨gathered, joined, ?_⟩
  rw [ofForest?_eq_none_iff_blocks_kept, ofForest?_eq_none_iff_blocks_kept,
    ofForest?_eq_none_iff_blocks_kept, gathered, joined, List.append_eq_nil_iff,
    List.append_eq_nil_iff]
  tauto

/-- Two elements behind a comment, with a style element between them. -/
def upper : List Node :=
  [.comment "a".toList, .element "p".toList [("class".toList, "x".toList)] [],
    .element Node.styleTag [] [.text "i{}".toList],
    .element "b".toList [("style".toList, "y:z".toList)] []]

/-- An element behind a comment. -/
def lower : List Node :=
  [.comment "c".toList, .element "ul".toList [("class".toList, "w".toList)] []]

theorem ofForest_append_upper_lower :
    (∀ node ∈ lastCandidates upper, node.comment? = none) ∧
      blocks (ofForest 1 (upper ++ lower)) =
        blocks (ofForest 1 upper) ++ blocks (ofForest 1 lower) ∧
      kept (ofForest 1 (upper ++ lower)) = kept (ofForest 1 upper) ++ kept (ofForest 1 lower) ∧
      (ofForest? 1 (upper ++ lower) = none ↔ ofForest? 1 upper = none ∧ ofForest? 1 lower = none) := by
  have quiet : ∀ node ∈ lastCandidates upper, node.comment? = none := by decide
  exact ⟨quiet, ofForest_append quiet 1 lower⟩

end Outline

end NestedStyles
