import NestedStyles.Proofs.Outline.Level
import NestedStyles.Proofs.Stylesheet.Siblings

/-!
Style regions in the stylesheet of a forest. They stand in front of all rules, one for each style
element that is not inside another, and are numbered in document order.
-/

set_option autoImplicit false

namespace NestedStyles

namespace Raw

/-- The regions of style blocks, numbered on from a number. -/
def regionsFrom (number : Nat) (blocks : List StyleBlock) : Text :=
  (blocks.zipIdx number).flatMap fun (block, number) => region block number

/-- A region in pieces, with the content of its block next to a line break. -/
theorem region_eq (content : Text) (number : Int) :
    region { content } number = "// #region ".toList ++ ("STYLE".toList ++ (" #".toList ++
      (Text.ofInt number ++ ("\n\n".toList ++ ((content ++ ['\n']) ++
        "// #endregion\n\n".toList))))) := by
  have mark : "\n// #endregion\n\n".toList = ['\n'] ++ "// #endregion\n\n".toList := by decide
  unfold region
  rw [mark]
  simp only [List.append_assoc]

theorem regionsFrom_cons (number : Nat) (block : StyleBlock) (rest : List StyleBlock) :
    regionsFrom number (block :: rest) = region block number ++ regionsFrom (number + 1) rest := by
  rw [regionsFrom, List.zipIdx_cons, List.flatMap_cons, regionsFrom]

/-- Style blocks in front of other entries are written in front of them. -/
theorem siblings_map_block_append [Romanization] (settings : Settings) (number : Int)
    (entries : List Entry) (blocks : List StyleBlock) :
    ∀ regions, siblings settings number regions (blocks.map Entry.block ++ entries) =
      (siblings settings number (regions + blocks.length) entries).map
        (regionsFrom (regions + 1) blocks ++ ·) := by
  induction blocks with
  | nil =>
      intro regions
      rw [List.map_nil, List.nil_append, List.length_nil, Nat.add_zero]
      cases siblings settings number regions entries <;> rfl
  | cons block rest ih =>
      intro regions
      have counted : regions + 1 + rest.length = regions + (block :: rest).length := by
        rw [List.length_cons]
        omega
      rw [List.map_cons, List.cons_append, siblings_block, ih, counted, regionsFrom_cons]
      cases siblings settings number (regions + (block :: rest).length) entries with
      | error fault => rfl
      | ok others =>
          exact congrArg Except.ok (List.append_assoc (region block (regions + 1)) _ others).symm

/-- How many style blocks were written before does not show in the rules of elements. -/
theorem siblings_of_isElement [Romanization] (settings : Settings) (regions other : Nat)
    (entries : List Entry) :
    ∀ number, (∀ entry ∈ entries, entry.isElement = true) →
      siblings settings number regions entries = siblings settings number other entries := by
  induction entries with
  | nil =>
      intro number _
      rw [siblings_nil, siblings_nil]
  | cons entry rest ih =>
      intro number elements
      have restElements : ∀ entry ∈ rest, entry.isElement = true :=
        fun entry member => elements entry (List.mem_cons_of_mem _ member)
      cases entry with
      | block block => exact absurd (elements _ List.mem_cons_self) Bool.false_ne_true
      | element subject children =>
          rw [siblings_element, siblings_element, ih _ restElements]

/-- What is written of a forest: its regions, and behind them what its elements alone would give. -/
theorem ofOutline_eq_map [Romanization] (settings : Settings) (number depth : Int)
    (forest : List Node) :
    ofOutline settings number (Outline.ofForest depth forest) =
      (ofOutline settings number (Outline.kept (Outline.ofForest depth forest))).map
        (regionsFrom 1 (Outline.level depth forest).blocks ++ ·) := by
  rw [Outline.kept_ofForest, Outline.ofForest_eq, Outline.Level.entries, ofOutline,
    siblings_map_block_append, ofOutline,
    siblings_of_isElement settings _ 0 (Outline.level depth forest).elements number
      Outline.isElement_of_mem_elements]

/-- The regions of the style elements of a forest stand in front, numbered from 1 in document order,
and behind them stands what the kept elements alone would give. -/
theorem ofOutline_ofForest [Romanization] (settings : Settings) (number depth : Int)
    (forest : List Node) :
    let outline := Outline.ofForest depth forest
    let contents := Node.gather Node.styleContent? forest
    ofOutline settings number outline =
        (ofOutline settings number (Outline.kept outline)).map
          ((contents.zipIdx 1).flatMap (fun (content, number) => region { content } number) ++ ·) ∧
      ∀ place block, Place.at? Entry.children (Outline.kept outline) place ≠ some (.block block) := by
  intro outline contents
  have written : regionsFrom 1 (Outline.level depth forest).blocks =
      (contents.zipIdx 1).flatMap fun (content, number) => region { content } number := by
    rw [Outline.blocks_level, regionsFrom, List.zipIdx_map, List.flatMap_map]
    rfl
  constructor
  · rw [← written]
    exact ofOutline_eq_map settings number depth forest
  · intro place block stands
    have elements : Outline.kept outline = (Outline.level depth forest).elements :=
      Outline.kept_ofForest depth forest
    rw [elements] at stands
    exact absurd (Outline.isElement_of_at?_elements place stands) Bool.false_ne_true

theorem getLast?_region (block : StyleBlock) (number : Int) :
    (region block number).getLast? = some '\n' := by
  have mark : "\n// #endregion\n\n".toList = "\n// #endregion\n".toList ++ ['\n'] := by decide
  unfold region
  rw [mark, ← List.append_assoc, List.getLast?_concat]

/-- Regions end with a line break. -/
theorem getLast?_regionsFrom_eq (blocks : List StyleBlock) :
    ∀ number, regionsFrom number blocks = [] ∨ (regionsFrom number blocks).getLast? = some '\n' := by
  induction blocks with
  | nil => exact fun _ => Or.inl rfl
  | cons block rest ih =>
      intro number
      right
      rw [regionsFrom_cons]
      rcases ih (number + 1) with empty | last
      · rw [empty, List.append_nil, getLast?_region]
      · have nonempty : regionsFrom (number + 1) rest ≠ [] := by
          intro empty
          rw [empty] at last
          cases last
        rw [List.getLast?_append_of_ne_nil _ nonempty, last]

end Raw

end NestedStyles
