import NestedStyles.CommandLine.Romanized
import NestedStyles.Conversion
import NestedStyles.Proofs.Outline.StyledPart
import NestedStyles.Proofs.Stylesheet.Pieces
import NestedStyles.Proofs.Text.Words

/-!
When markup has a stylesheet: exactly if something in it carries styling. The question is decided along
the way by cleaning, by the outline and by what is written of it, and they agree. Of the markup itself
only the words count, for the stylesheet as for faults.
-/

set_option autoImplicit false

namespace NestedStyles

namespace Node

/-- Whether a node is an element whose first class list or first inline style holds more than
blanks. -/
def HasStyling : Node → Prop
  | element _ attributes _ => attributes.Gives "class".toList ∨ attributes.Gives "style".toList
  | _ => False

/-- Whether a stylesheet can be made of a node alone. -/
def Matters (node : Node) : Prop :=
  node.isStyle = true ∨ node.HasStyling

end Node

namespace Outline

theorem append_ne_nil_iff {α : Type} (front back : List α) :
    front ++ back ≠ [] ↔ front ≠ [] ∨ back ≠ [] := by
  rw [ne_eq, List.append_eq_nil_iff, not_and_or]

theorem toList_element?_ne_nil_iff (subject : Subject) (below : List Entry) :
    (element? subject below).toList ≠ [] ↔ subject.styling ≠ none ∨ below ≠ [] := by
  rw [← isSome_element?, ← Option.ne_none_iff_isSome, ne_eq, Option.toList_eq_nil_iff]

/-- A level gives something exactly if a node matters on it or anywhere below. What is inside a style
element makes no difference, since the style element itself matters. -/
theorem levelFrom_filled_iff (forest : List Node) :
    ∀ depth before, (levelFrom depth before forest).blocks ≠ [] ∨
        (levelFrom depth before forest).elements ≠ [] ↔
      ∃ place node, Place.at? Node.children forest place = some node ∧ node.Matters := by
  induction forest using Node.forest_induction with
  | nil =>
      intro depth before
      simp
  | cons node rest ihChildren ihRest =>
      intro depth before
      rw [Place.exists_at?_cons]
      cases node with
      | text content =>
          rw [levelFrom, ihRest]
          simp [Node.Matters, Node.HasStyling, Node.children]
      | comment content =>
          rw [levelFrom, ihRest]
          simp [Node.Matters, Node.HasStyling, Node.children]
      | element tag attributes children =>
          by_cases style : tag = Node.styleTag
          · rw [levelFrom, if_pos style]
            simp [Node.Matters, style]
          · have below := ihChildren (depth + 1) []
            have behind := ihRest depth (.element tag attributes children :: before)
            have own : (Node.element tag attributes children).Matters ↔
                Styling.ofAttributes? attributes ≠ none := by
              rw [ofAttributes?_ne_none_iff]
              simp [Node.Matters, Node.HasStyling, style]
            rw [Node.children] at below
            rw [own, Node.children, ← below, ← behind, levelFrom, if_neg style]
            dsimp only
            rw [append_ne_nil_iff, append_ne_nil_iff, toList_element?_ne_nil_iff, iff_iff_eq]
            ac_rfl

theorem entries_ne_nil_iff (level : Level) :
    level.entries ≠ [] ↔ level.blocks ≠ [] ∨ level.elements ≠ [] := by
  rw [Level.entries, append_ne_nil_iff, ne_eq, List.map_eq_nil_iff]

/-- A forest has no outline exactly if no node matters. -/
theorem ofForest?_eq_none_iff (depth : Int) (forest : List Node) :
    ofForest? depth forest = none ↔
      ∀ place node, Place.at? Node.children forest place = some node → ¬ node.Matters := by
  have filled := levelFrom_filled_iff forest depth []
  rw [← level, ← entries_ne_nil_iff] at filled
  have empty : ofForest? depth forest = none ↔ (level depth forest).entries = [] := by
    rw [ofForest?]
    cases (level depth forest).entries <;> simp
  rw [empty, ← not_iff_not, ← ne_eq, filled]
  push Not
  rfl

end Outline

/-- A stylesheet that is made of the outline of a forest is not empty. -/
theorem Raw.ne_nil_of_ofForest? [Romanization] {settings : Settings} (typed : settings.WellTyped)
    {depth : Int} {forest : List Node} {outline : List Entry}
    (made : Outline.ofForest? depth forest = some outline) (number : Int) :
    ∃ raw, Raw.ofOutline settings number outline = .ok raw ∧ raw ≠ [] := by
  obtain ⟨text, written, rules⟩ := Raw.exists_written_ofForest typed number depth forest
  rw [← Outline.eq_of_ofForest? made] at written
  refine ⟨_, written, ?_⟩
  have filled : (Outline.level depth forest).entries ≠ [] := by
    intro empty
    rw [Outline.ofForest?, empty] at made
    cases made
  rw [Outline.entries_ne_nil_iff] at filled
  rw [Outline.append_ne_nil_iff]
  rcases filled with blocks | elements
  · left
    obtain ⟨block, others, split⟩ := List.exists_cons_of_ne_nil blocks
    rw [split, Raw.regionsFrom_cons]
    apply List.append_ne_nil_of_left_ne_nil
    exact List.cons_ne_nil _ _
  · right
    obtain ⟨entry, others, split⟩ := List.exists_cons_of_ne_nil elements
    rw [split] at rules
    exact rules.ne_nil

/-- Whether nothing can be made of markup: there is none, or nothing but blanks, or nothing in what it
reads as matters. -/
inductive Unstyled : Option Text → Prop
  | missing : Unstyled none
  | blank {markup : Text} (blanks : ∀ c ∈ markup, Text.isBlank c = true) : Unstyled (some markup)
  | plain {markup cleaned : Text} {nodes : List Node} (cleans : Text.clean? markup = some cleaned)
      (reads : Markup.read cleaned = .ok nodes)
      (nothing : ∀ place node, Place.at? Node.children nodes place = some node → ¬ node.Matters) :
      Unstyled (some markup)

theorem unstyled_iff_of_read {markup cleaned : Text} {nodes : List Node}
    (cleans : Text.clean? markup = some cleaned) (reads : Markup.read cleaned = .ok nodes) :
    Unstyled (some markup) ↔ Outline.ofForest? 1 nodes = none := by
  constructor
  · intro unstyled
    cases unstyled with
    | blank blanks =>
        rw [← Text.clean?_eq_none_iff, cleans] at blanks
        cases blanks
    | plain same again nothing =>
        rw [cleans] at same
        cases same
        rw [reads] at again
        cases again
        exact (Outline.ofForest?_eq_none_iff 1 nodes).mpr nothing
  · intro none
    exact .plain cleans reads ((Outline.ofForest?_eq_none_iff 1 nodes).mp none)

/-- Markup is seen as its words alone: they are what cleaning leaves, with a space between each two of
them, and markup with the same words is converted alike under any options, with the same records and
the same stylesheet or fault. -/
theorem run_eq_of_words [Romanization] (markup : Text) :
    Text.clean? markup = (if Text.words markup = [] then none
        else some (Text.join [' '] (Text.words markup))) ∧
      (∀ cleaned, Text.clean? markup = some cleaned → Text.clean? cleaned = some cleaned) ∧
      ∀ other, Text.words other = Text.words markup → ∀ options : Options,
        options.resolve.map (fun settings => Conversion.run settings other) =
          options.resolve.map (fun settings => Conversion.run settings markup) := by
  refine ⟨Text.clean?_eq_join_words markup, ?_, ?_⟩
  · intro cleaned result
    exact Text.clean?_of_tidy (Text.tidy_of_clean? result)
  · intro other same options
    have cleans := (Text.clean?_eq_clean?_iff other markup).mpr same
    simp only [Conversion.run, cleans]

/-- Where a paragraph is broken makes no difference. -/
theorem run_eq_of_words_broken :
    Text.words "\n<p\tclass=a>\n".toList = Text.words "<p class=a>".toList ∧
      Conversion.run {} "\n<p\tclass=a>\n".toList = Conversion.run {} "<p class=a>".toList := by
  have same : Text.words "\n<p\tclass=a>\n".toList = Text.words "<p class=a>".toList := by
    decide +kernel
  have alike := (run_eq_of_words "<p class=a>".toList).2.2 _ same (.ready {})
  exact ⟨same, Except.ok.inj alike⟩

theorem convert_of_blank [Romanization] (settings : Settings) {markup : Text}
    (nothing : Text.clean? markup = none) : convert settings markup = .ok none := by
  rw [convert, Conversion.run, nothing]

theorem convert_of_read [Romanization] (settings : Settings) {markup cleaned : Text}
    {nodes : List Node} (cleans : Text.clean? markup = some cleaned)
    (reads : Markup.read cleaned = .ok nodes) :
    convert settings markup = (Outline.ofForest? 1 nodes).elim (.ok none) fun outline =>
      (Conversion.stylesheet settings outline).map some := by
  rw [convert, Conversion.run, cleans]
  simp only [reads, Conversion.ofNodes]
  cases Outline.ofForest? 1 nodes <;> rfl

/-- Markup that can be read has no stylesheet exactly if nothing can be made of it, and every stylesheet
that it has holds something. -/
theorem convertGiven_eq_none_iff [Romanization] {settings : Settings} (typed : settings.WellTyped)
    (unformatted : settings.formatOutput.isOn = false) {markup : Option Text}
    (readable : ∀ text cleaned, markup = some text → Text.clean? text = some cleaned →
      ∃ nodes, Markup.read cleaned = .ok nodes) :
    ∃ result, convertGiven settings markup = .ok result ∧
      (result = none ↔ Unstyled markup) ∧ ∀ text, result = some text → text ≠ [] := by
  cases markup with
  | none => exact ⟨none, rfl, iff_of_true rfl .missing, by simp⟩
  | some markup =>
      rw [convertGiven]
      cases cleans : Text.clean? markup with
      | none =>
          have blanks := (Text.clean?_eq_none_iff markup).mp cleans
          exact ⟨none, convert_of_blank settings cleans, iff_of_true rfl (.blank blanks), by simp⟩
      | some cleaned =>
          obtain ⟨nodes, reads⟩ := readable markup cleaned rfl cleans
          rw [convert_of_read settings cleans reads, unstyled_iff_of_read cleans reads]
          cases made : Outline.ofForest? 1 nodes with
          | none => exact ⟨none, rfl, by simp, by simp⟩
          | some outline =>
              obtain ⟨raw, written, nonempty⟩ := Raw.ne_nil_of_ofForest? typed made 0
              have stylesheet : Conversion.stylesheet settings outline = .ok raw := by
                rw [Conversion.stylesheet, written, unformatted]
                rfl
              refine ⟨some raw, by rw [Option.elim_some, stylesheet, Except.map], by simp, ?_⟩
              intro text same
              cases same
              exact nonempty

def Markup.leaf : Text := "<p class=a></p>".toList

theorem Markup.read_leaf :
    read leaf = .ok [.element "p".toList [("class".toList, "a".toList)] []] := by
  have filled : Text.allBlank leaf = false := by decide +kernel
  have fragment : isDocument leaf = false := by decide +kernel
  have unframed : hasFrame leaf = false := by decide +kernel
  have tokens : Token.ofText ("<html><body>".toList ++ leaf ++ "</body></html>".toList) =
      [.opening "html".toList [] false, .opening "body".toList [] false,
        .opening "p".toList [("class".toList, "a".toList)] false, .closing "p".toList,
        .closing "body".toList, .closing "html".toList] := by
    decide +kernel
  have tree : Tree.ofText ("<html><body>".toList ++ leaf ++ "</body></html>".toList) =
      [.element "html".toList [] []
        [.element "body".toList [] []
          [.element "p".toList [("class".toList, "a".toList)] [] [] []] []] []] := by
    rw [Tree.ofText, tokens]
    rfl
  simp only [read, readFragment, filled, fragment, unframed, tree, Bool.false_eq_true, if_false]
  cbv

theorem convertGiven_leaf :
    ∃ result, convertGiven { formatOutput := .bool false } (some Markup.leaf) = .ok result ∧
      (result = none ↔ Unstyled (some Markup.leaf)) ∧ ∀ text, result = some text → text ≠ [] := by
  have typed : ({ formatOutput := .bool false } : Settings).WellTyped :=
    { Settings.wellTyped_default with formatOutput := rfl }
  refine convertGiven_eq_none_iff typed rfl ?_
  intro text cleaned given cleans
  cases given
  have same : Text.clean? Markup.leaf = some Markup.leaf := by decide +kernel
  rw [same] at cleans
  cases cleans
  exact ⟨_, Markup.read_leaf⟩

end NestedStyles
