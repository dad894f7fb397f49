import Mathlib
import NestedStyles.Proofs.Outline.ClassLists
import NestedStyles.Proofs.Stylesheet.Written
import NestedStyles.Proofs.Text.Decimal

/-!
The texts that a stylesheet shows, and properties that pass from them to all that is written around
them. What is written besides is fixed or a number, and never holds an at sign or a brace except
for the statements and the braces of rules.
-/

set_option autoImplicit false

namespace NestedStyles

namespace Raw

/-- Whether something holds of the texts that the rule of an element shows besides its class list: its
label if that is printed, its selector, and its inline style. -/
structure Prints [Romanization] (settings : Settings) (Good : Text → Prop) (number : Int)
    (subject : Subject) : Prop where
  label : settings.printComments.isOn = true → Good subject.label
  selector : ∀ selector, Selector.ofSubject settings number subject = .ok selector → Good selector
  inlineStyle : ∀ style, subject.inlineStyle = some style → Good style

/-- Of the selectors it is enough to look at the one that the element gets. -/
theorem Prints.of_selected [Romanization] {settings : Settings} {Good : Text → Prop} {number : Int}
    {subject : Subject} (selector : Text)
    (selected : Selector.ofSubject settings number subject = .ok selector)
    (label : Good subject.label) (good : Good selector)
    (inlineStyle : ∀ style ∈ subject.inlineStyle, Good style) :
    Prints settings Good number subject := by
  refine ⟨fun _ => label, ?_, inlineStyle⟩
  intro other same
  rw [selected] at same
  cases same
  exact good

/-- What holds of the label and the selector holds of the title as well. -/
theorem Prints.title [Romanization] {settings : Settings} {Good : Text → Prop} {number : Int}
    {subject : Subject} {selector : Text} (prints : Prints settings Good number subject)
    (generic : ∀ tag ∈ Selector.genericTags, Good tag)
    (selected : Selector.ofSubject settings number subject = .ok selector)
    (printed : settings.printComments.isOn = true) : Good (Selector.title subject) := by
  by_cases unlabelled : subject.label.isEmpty = true
  · rw [Selector.title, if_pos unlabelled]
    rcases Selector.tag_mem_or_eq unlabelled selected with member | same
    · exact generic subject.tag member
    · rw [same]
      exact prints.selector selector selected
  · rw [Selector.title, if_neg unlabelled]
    exact prints.label printed

/-- Whether something holds of the texts that the stylesheet of an outline shows besides class
lists. -/
structure Shows [Romanization] (settings : Settings) (Good : Text → Prop) (number : Int)
    (outline : List Entry) : Prop where
  blocks : ∀ block, .block block ∈ outline → Good block.content
  elements : ForEach (Prints settings Good) number (Outline.kept outline)

/-- What holds of all style blocks of an outline holds of the contents of the forest. -/
theorem Shows.content [Romanization] {settings : Settings} {Good : Text → Prop} {number depth : Int}
    {forest : List Node} (shows : Shows settings Good number (Outline.ofForest depth forest)) :
    ∀ content ∈ Node.gather Node.styleContent? forest, Good content := by
  intro content member
  refine shows.blocks { content } ?_
  rw [Outline.ofForest_eq, Outline.Level.entries, Outline.blocks_level]
  exact List.mem_append_left _ (List.mem_map_of_mem (List.mem_map_of_mem member))

/-- Whether a text is free of the at sign and of braces, as everything fixed in a header, an inline
style or a region is. -/
def Unmarked (text : Text) : Prop :=
  '@' ∉ text ∧ '{' ∉ text ∧ '}' ∉ text

instance (text : Text) : Decidable (Unmarked text) :=
  inferInstanceAs (Decidable ('@' ∉ text ∧ '{' ∉ text ∧ '}' ∉ text))

/-- How a property of texts passes from pieces to what is written with them: unmarked texts have it, and
concatenations, and a good text together with the character that is written behind it. -/
structure Passes (Good P : Text → Prop) : Prop where
  unmarked : ∀ {text}, Unmarked text → Good text ∧ P text
  append : ∀ {front back}, P front → P back → P (front ++ back)
  shown : ∀ {text c}, Good text → c ∈ [' ', ';', '\n'] → P (text ++ [c])

section Passes

variable {Good P : Text → Prop}

theorem Passes.nil (passes : Passes Good P) : P [] :=
  (passes.unmarked (by decide)).2

theorem Passes.ofInt (passes : Passes Good P) (n : Int) : P (Text.ofInt n) := by
  have at_sign : '@' ∉ Text.ofInt n := Text.not_mem_ofInt (by decide) (by decide) n
  have opening : '{' ∉ Text.ofInt n := Text.not_mem_ofInt (by decide) (by decide) n
  have closing : '}' ∉ Text.ofInt n := Text.not_mem_ofInt (by decide) (by decide) n
  exact (passes.unmarked ⟨at_sign, opening, closing⟩).2

theorem Passes.header (passes : Passes Good P) {subject : Subject}
    (good : Good (Selector.title subject)) : P (Selector.header subject) := by
  have pieces : Selector.header subject = "/* ".toList ++ ((Selector.title subject ++ [' ']) ++
      ("-> ".toList ++ (Text.ofInt subject.depth ++ " */".toList))) := by
    rw [Selector.header_eq]
    simp only [List.append_assoc]
    rfl
  rw [pieces]
  refine passes.append (passes.unmarked (by decide)).2 ?_
  refine passes.append (passes.shown good (by decide)) ?_
  refine passes.append (passes.unmarked (by decide)).2 ?_
  exact passes.append (passes.ofInt subject.depth) (passes.unmarked (by decide)).2

/-- The header of an element that prints good texts, if there is one. -/
theorem Passes.headerOf [Romanization] (passes : Passes Good P) {settings : Settings} {number : Int}
    {subject : Subject} {selector : Text} (prints : Prints settings Good number subject)
    (selected : Selector.ofSubject settings number subject = .ok selector) :
    P (Selector.headerOf settings subject) := by
  have generic : ∀ tag ∈ Selector.genericTags, Good tag := by
    intro tag member
    rw [List.mem_singleton.mp member]
    exact (passes.unmarked (by decide)).1
  rw [Selector.headerOf]
  split
  · rename_i printed
    exact passes.header (prints.title generic selected printed)
  · exact passes.nil

theorem Passes.inlineStyle (passes : Passes Good P) {style : Text} (good : Good style) :
    P (Raw.inlineStyle style) := by
  have newline : P ['\n'] := (passes.unmarked (by decide)).2
  have line : P (Text.withEnding [';'] style ++ ['\n']) := by
    rw [Text.withEnding]
    split
    · exact passes.shown good (by decide)
    · exact passes.append (passes.shown good (by decide)) newline
  rw [Raw.inlineStyle, List.cons_append]
  exact passes.append newline line

theorem Passes.region (passes : Passes Good P) {content : Text} (good : Good content)
    (number : Int) : P (region { content } number) := by
  rw [region_eq]
  refine passes.append (passes.unmarked (by decide)).2 ?_
  refine passes.append (passes.unmarked (by decide)).2 ?_
  refine passes.append (passes.unmarked (by decide)).2 ?_
  refine passes.append (passes.ofInt number) ?_
  refine passes.append (passes.unmarked (by decide)).2 ?_
  exact passes.append (passes.shown good (by decide)) (passes.unmarked (by decide)).2

theorem Passes.regionsFrom (passes : Passes Good P) {contents : List Text}
    (good : ∀ content ∈ contents, Good content) :
    ∀ number, P (regionsFrom number (contents.map fun content => { content })) := by
  induction contents with
  | nil =>
      intro number
      exact passes.nil
  | cons content rest ih =>
      intro number
      rw [List.forall_mem_cons] at good
      rw [List.map_cons, regionsFrom_cons]
      exact passes.append (passes.region good.1 number) (ih good.2 (number + 1))

end Passes

/-- A labelled element with a style element and a styled leaf in it. -/
def card : List Node :=
  [.comment " Card ".toList,
    .element "div".toList [("class".toList, "p-4  flex".toList)]
      [.element "style".toList [] [.text "a".toList],
        .element "p".toList [("style".toList, "top: 0".toList), ("class".toList, "mt-2".toList)] []]]

theorem ofForest_card : Outline.ofForest 1 card =
    [.block { content := "a".toList },
      .element ⟨"div".toList, "Card".toList, 1, some ⟨some "p-4 flex".toList, none⟩⟩
        (some [.element ⟨"p".toList, [], 2, some ⟨some "mt-2".toList, some "top: 0".toList⟩⟩
          none])] := by
  cbv

theorem gather_card : Node.gather Node.classList? card = ["p-4 flex".toList, "mt-2".toList] := by
  cbv

theorem shows_card [Romanization] {Good : Text → Prop} (block : Good "a".toList)
    (label : Good "Card".toList) (empty : Good []) (generic : Good ".class-div-1".toList)
    (tag : Good "p".toList) (style : Good "top: 0".toList) : Shows {} Good 0 (Outline.ofForest 1 card) := by
  rw [ofForest_card]
  refine ⟨?_, ?_⟩
  · intro found member
    simp only [List.mem_cons, List.not_mem_nil, reduceCtorEq, or_false, Entry.block.injEq] at member
    rw [member]
    exact block
  · have leaf : ForEach (Prints {} Good) 1
        [.element ⟨"p".toList, [], 2, some ⟨some "mt-2".toList, some "top: 0".toList⟩⟩ none] := by
      refine (forEach_cons _ _ _ _ _).mpr ⟨?_, forEach_nil _ _, forEach_nil _ _⟩
      refine Prints.of_selected "p".toList (by cbv) empty tag ?_
      intro given same
      cases same
      exact style
    refine (forEach_cons _ _ _ _ _).mpr ⟨?_, leaf, forEach_nil _ _⟩
    refine Prints.of_selected ".class-div-1".toList (by cbv) label generic ?_
    intro given absent
    cases absent

end Raw

end NestedStyles
