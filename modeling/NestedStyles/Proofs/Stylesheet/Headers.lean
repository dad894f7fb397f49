import NestedStyles.CommandLine.Romanized
import NestedStyles.Proofs.Stylesheet.Pieces
import NestedStyles.Proofs.Stylesheet.Siblings
import NestedStyles.Proofs.Text.Comments

/-!
Two stylesheets of one outline, with headers and without. Removing the comments of the one gives the
other, as long as no title closes its header early and nothing else that is shown opens a comment. The
headers are then the only comments: no two pieces that stand side by side make a comment together.
-/

set_option autoImplicit false

namespace NestedStyles

open Text

namespace Raw

/-- Whether the title of an element closes no comment and what else its rule shows opens none. -/
structure Erasable [Romanization] (settings : Settings) (number : Int)
    (subject : Subject) : Prop where
  title : Unclosed (Selector.title subject)
  selector : ∀ selector,
    Selector.ofSubject settings number subject = .ok selector → Uncommented selector
  classes : ∀ classes, subject.classes = some classes → Uncommented classes
  inlineStyle : ∀ style, subject.inlineStyle = some style → Uncommented style

/-- Of the selectors it is enough to look at the one that the element gets. -/
theorem Erasable.of_selected [Romanization] {settings : Settings} {number : Int} {subject : Subject}
    (title : Unclosed (Selector.title subject)) (selector : Text)
    (selected : Selector.ofSubject settings number subject = .ok selector)
    (free : Uncommented selector) (classes : ∀ classes ∈ subject.classes, Uncommented classes)
    (inlineStyle : ∀ style ∈ subject.inlineStyle, Uncommented style) :
    Erasable settings number subject := by
  refine ⟨title, ?_, classes, inlineStyle⟩
  intro other same
  rw [selected] at same
  cases same
  exact free

/-- That removing comments from a text leaves another one, and leaves something of a text that is not
empty. -/
structure Leaves (text kept : Text) : Prop where
  erases : Erases text kept
  filled : text ≠ [] → kept ≠ []

theorem Leaves.self {text : Text} (erases : Erases text text) : Leaves text text :=
  ⟨erases, id⟩

theorem Leaves.append {front frontKept back backKept : Text} (first : Leaves front frontKept)
    (second : Leaves back backKept) : Leaves (front ++ back) (frontKept ++ backKept) := by
  refine ⟨first.erases.append second.erases, ?_⟩
  intro filled
  by_cases empty : front = []
  · rw [empty, List.nil_append] at filled
    exact List.append_ne_nil_of_right_ne_nil _ (second.filled filled)
  · exact List.append_ne_nil_of_left_ne_nil (first.filled empty) _

theorem Leaves.eq_nil {kept : Text} (leaves : Leaves [] kept) : kept = [] := by
  rw [← leaves.erases.withoutComments_eq, withoutComments_nil]

/-- Two results that are the same fault, or texts of which the first leaves the second. -/
inductive BothLeave : Except NamingFault Text → Except NamingFault Text → Prop
  | fault (fault : NamingFault) : BothLeave (.error fault) (.error fault)
  | ok {text kept : Text} (leaves : Leaves text kept) : BothLeave (.ok text) (.ok kept)

namespace BothLeave

theorem bind {shown hidden : Except NamingFault Text}
    {next nextHidden : Text → Except NamingFault Text} (both : BothLeave shown hidden)
    (follows : ∀ text kept, Leaves text kept → BothLeave (next text) (nextHidden kept)) :
    BothLeave (shown.bind next) (hidden.bind nextHidden) := by
  cases both with
  | fault fault => exact .fault fault
  | ok leaves => exact follows _ _ leaves

theorem map_append {shown hidden : Except NamingFault Text} {front kept : Text}
    (leaves : Leaves front kept) (both : BothLeave shown hidden) :
    BothLeave (shown.map (front ++ ·)) (hidden.map (kept ++ ·)) := by
  cases both with
  | fault fault => exact .fault fault
  | ok others => exact .ok (leaves.append others)

theorem map_eq {shown hidden : Except NamingFault Text} (both : BothLeave shown hidden) :
    shown.map withoutComments = hidden := by
  cases both with
  | fault fault => rfl
  | ok leaves => rw [Except.map, leaves.erases.withoutComments_eq]

end BothLeave

/-- What stands between the marks of a header. -/
def headerInner (subject : Subject) : Text :=
  ' ' :: (Selector.title subject ++ (" -> ".toList ++ (ofInt subject.depth ++ [' '])))

theorem header_eq_comment (subject : Subject) :
    Selector.header subject = opening ++ headerInner subject ++ closing := by
  rw [Selector.header_eq, headerInner]
  simp [opening, closing]

/-- Only its title can close a header early. -/
theorem unclosed_headerInner_iff (subject : Subject) :
    Unclosed (headerInner subject) ↔ Unclosed (Selector.title subject) := by
  constructor
  · intro unclosed
    refine unclosed.of_infix ?_
    rw [headerInner, ← List.singleton_append, ← List.append_assoc]
    exact ⟨_, _, rfl⟩
  · intro unclosed
    have number : '/' ∉ ofInt subject.depth := not_mem_ofInt (by decide) (by decide) _
    refine Unclosed.cons (unclosed.append_of_not_mem ?_) (by decide)
    simp [number]

theorem erases_header {subject : Subject} (unclosed : Unclosed (Selector.title subject)) :
    Erases (Selector.header subject) [] := by
  rw [header_eq_comment]
  exact erases_comment ((unclosed_headerInner_iff subject).mpr unclosed)

theorem erases_apply {classes : Text} (free : Uncommented classes) :
    Erases (apply classes) (apply classes) := by
  have keyword : Erases "@apply ".toList "@apply ".toList := erases_of_not_mem (by decide)
  have ended : Erases (classes ++ [';']) (classes ++ [';']) :=
    free.erases_concat (by decide) (by decide)
  unfold apply
  rw [List.append_assoc]
  exact keyword.append ended

theorem erases_inlineStyle {style : Text} (free : Uncommented style) :
    Erases (inlineStyle style) (inlineStyle style) := by
  have newline : Erases ['\n'] ['\n'] := erases_of_not_mem (by decide)
  have line : Erases (withEnding [';'] style ++ ['\n']) (withEnding [';'] style ++ ['\n']) := by
    rw [withEnding]
    split
    · exact free.erases_concat (by decide) (by decide)
    · exact (free.erases_concat (by decide) (by decide)).append newline
  rw [inlineStyle, List.cons_append]
  exact newline.append line

theorem erases_part {write : Text → Text} {value : Option Text}
    (erases : ∀ found, value = some found → Erases (write found) (write found)) :
    Erases (part write value) (part write value) := by
  rcases value with _ | _ | ⟨c, rest⟩
  · exact .nil
  · exact .nil
  · exact erases _ rfl

theorem Erasable.declarations [Romanization] {settings : Settings} {number : Int} {subject : Subject}
    (erasable : Erasable settings number subject) :
    Leaves (declarations subject) (declarations subject) := by
  rw [Raw.declarations]
  cases styled : subject.styling with
  | none => exact .self .nil
  | some styling =>
      have classes : ∀ found, styling.classes = some found → Erases (apply found) (apply found) := by
        intro found given
        exact erases_apply (erasable.classes found (by rw [Subject.classes, styled]; exact given))
      have style : ∀ found, styling.inlineStyle = some found →
          Erases (Raw.inlineStyle found) (Raw.inlineStyle found) := by
        intro found given
        exact erases_inlineStyle
          (erasable.inlineStyle found (by rw [Subject.inlineStyle, styled]; exact given))
      exact .self ((erases_part classes).append (erases_part style))

theorem leaves_rule {header selector body kept : Text} (erases : Erases header [])
    (free : Uncommented selector) (leaves : Leaves body kept) :
    Leaves (rule (header ++ selector) body) (rule selector kept) := by
  have pieces (heading body : Text) : rule heading body = (heading ++ ['{']) ++ (body ++ ['}']) := by
    simp [rule]
  have brace : Erases ['}'] ['}'] := erases_of_not_mem (by decide)
  refine ⟨?_, fun _ => by simp [rule]⟩
  rw [pieces, pieces, List.append_assoc header]
  have heading := erases.append (free.erases_concat (c := '{') (by decide) (by decide))
  exact heading.append (leaves.erases.append brace)

section Headers

variable {settings : Settings} {shown hidden : Value}

/-- The rule of an element with its header leaves the rule without it. -/
theorem Erasable.rule [Romanization] (on : shown.isOn = true) (off : hidden.isOn = false)
    {number : Int} {subject : Subject} (erasable : Erasable settings number subject)
    {body kept : Text} (leaves : Leaves body kept) :
    BothLeave
      (ruleUnlessEmpty (Selector.headed { settings with printComments := shown } number subject) body)
      (ruleUnlessEmpty (Selector.headed { settings with printComments := hidden } number subject)
        kept) := by
  by_cases empty : body = []
  · subst empty
    rw [leaves.eq_nil]
    exact .ok (.self .nil)
  · rw [ruleUnlessEmpty_of_ne_nil _ empty, ruleUnlessEmpty_of_ne_nil _ (leaves.filled empty)]
    -- The selector is the same with and without headers.
    have same (value : Value) :
        Selector.ofSubject { settings with printComments := value } number subject =
          Selector.ofSubject settings number subject := rfl
    cases selected : Selector.ofSubject settings number subject with
    | error fault =>
        rw [Selector.headed, Selector.headed, same shown, same hidden, selected]
        exact .fault fault
    | ok selector =>
        rw [Selector.headed_of_ofSubject ((same shown).trans selected),
          Selector.headed_of_ofSubject ((same hidden).trans selected), Selector.headerOf,
          Selector.headerOf, if_pos on, if_neg (by simp [off])]
        exact .ok (leaves_rule (erases_header erasable.title) (erasable.selector selector selected)
          leaves)

/-- The siblings that an element stands with leave what they leave one by one. -/
theorem leave_siblings_element [Romanization] (on : shown.isOn = true) (off : hidden.isOn = false)
    {number : Int} {regions : Nat} {subject : Subject} {children : Option (List Entry)}
    {rest : List Entry}
    (erasable : Erasable settings (nextNumber number children) subject)
    (below : BothLeave
      (siblings { settings with printComments := shown } (nextNumber number children) 0
        (children.getD []))
      (siblings { settings with printComments := hidden } (nextNumber number children) 0
        (children.getD [])))
    (others : BothLeave
      (siblings { settings with printComments := shown } (nextNumber number children) regions rest)
      (siblings { settings with printComments := hidden } (nextNumber number children) regions
        rest)) :
    BothLeave
      (siblings { settings with printComments := shown } number regions
        (.element subject children :: rest))
      (siblings { settings with printComments := hidden } number regions
        (.element subject children :: rest)) := by
  rw [siblings_element, siblings_element]
  refine below.bind fun inside insideKept insideLeaves => ?_
  have body := erasable.declarations.append insideLeaves
  refine (erasable.rule on off body).bind fun own ownKept ownLeaves => ?_
  exact others.map_append ownLeaves

theorem leave_siblings [Romanization] (on : shown.isOn = true) (off : hidden.isOn = false)
    {depth : Int} {entries : List Entry} (normal : Outline.Normal depth entries) :
    ∀ number regions, ForEach (Erasable settings) number entries →
      BothLeave (siblings { settings with printComments := shown } number regions entries)
        (siblings { settings with printComments := hidden } number regions entries) := by
  have nothing (number : Int) (regions : Nat) :
      BothLeave (siblings { settings with printComments := shown } number regions [])
        (siblings { settings with printComments := hidden } number regions []) := by
    rw [siblings_nil, siblings_nil]
    exact .ok (.self .nil)
  induction normal with
  | nil depth => exact fun number regions _ => nothing number regions
  | leaf level styled cleaned others ih =>
      intro number regions erasable
      obtain ⟨own, -, behind⟩ := (forEach_cons _ _ _ _ _).mp erasable
      exact leave_siblings_element on off own (nothing _ 0) (ih _ regions behind)
  | branch level cleaned below others ihBelow ihOthers =>
      intro number regions erasable
      obtain ⟨own, inside, behind⟩ := (forEach_cons _ _ _ _ _).mp erasable
      exact leave_siblings_element on off own (ihBelow _ 0 inside) (ihOthers _ regions behind)

end Headers

theorem erases_region {content : Text} (free : Uncommented content) (number : Int) :
    Erases (region { content } number) (region { content } number) := by
  have marks : Erases "// #region ".toList "// #region ".toList :=
    Uncommented.erases (by decide) (by decide)
  have label : Erases "STYLE".toList "STYLE".toList := erases_of_not_mem (by decide)
  have mark : Erases " #".toList " #".toList := erases_of_not_mem (by decide)
  have digits : Erases (ofInt number) (ofInt number) :=
    erases_of_not_mem (not_mem_ofInt (by decide) (by decide) number)
  have breaks : Erases "\n\n".toList "\n\n".toList := erases_of_not_mem (by decide)
  have ends : Erases "// #endregion\n\n".toList "// #endregion\n\n".toList :=
    Uncommented.erases (by decide) (by decide)
  have inside : Erases (content ++ ['\n']) (content ++ ['\n']) :=
    free.erases_concat (by decide) (by decide)
  rw [region_eq]
  exact marks.append (label.append (mark.append (digits.append (breaks.append (inside.append ends)))))

theorem erases_regionsFrom {contents : List Text} (free : ∀ content ∈ contents, Uncommented content) :
    ∀ number, Erases (regionsFrom number (contents.map fun content => { content }))
      (regionsFrom number (contents.map fun content => { content })) := by
  induction contents with
  | nil => exact fun _ => .nil
  | cons content rest ih =>
      intro number
      rw [List.forall_mem_cons] at free
      rw [List.map_cons, regionsFrom_cons]
      exact (erases_region free.1 number).append (ih free.2 (number + 1))

/-- Removing the comments of a stylesheet with headers gives the one without, if no title closes its
header and nothing else that is shown opens a comment. Under settings of the expected types there are
such stylesheets. -/
theorem withoutComments_ofOutline [Romanization] {settings : Settings} {shown hidden : Value}
    (on : shown.isOn = true) (off : hidden.isOn = false) {number depth : Int} {forest : List Node}
    (contents : ∀ content ∈ Node.gather Node.styleContent? forest, Uncommented content)
    (elements : ForEach (Erasable settings) number (Outline.kept (Outline.ofForest depth forest))) :
    (ofOutline { settings with printComments := shown } number
        (Outline.ofForest depth forest)).map withoutComments =
      ofOutline { settings with printComments := hidden } number (Outline.ofForest depth forest) ∧
    (({ settings with printComments := hidden } : Settings).WellTyped → ∃ text,
      ofOutline { settings with printComments := hidden } number (Outline.ofForest depth forest) =
        .ok text) := by
  constructor
  · have regions : Leaves (regionsFrom 1 (Outline.level depth forest).blocks)
        (regionsFrom 1 (Outline.level depth forest).blocks) := by
      rw [Outline.blocks_level]
      exact .self (erases_regionsFrom contents 1)
    rw [Outline.kept_ofForest] at elements
    have rules := leave_siblings on off (Outline.normal_level depth forest) number 0 elements
    apply BothLeave.map_eq
    rw [ofOutline_eq_map, ofOutline_eq_map, Outline.kept_ofForest]
    exact rules.map_append regions
  · intro typed
    obtain ⟨text, made, -⟩ := exists_written_ofForest typed number depth forest
    exact ⟨_, made⟩

theorem withoutComments_card :
    ∃ text, ofOutline { printComments := .bool false } 0 (Outline.ofForest 1 card) = .ok text ∧
      (ofOutline { printComments := .bool true } 0 (Outline.ofForest 1 card)).map withoutComments =
        .ok text := by
  have shows : Shows {} Uncommented 0 (Outline.ofForest 1 card) :=
    shows_card (by decide) (by decide) (by decide) (by decide) (by decide) (by decide)
  have leaf : Erasable {} 1
      ⟨"p".toList, [], 2, some ⟨some "mt-2".toList, some "top: 0".toList⟩⟩ := by
    refine .of_selected (by decide) "p".toList (by cbv) (by decide) ?_ ?_
    · intro classes given
      cases given
      decide
    · intro style given
      cases given
      decide
  have top : Erasable {} 1
      ⟨"div".toList, "Card".toList, 1, some ⟨some "p-4 flex".toList, none⟩⟩ := by
    refine .of_selected (by decide) ".class-div-1".toList (by cbv) (by decide) ?_ ?_
    · intro classes given
      cases given
      decide
    · intro style given
      cases given
  have elements : ForEach (Erasable {}) 0 (Outline.kept (Outline.ofForest 1 card)) := by
    rw [ofForest_card]
    refine (forEach_cons _ _ _ _ _).mpr ⟨top, ?_, forEach_nil _ _⟩
    exact (forEach_cons _ _ _ _ _).mpr ⟨leaf, forEach_nil _ _, forEach_nil _ _⟩
  have typed : ({ printComments := .bool false } : Settings).WellTyped :=
    { Settings.wellTyped_default with printComments := rfl }
  obtain ⟨same, writes⟩ :=
    @withoutComments_ofOutline _ {} (.bool true) (.bool false) rfl rfl 0 1 card shows.content elements
  obtain ⟨text, made⟩ := writes typed
  exact ⟨text, made, same.trans made⟩

end Raw

end NestedStyles
