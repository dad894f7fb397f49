import NestedStyles.Proofs.Outline.NormalForm
import NestedStyles.Proofs.Stylesheet.Heading
import NestedStyles.Proofs.Stylesheet.Numbering
import NestedStyles.Proofs.Stylesheet.Regions
import NestedStyles.Proofs.Stylesheet.Siblings
import NestedStyles.Proofs.Text.Cleaning

/-!
How the stylesheet of elements in normal form is written: one rule for each element, its declarations
in front of the rules below it. `exists_written` says that there is such a stylesheet and that it is
the one that is made; whatever holds of all stylesheets is shown by induction over how one is
written.
-/

set_option autoImplicit false

namespace NestedStyles

namespace Raw

/-- The rules of elements on a level of the given depth whose fallback names count from a number. No
element is skipped. -/
inductive Written [Romanization] (settings : Settings) : Int → Int → List Entry → Text → Prop
  | nil (depth number : Int) : Written settings depth number [] []
  | element {depth number : Int} {subject : Subject} {children : Option (List Entry)}
      {rest : List Entry} {selector below others : Text}
      (level : subject.depth = depth)
      (declared : declarations subject =
        subject.classes.elim [] apply ++ subject.inlineStyle.elim [] inlineStyle)
      (selected : Selector.ofSubject settings (nextNumber number children) subject = .ok selector)
      (nested : Written settings (depth + 1) (nextNumber number children) (children.getD []) below)
      (following : Written settings depth (nextNumber number children) rest others) :
      Written settings depth number (.element subject children :: rest)
        (rule (Selector.headerOf settings subject ++ selector) (declarations subject ++ below) ++
          others)

theorem part_of_clean? {write : Text → Text} {value : Option Text}
    (cleaned : ∀ found, value = some found → ∃ text, Text.clean? text = some found) :
    part write value = value.elim [] write := by
  cases value with
  | none => rfl
  | some found =>
      obtain ⟨text, cleans⟩ := cleaned found rfl
      obtain ⟨c, rest, rfl⟩ := List.exists_cons_of_ne_nil (Text.ne_nil_of_clean? cleans)
      rfl

theorem declarations_of_cleaned {subject : Subject}
    (cleaned : ∀ styling, subject.styling = some styling → styling.Cleaned) :
    declarations subject =
      subject.classes.elim [] apply ++ subject.inlineStyle.elim [] inlineStyle := by
  rw [declarations, Subject.classes, Subject.inlineStyle]
  cases given : subject.styling with
  | none => rfl
  | some styling =>
      have clean := cleaned styling given
      rw [Option.bind_some, Option.bind_some, ← part_of_clean? clean.classes,
        ← part_of_clean? clean.inlineStyle]

/-- An element with styling of its own has declarations. -/
theorem declarations_ne_nil {subject : Subject} (styled : subject.styling ≠ none)
    (cleaned : ∀ styling, subject.styling = some styling → styling.Cleaned) :
    declarations subject ≠ [] := by
  obtain ⟨styling, given⟩ := Option.ne_none_iff_exists'.mp styled
  rw [declarations_of_cleaned cleaned, Subject.classes, Subject.inlineStyle, given,
    Option.bind_some, Option.bind_some, ne_eq, List.append_eq_nil_iff, not_and_or]
  rcases (cleaned styling given).filled with filled | filled
  · obtain ⟨classes, value⟩ := Option.ne_none_iff_exists'.mp filled
    rw [value]
    exact Or.inl (List.cons_ne_nil _ _)
  · obtain ⟨style, value⟩ := Option.ne_none_iff_exists'.mp filled
    rw [value]
    exact Or.inr (List.cons_ne_nil _ _)

theorem rule_ne_nil (heading body : Text) : rule heading body ≠ [] := by
  simp [rule]

theorem Written.ne_nil [Romanization] {settings : Settings} {depth number : Int} {entry : Entry}
    {rest : List Entry} {text : Text}
    (written : Written settings depth number (entry :: rest) text) : text ≠ [] := by
  cases written with
  | element level declared selected nested following =>
      exact List.append_ne_nil_of_left_ne_nil (rule_ne_nil _ _) _

/-- Under settings of the expected types elements in normal form get a stylesheet without gaps. -/
theorem exists_written [Romanization] {settings : Settings} (typed : settings.WellTyped) {depth : Int}
    {entries : List Entry} (normal : Outline.Normal depth entries) :
    ∀ number regions, ∃ text, siblings settings number regions entries = .ok text ∧
      Written settings depth number entries text := by
  induction normal with
  | nil depth =>
      intro number regions
      exact ⟨[], siblings_nil settings number regions, Written.nil depth number⟩
  | @leaf depth subject rest level styled cleaned others ih =>
      intro number regions
      obtain ⟨text, made, written⟩ := ih number regions
      obtain ⟨selector, selected⟩ := Selector.exists_ofSubject typed number subject
      have filled : declarations subject ++ [] ≠ [] :=
        List.append_ne_nil_of_left_ne_nil (declarations_ne_nil styled cleaned) _
      exact ⟨_, siblings_element_of_ne_nil settings number regions (siblings_nil settings number 0)
        filled selected made, Written.element level (declarations_of_cleaned cleaned) selected
        (Written.nil _ _) written⟩
  | @branch depth subject child more rest level cleaned below others ihBelow ihOthers =>
      intro number regions
      obtain ⟨inside, madeInside, writtenInside⟩ :=
        ihBelow (nextNumber number (some (child :: more))) 0
      obtain ⟨text, made, written⟩ := ihOthers (nextNumber number (some (child :: more))) regions
      obtain ⟨selector, selected⟩ :=
        Selector.exists_ofSubject typed (nextNumber number (some (child :: more))) subject
      have filled : declarations subject ++ inside ≠ [] :=
        List.append_ne_nil_of_right_ne_nil _ writtenInside.ne_nil
      exact ⟨_, siblings_element_of_ne_nil settings number regions madeInside filled selected made,
        Written.element level (declarations_of_cleaned cleaned) selected writtenInside written⟩

/-- What a stylesheet of a forest consists of under settings of the expected types. -/
theorem exists_written_ofForest [Romanization] {settings : Settings} (typed : settings.WellTyped)
    (number depth : Int) (forest : List Node) :
    ∃ text, ofOutline settings number (Outline.ofForest depth forest) =
        .ok (regionsFrom 1 (Outline.level depth forest).blocks ++ text) ∧
      Written settings depth number (Outline.level depth forest).elements text := by
  obtain ⟨text, made, written⟩ :=
    exists_written typed (Outline.normal_level depth forest) number 0
  have alone : ofOutline settings number (Outline.level depth forest).elements = .ok text := made
  refine ⟨text, ?_, written⟩
  rw [ofOutline_eq_map, Outline.kept_ofForest, alone]
  rfl

/-- The stylesheet of elements ends with a brace. -/
theorem Written.getLast?_eq [Romanization] {settings : Settings} {depth number : Int}
    {entries : List Entry} {text : Text} (written : Written settings depth number entries text) :
    text = [] ∨ text.getLast? = some '}' := by
  induction written with
  | nil => exact Or.inl rfl
  | @element depth number subject children rest selector below others level declared selected nested
      following ihNested ihFollowing =>
      right
      rcases ihFollowing with rfl | last
      · rw [List.append_nil, rule, ← List.cons_append, ← List.append_assoc, List.getLast?_concat]
      · have nonempty : others ≠ [] := by
          rintro rfl
          cases last
        rw [List.getLast?_append_of_ne_nil _ nonempty, last]

/-- A stylesheet ends with a brace or a line break. -/
theorem getLast?_ofForest [Romanization] {settings : Settings} (typed : settings.WellTyped)
    {number depth : Int} {forest : List Node} {raw : Text}
    (made : ofOutline settings number (Outline.ofForest depth forest) = .ok raw) {c : Char}
    (last : raw.getLast? = some c) : c = '}' ∨ c = '\n' := by
  obtain ⟨text, same, written⟩ := exists_written_ofForest typed number depth forest
  rw [made] at same
  obtain rfl := Except.ok.inj same
  rcases written.getLast?_eq with rfl | ends
  · rw [List.append_nil] at last
    rcases getLast?_regionsFrom_eq (Outline.level depth forest).blocks 1 with empty | ends
    · rw [empty] at last
      cases last
    · rw [ends] at last
      exact Or.inr (Option.some.inj last).symm
  · have nonempty : text ≠ [] := by
      rintro rfl
      cases ends
    rw [List.getLast?_append_of_ne_nil _ nonempty, ends] at last
    exact Or.inl (Option.some.inj last).symm

end Raw

end NestedStyles
