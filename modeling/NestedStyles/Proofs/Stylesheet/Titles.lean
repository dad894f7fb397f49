import NestedStyles.Proofs.Outline.StyledPart
import NestedStyles.Proofs.Stylesheet.Headers
import NestedStyles.Proofs.Text.Words

/-!
When a header is one comment. Cleaning and joining never bring the halves of a closing mark together and
never part them, so a header is closed early exactly by a closing mark in one of the comments that give
its label, or in the tag that stands for a label.
-/

set_option autoImplicit false

namespace NestedStyles

namespace Text

section Clean

/-- A cleaned text closes a comment exactly if the text itself does. -/
theorem unclosed_clean?_iff (text : Text) :
    (∀ cleaned, clean? text = some cleaned → Unclosed cleaned) ↔ Unclosed text := by
  have solid : Solid closing := by
    simp [Solid, closing, isBlank]
  have filled : closing ≠ [] := by decide
  cases result : clean? text with
  | none =>
      have blank := (words_eq_nil_iff text).mpr ((clean?_eq_none_iff text).mp result)
      refine iff_of_true (fun cleaned given => by cases given) ?_
      rw [Unclosed, infix_iff_exists_mem_words solid filled, blank]
      simp
  | some cleaned =>
      rw [Unclosed, ← infix_clean?_iff solid filled result]
      simp [Unclosed]

theorem unclosed_join_iff (parts : List Text) :
    Unclosed (join ", ".toList parts) ↔ ∀ part ∈ parts, Unclosed part := by
  induction parts with
  | nil => simp [Unclosed, closing]
  | cons part rest ih =>
      cases rest with
      | nil => simp
      | cons next rest =>
          rw [join_cons_cons, List.forall_mem_cons, ← ih]
          constructor
          · intro unclosed
            rw [List.append_assoc] at unclosed
            exact ⟨unclosed.of_infix (List.prefix_append part _).isInfix,
              unclosed.of_infix ((List.suffix_append _ _).trans (List.suffix_append _ _)).isInfix⟩
          · rintro ⟨first, others⟩
            rw [List.append_assoc]
            exact first.append ((others.cons (by decide)).cons (by decide)) (by simp)

end Clean

end Text

open Text

namespace Outline

/-- A label closes a comment exactly if a comment that gives it does. -/
theorem unclosed_label_iff (before : List Node) :
    Unclosed (label before) ↔ ∀ content, Node.comment content ∈ before.take labelReach →
      Unclosed (withoutCommentMarks content) := by
  rw [label, unclosed_join_iff]
  simp only [List.mem_reverse, List.mem_filterMap]
  constructor
  · intro parts content member
    rw [← unclosed_clean?_iff]
    exact fun cleaned given => parts cleaned ⟨.comment content, member, given⟩
  · rintro comments part ⟨node, member, given⟩
    cases node with
    | comment content => exact (unclosed_clean?_iff _).mpr (comments content member) part given
    | text content => cases given
    | element tag attributes children => cases given

end Outline

namespace Selector

theorem unclosed_title_iff (subject : Subject) :
    Unclosed (title subject) ↔
      Unclosed subject.label ∧ (subject.label = [] → Unclosed subject.tag) := by
  rw [title]
  cases label : subject.label with
  | nil => simp [Unclosed, closing]
  | cons c rest => simp

/-- Only its title can keep a header from being one comment. -/
theorem isComment_header_iff (subject : Subject) :
    IsComment (header subject) ↔ Unclosed (title subject) := by
  rw [Raw.header_eq_comment, isComment_iff (by simp [Raw.headerInner]),
    Raw.unclosed_headerInner_iff]

end Selector

namespace Outline

/-- The header of a kept element is one comment exactly if the comments that label it, without the marks
of their own, close no comment of a stylesheet, and its tag does not where it has no label. -/
theorem isComment_header_ofForest {depth : Int} {forest : List Node} {target : Place}
    {subject : Subject} {below : Option (List Entry)}
    (stands : Place.at? Entry.children (kept (ofForest depth forest)) target =
      some (.element subject below)) :
    ∃ place attributes children, Node.InStyledPart forest place ∧ image forest place = target ∧
      Place.at? Node.children forest place = some (.element subject.tag attributes children) ∧
      (IsComment (Selector.header subject) ↔
        (∀ content, Node.comment content ∈ (neighbours forest place).take labelReach →
          Unclosed (withoutCommentMarks content)) ∧
        (subject.label = [] → Unclosed subject.tag)) := by
  obtain ⟨place, attributes, children, inside, imaged, placed, labelled⟩ := exists_origin stands
  refine ⟨place, attributes, children, inside, imaged, placed, ?_⟩
  rw [Selector.isComment_header_iff, Selector.unclosed_title_iff, labelled, unclosed_label_iff]

/-- A list behind a comment that closes one of a stylesheet. -/
def brokenOut : List Node :=
  [.comment " a */ b ".toList, .element "ul".toList [("class".toList, "x".toList)] []]

theorem isComment_header_brokenOut :
    ∃ subject below, Place.at? Entry.children (kept (ofForest 1 brokenOut)) [0] =
        some (.element subject below) ∧
      Selector.header subject = "/* a */ b -> 1 */".toList ∧
      ¬ IsComment (Selector.header subject) := by
  have stands : Place.at? Entry.children (kept (ofForest 1 brokenOut)) [0] =
      some (.element ⟨"ul".toList, "a */ b".toList, 1, some ⟨some "x".toList, none⟩⟩ none) := by
    cbv
  refine ⟨_, _, stands, by decide, ?_⟩
  obtain ⟨place, attributes, children, inside, imaged, placed, whole⟩ :=
    isComment_header_ofForest stands
  rw [whole]
  rintro ⟨comments, -⟩
  obtain ⟨index, rest, rfl⟩ := List.exists_cons_of_ne_nil inside.1
  rw [image, List.cons.injEq] at imaged
  obtain rfl := image_eq_nil_iff.mp imaged.2
  rw [Place.at?_singleton] at placed
  rcases index with _ | _ | index
  · cases placed
  · have unclosed := comments " a */ b ".toList List.mem_cons_self
    have same : withoutCommentMarks " a */ b ".toList = " a */ b ".toList := by cbv
    rw [same] at unclosed
    exact absurd unclosed (by decide)
  · cases placed

end Outline

end NestedStyles
