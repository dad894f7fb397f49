import NestedStyles.Proofs.Stylesheet.Shown

/-!
The text of a page. Its lines get blanks in front and lose blanks at the end, so the text is still woven
with what was read.
-/

set_option autoImplicit false

namespace NestedStyles

open Text Weave

/-- That lines are indented with blanks, and never to the left. -/
structure PageStyle.Proper (style : PageStyle) : Prop where
  size : 0 ≤ style.indentSize
  blank : Blank style.indentChar

theorem PageStyle.proper_default : PageStyle.Proper {} :=
  ⟨by decide, Page.blank_space⟩

namespace Page

theorem textAbove_eq (above : List Line) :
    textAbove above = above.reverse.flatMap fun line => line.content ++ ['\n'] := by
  induction above with
  | nil => rfl
  | cons line above ih =>
      rw [textAbove, ih, List.reverse_cons, List.flatMap_append, List.flatMap_singleton,
        List.append_assoc]

theorem join_map_append {α : Type} (write : α → Text) (rows : List α) (last : α) :
    Text.join ['\n'] ((rows ++ [last]).map write) =
      (rows.flatMap fun row => write row ++ ['\n']) ++ write last := by
  induction rows with
  | nil => rfl
  | cons row rows ih =>
      rw [List.flatMap_cons, List.append_assoc, ← ih]
      cases rows with
      | nil => rfl
      | cons next rows => rfl

/-- Blanks may be put in front of each line. -/
theorem rewoven_indented {x : Text} {margin : Line → Text} (blank : ∀ line, Blank (margin line))
    (last : Line) (rows : List Line) : ∀ front : Text, front = [] ∨ (∃ before, front = before ++ ['\n']) →
      Rewoven x (front ++ ((rows.flatMap fun line => line.content ++ ['\n']) ++ last.content)) →
        Rewoven x (front ++ ((rows.flatMap fun line => (margin line ++ line.content) ++ ['\n']) ++
          (margin last ++ last.content))) := by
  have indent (line : Line) {front back : Text} (fresh : front = [] ∨ ∃ before, front = before ++ ['\n'])
      (rewoven : Rewoven x (front ++ back)) : Rewoven x (front ++ (margin line ++ back)) := by
    rcases fresh with rfl | ⟨before, rfl⟩
    · have led : Rewoven x (margin line ++ back) := rewoven.lead (blank line)
      exact led
    · rw [List.append_assoc] at rewoven ⊢
      have inserted : Rewoven x (before ++ '\n' :: (margin line ++ back)) :=
        rewoven.insert (by decide) (blank line)
      exact inserted
  induction rows with
  | nil =>
      intro front fresh rewoven
      exact indent last fresh rewoven
  | cons row rows ih =>
      intro front fresh rewoven
      have indented := indent row fresh rewoven
      have next := ih (front ++ (margin row ++ row.content) ++ ['\n']) (Or.inr ⟨_, rfl⟩)
        (by simpa using indented)
      simpa using next

end Page

namespace PageStyle

/-- The blanks in front of a line. -/
def margin (style : PageStyle) (base : Text) (line : Line) : Text :=
  if line.isEmpty && !style.indentEmptyLines then []
  else match line.indent with
    | none => []
    | some level => base ++ (List.replicate (level * style.indentSize).toNat style.indentChar).flatten

theorem blank_margin {style : PageStyle} (proper : style.Proper) {base : Text} (blank : Blank base)
    (line : Line) : Blank (style.margin base line) := by
  rw [margin]
  split
  · exact blank_nil
  · split
    · exact blank_nil
    · refine blank.append fun c member => ?_
      obtain ⟨text, among, inside⟩ := List.mem_flatten.mp member
      rw [List.eq_of_mem_replicate among] at inside
      exact proper.blank c inside

theorem indentation_eq {style : PageStyle} (proper : style.Proper) (base : Text) (level : Nat) :
    style.indentation base (some level) =
      .ok (base ++ (List.replicate (level * style.indentSize).toNat style.indentChar).flatten) := by
  have right : ¬ level * style.indentSize < -1 := by
    have nonneg := Int.mul_nonneg (Int.natCast_nonneg level) proper.size
    omega
  rw [indentation]
  exact if_neg right

/-- A line is its margin and what is written on it. -/
theorem line_eq {style : PageStyle} (proper : style.Proper) (base : Text) (line : Line) :
    style.line base line = .ok (style.margin base line ++ line.content) := by
  have indented : style.indentation base line.indent = .ok (match line.indent with
      | none => []
      | some level =>
        base ++ (List.replicate (level * style.indentSize).toNat style.indentChar).flatten) := by
    cases line.indent with
    | none => rfl
    | some level => exact indentation_eq proper base level
  rw [PageStyle.line, margin]
  cases empty : line.isEmpty with
  | true =>
      rw [Page.content_of_isEmpty empty, List.append_nil]
      cases style.indentEmptyLines with
      | true => exact indented
      | false => rfl
  | false =>
      rw [indented]
      rfl

theorem exists_endedItems (items : List Text) :
    ∃ gap, Blank gap ∧ items.reverse.flatten = (endedItems items).reverse.flatten ++ gap := by
  rcases items with _ | ⟨_ | ⟨c, item⟩, items⟩
  · exact ⟨[], blank_nil, rfl⟩
  · exact ⟨[], blank_nil, by simp [endedItems]⟩
  · have split : c :: item = dropTrailing (· == '\n') (c :: item) ++
        ((c :: item).reverse.takeWhile (· == '\n')).reverse := by
      rw [dropTrailing, ← List.reverse_append, List.takeWhile_append_dropWhile, List.reverse_reverse]
    refine ⟨((c :: item).reverse.takeWhile (· == '\n')).reverse, ?_, ?_⟩
    · intro d member
      have break' := List.mem_takeWhile_imp (List.mem_reverse.mp member)
      rw [beq_iff_eq.mp break']
      decide
    · rw [endedItems, List.reverse_cons, List.reverse_cons, List.flatten_append,
        List.flatten_append, List.append_assoc, List.flatten_singleton, List.flatten_singleton,
        ← split]
      exact List.cons_ne_nil c item

/-- The ends of a page are blanks. -/
theorem bare_plain_ended (page : Page) : bare (ended page).plain = bare page.plain := by
  obtain ⟨gap, blank, same⟩ := exists_endedItems page.line.items
  have content : page.line.content = (ended page).line.content ++ gap := same
  rw [Page.plain, Page.plain, content, ← List.append_assoc, bare_append blank]
  rfl

/-- The text of a page is what has been written, with blanks in front of lines and at the end. -/
theorem exists_text {x : Text} {style : PageStyle} (proper : style.Proper) {base : Text}
    (blank : Blank base) {page : Page} (rewoven : Rewoven x page.plain) :
    ∃ out, style.text base page = .ok out ∧ Rewoven x out := by
  let done := if style.endWithNewline then (ended page.trim).breakLine else ended page.trim
  have same : bare done.plain = bare page.plain := by
    have trimmed : bare (ended page.trim).plain = bare page.plain := by
      rw [bare_plain_ended, Page.bare_plain_trim]
    show bare (if style.endWithNewline then _ else _ : Page).plain = _
    split
    · rw [Page.plain_breakLine, bare_append Page.blank_break, trimmed]
    · exact trimmed
  have lines : (done.line :: done.above).reverse.mapM (style.line base) =
      .ok ((done.above.reverse ++ [done.line]).map fun line =>
        style.margin base line ++ line.content) := by
    rw [funext (line_eq proper base), List.reverse_cons]
    exact List.mapM_pure
  have whole := rewoven.respace same
  rw [Page.plain, Page.textAbove_eq] at whole
  refine ⟨_, ?_, Page.rewoven_indented (blank_margin proper blank) done.line done.above.reverse []
    (Or.inl rfl) whole⟩
  rw [text]
  show (do
    let lines ← (done.line :: done.above).reverse.mapM (style.line base)
    return Text.join ['\n'] lines) = _
  rw [lines]
  exact congrArg Except.ok (Page.join_map_append _ _ _)

end PageStyle

end NestedStyles
