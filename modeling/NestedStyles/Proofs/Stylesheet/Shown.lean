import NestedStyles.Proofs.Text.Weaving
import NestedStyles.Stylesheet.Layout

/-!
The text that a page shows, without indentation, and how it changes: writing adds an item, and all
else changes blanks at the end alone or adds a line break next to another.
-/

set_option autoImplicit false

namespace NestedStyles

open Text

def Line.content (line : Line) : Text :=
  line.items.reverse.flatten

namespace Page

/-- The text of lines with their breaks, nearest first. -/
def textAbove : List Line → Text
  | [] => []
  | line :: above => textAbove above ++ line.content ++ ['\n']

/-- The text of a page. -/
def plain (page : Page) : Text :=
  textAbove page.above ++ page.line.content

theorem blank_break : Blank ['\n'] := by
  intro c member
  rw [List.mem_singleton.mp member]
  decide

theorem blank_space : Blank [' '] := by
  intro c member
  rw [List.mem_singleton.mp member]
  decide

theorem content_of_isEmpty {line : Line} (empty : line.isEmpty = true) : line.content = [] := by
  rw [Line.isEmpty, List.isEmpty_iff] at empty
  rw [Line.content, empty]
  rfl

theorem plain_breakLine (page : Page) : page.breakLine.plain = page.plain ++ ['\n'] := by
  simp [plain, breakLine, textAbove, Line.content]

/-- A new line has a break in front of it. -/
theorem gapped_plain_of_isEmpty {page : Page} (empty : page.line.isEmpty = true) :
    Gapped page.plain := by
  rw [plain, content_of_isEmpty empty, List.append_nil]
  cases page.above with
  | nil =>
      intro c last
      cases last
  | cons line above => exact Weave.gapped_append blank_break (by simp) _

theorem plain_write (level : Nat) (spaced : Bool) (item : Text) (page : Page) :
    (page.write level spaced item).plain =
      page.plain ++ (if spaced && !page.line.isEmpty then [' '] else []) ++ item := by
  rw [write]
  cases empty : page.line.isEmpty with
  | true =>
      have none : page.line.items = [] := List.isEmpty_iff.mp empty
      simp [plain, Line.content, none]
  | false =>
      cases spaced <;> simp [plain, Line.content]

theorem exists_content_trim (line : Line) :
    ∃ gap, Blank gap ∧ line.content = line.trim.content ++ gap := by
  refine ⟨(line.items.takeWhile (· == [' '])).reverse.flatten, ?_, ?_⟩
  · intro c member
    obtain ⟨item, among, inside⟩ := List.mem_flatten.mp member
    have spaces := List.mem_takeWhile_imp (List.mem_reverse.mp among)
    rw [beq_iff_eq.mp spaces] at inside
    exact blank_space c inside
  · rw [Line.content, Line.content, Line.trim, ← List.flatten_append, ← List.reverse_append,
      List.takeWhile_append_dropWhile]

/-- Trimming takes away blanks at the end. -/
theorem bare_trimLines (above : List Line) :
    ∀ line, bare (textAbove (trimLines line above).2 ++ (trimLines line above).1.content) =
      bare (textAbove above ++ line.content) := by
  induction above with
  | nil =>
      intro line
      obtain ⟨gap, blank, same⟩ := exists_content_trim line
      rw [trimLines, same, ← List.append_assoc, bare_append blank]
  | cons next above ih =>
      intro line
      obtain ⟨gap, blank, same⟩ := exists_content_trim line
      rw [trimLines]
      split
      · rename_i empty
        rw [ih next, same, content_of_isEmpty empty, List.nil_append, textAbove, bare_append blank,
          bare_append blank_break]
      · rw [same, ← List.append_assoc, bare_append blank]

theorem bare_plain_trim (page : Page) : bare page.trim.plain = bare page.plain :=
  bare_trimLines page.above page.line

/-- An empty line is added next to a line break. -/
theorem textAbove_separate (above : List Line) :
    textAbove (separate above) = textAbove above ∨
      ∃ front back, textAbove above = front ++ '\n' :: back ∧
        textAbove (separate above) = front ++ '\n' :: (['\n'] ++ back) := by
  induction above with
  | nil => exact Or.inl rfl
  | cons line above ih =>
      rw [separate]
      split
      · exact Or.inl rfl
      split
      · refine Or.inr ⟨textAbove above ++ line.content, [], rfl, ?_⟩
        simp [textAbove, Line.content]
      · rcases ih with same | ⟨front, back, split, widened⟩
        · rw [textAbove, textAbove, same]
          exact Or.inl rfl
        · refine Or.inr ⟨front, back ++ line.content ++ ['\n'], ?_, ?_⟩
          · rw [textAbove, split]
            simp
          · rw [textAbove, widened]
            simp

end Page

namespace Layout

/-- The text that has been written, with the space that is asked for. -/
def shown (l : Layout) : Text :=
  l.page.plain ++ if l.spaced && !l.page.line.isEmpty then [' '] else []

theorem shown_write (item : Text) (l : Layout) : (l.write item).shown = l.shown ++ item := by
  rw [shown, write, Page.plain_write, shown]
  simp

theorem bare_shown (l : Layout) : bare l.shown = bare l.page.plain := by
  rw [shown]
  split
  · exact bare_append Page.blank_space _
  · rw [List.append_nil]

theorem gapped_shown_of_isEmpty {l : Layout} (empty : l.page.line.isEmpty = true) :
    Gapped l.shown := by
  rw [shown, empty, Bool.not_true, Bool.and_false, if_neg Bool.false_ne_true, List.append_nil]
  exact Page.gapped_plain_of_isEmpty empty

theorem gapped_shown_of_spaced {l : Layout} (spaced : l.spaced = true) : Gapped l.shown := by
  cases empty : l.page.line.isEmpty with
  | true => exact gapped_shown_of_isEmpty empty
  | false =>
      rw [shown, spaced, empty]
      exact Weave.gapped_append Page.blank_space (by simp) _

/-- That blanks at the end of what is written have changed, and those there were are not lost. -/
structure Grown (before after : Layout) : Prop where
  same : bare after.shown = bare before.shown
  gapped : Gapped before.shown → Gapped after.shown

theorem Grown.refl (l : Layout) : Grown l l :=
  ⟨rfl, id⟩

theorem Grown.trans {a b c : Layout} (first : Grown a b) (second : Grown b c) : Grown a c :=
  ⟨second.same.trans first.same, second.gapped ∘ first.gapped⟩

theorem grown_space (l : Layout) : Grown l l.space := by
  refine ⟨?_, fun _ => gapped_shown_of_spaced rfl⟩
  rw [bare_shown, bare_shown, space]

theorem gapped_space (l : Layout) : Gapped l.space.shown :=
  gapped_shown_of_spaced rfl

theorem grown_breakLine (l : Layout) : Grown l { l with page := l.page.breakLine } := by
  refine ⟨?_, fun _ => gapped_shown_of_isEmpty rfl⟩
  rw [bare_shown, bare_shown, Page.plain_breakLine, bare_append Page.blank_break]

theorem grown_newline (l : Layout) : Grown l l.newline := by
  rw [newline, Page.newline]
  split
  · exact .refl l
  · exact grown_breakLine l

theorem gapped_newline (l : Layout) : Gapped l.newline.shown := by
  rw [newline, Page.newline]
  split
  · rename_i empty
    exact gapped_shown_of_isEmpty empty
  · exact gapped_shown_of_isEmpty rfl

theorem grown_newlineAlways (l : Layout) : Grown l l.newlineAlways := by
  rw [newlineAlways, Page.newlineAlways]
  split
  · exact .refl l
  · exact grown_breakLine l

theorem gapped_newlineAlways (l : Layout) : Gapped l.newlineAlways.shown := by
  rw [newlineAlways, Page.newlineAlways]
  split
  · rename_i empty
    rw [Page.isEmpty, Bool.and_eq_true] at empty
    exact gapped_shown_of_isEmpty empty.2
  · exact gapped_shown_of_isEmpty rfl

theorem grown_newlines (count : Nat) :
    ∀ l : Layout, Grown l { l with page := l.page.newlines count } := by
  induction count with
  | zero => exact .refl
  | succ count ih => exact fun l => (grown_newlineAlways l).trans (ih l.newlineAlways)

theorem gapped_newlines {count : Nat} (some : count ≠ 0) (l : Layout) :
    Gapped ({ l with page := l.page.newlines count } : Layout).shown := by
  cases count with
  | zero => exact absurd rfl some
  | succ count => exact (grown_newlines count l.newlineAlways).gapped (gapped_newlineAlways l)

/-- Setting off the line being written adds a break next to another. -/
theorem shown_separateLine (l : Layout) :
    ({ l with page := l.page.separateLine } : Layout).shown = l.shown ∨
      ∃ front back, l.shown = front ++ '\n' :: back ∧
        ({ l with page := l.page.separateLine } : Layout).shown =
          front ++ '\n' :: (['\n'] ++ back) := by
  rcases Page.textAbove_separate l.page.above with same | ⟨front, back, split, widened⟩
  · left
    simp only [shown, Page.plain, Page.separateLine, same]
    rfl
  · refine Or.inr ⟨front,
      back ++ (l.page.line.content ++ if l.spaced && !l.page.line.isEmpty then [' '] else []), ?_, ?_⟩
    · simp only [shown, Page.plain, split, List.append_assoc, List.cons_append]
    · simp only [shown, Page.plain, Page.separateLine, widened, List.append_assoc, List.cons_append,
        List.nil_append]
      rfl

theorem bare_shown_trim (l : Layout) : bare l.trim.shown = bare l.shown := by
  rw [bare_shown, bare_shown]
  exact Page.bare_plain_trim l.page

end Layout

end NestedStyles
