import Mathlib.Data.List.TakeDrop
import Mathlib.Data.List.TakeWhile
import NestedStyles.Stylesheet.Scan

/-!
Where the pieces of a stylesheet end. Each reader splits the text, and its piece ends in an end mark
unless the text ends first.
-/

set_option autoImplicit false

namespace NestedStyles

namespace Scan

theorem getLast?_ne_of_cons {c d : Char} {rest : Text} (closed : (c :: rest).getLast? ≠ some d) :
    rest.getLast? ≠ some d := by
  cases rest with
  | nil => simp
  | cons e more => rwa [List.getLast?_cons_cons] at closed

/-- A reader finds an end mark, the end of the line or the end of a text that no backslash ends. -/
theorem exists_through? (ends text : Text) (closed : text.getLast? ≠ some '\\') :
    ∃ piece rest, through? ends text = some (piece, rest) ∧ text = piece ++ rest ∧
      (rest = [] ∨ ∃ front d, piece = front ++ [d] ∧ (d ∈ ends ∨ d = '\n')) := by
  fun_induction through? ends text with
  | case1 => exact ⟨[], [], rfl, rfl, Or.inl rfl⟩
  | case2 => exact absurd rfl closed
  | case3 c rest ih =>
      obtain ⟨piece, rest, found, rfl, ended⟩ := ih (getLast?_ne_of_cons (getLast?_ne_of_cons closed))
      refine ⟨'\\' :: c :: piece, rest, by rw [found]; rfl, rfl, ?_⟩
      rcases ended with none | ⟨front, d, rfl, mark⟩
      · exact Or.inl none
      · exact Or.inr ⟨'\\' :: c :: front, d, rfl, mark⟩
  | case4 c rest _ _ mark =>
      refine ⟨[c], rest, rfl, rfl, Or.inr ⟨[], c, rfl, ?_⟩⟩
      simpa using mark
  | case5 c rest _ _ noMark ih =>
      obtain ⟨piece, rest, found, rfl, ended⟩ := ih (getLast?_ne_of_cons closed)
      refine ⟨c :: piece, rest, by rw [found]; rfl, rfl, ?_⟩
      rcases ended with none | ⟨front, d, rfl, mark⟩
      · exact Or.inl none
      · exact Or.inr ⟨c :: front, d, rfl, mark⟩

/-- A block comment ends with its closing mark, unless the text ends first. -/
theorem exists_blockComment (text : Text) : ∃ body rest, blockComment text = (body, rest) ∧
    text = body ++ rest ∧ (rest = [] ∨ ∃ front, body = front ++ ['*', '/']) := by
  fun_induction blockComment text with
  | case1 => exact ⟨[], [], rfl, rfl, Or.inl rfl⟩
  | case2 rest => exact ⟨['*', '/'], rest, rfl, rfl, Or.inr ⟨[], rfl⟩⟩
  | case3 c rest _ piece others split ih =>
      obtain ⟨body, tail, found, same, ended⟩ := ih
      rw [split] at found
      cases found
      refine ⟨c :: piece, others, rfl, by rw [same, List.cons_append], ?_⟩
      rcases ended with none | ⟨front, rfl⟩
      · exact Or.inl none
      · exact Or.inr ⟨c :: front, rfl⟩

theorem eq_append_of_after? {lead text rest : Text} (found : Text.after? lead text = some rest) :
    text = lead ++ rest := by
  rw [Text.after?] at found
  split at found
  · rename_i front
    cases found
    obtain ⟨rest, rfl⟩ := List.isPrefixOf_iff_prefix.mp front
    rw [List.drop_left]
  · cases found

theorem exists_of_afterBlank? {text rest : Text} (found : afterBlank? text = some rest) :
    ∃ c, text = c :: rest := by
  cases text with
  | nil => cases found
  | cons c text =>
      rw [afterBlank?] at found
      split at found
      · cases found
        exact ⟨c, rfl⟩
      · cases found

/-- The mark that ends a passage to be left alone ends as a comment does. -/
theorem exists_of_endOfIgnored? {text : Text} {length : Nat}
    (found : endOfIgnored? text = some length) :
    ∃ front, text.take length = front ++ ['*', '/'] := by
  simp only [endOfIgnored?, Option.bind_eq_bind, Option.bind_eq_some_iff, Option.pure_def,
    Option.some.injEq] at found
  obtain ⟨a, first, b, blank, c, word, d, space, e, mark, f, gap, rest, closing, rfl⟩ := found
  obtain ⟨x, rfl⟩ := exists_of_afterBlank? blank
  obtain ⟨y, rfl⟩ := exists_of_afterBlank? space
  obtain ⟨z, rfl⟩ := exists_of_afterBlank? gap
  have whole : text = ("/*".toList ++ x :: ("beautify".toList ++ y :: ("ignore:end".toList ++
      [z]))) ++ ['*', '/'] ++ rest := by
    rw [eq_append_of_after? first, eq_append_of_after? word, eq_append_of_after? mark,
      eq_append_of_after? closing]
    simp
  refine ⟨"/*".toList ++ x :: ("beautify".toList ++ y :: ("ignore:end".toList ++ [z])), ?_⟩
  rw [whole, List.length_append, Nat.add_sub_cancel, List.take_left]

theorem exists_ignored (text : Text) : ∃ piece rest, ignored text = (piece, rest) ∧
    text = piece ++ rest ∧ (rest = [] ∨ ∃ front, piece = front ++ ['*', '/']) := by
  induction text with
  | nil => exact ⟨[], [], rfl, rfl, Or.inl rfl⟩
  | cons c text ih =>
      rw [ignored]
      cases found : endOfIgnored? (c :: text) with
      | some length =>
          exact ⟨_, _, rfl, (List.take_append_drop _ _).symm, Or.inr (exists_of_endOfIgnored? found)⟩
      | none =>
          obtain ⟨piece, rest, passage, same, ended⟩ := ih
          refine ⟨c :: piece, rest, by simp only [passage], by rw [same, List.cons_append], ?_⟩
          rcases ended with none | ⟨front, rfl⟩
          · exact Or.inl none
          · exact Or.inr ⟨c :: front, rfl⟩

/-- A name is only missing at the end of a text. -/
theorem nameAhead_ne_nil {text : Text} (nonempty : text ≠ []) : nameAhead text ≠ [] := by
  cases text with
  | nil => exact absurd rfl nonempty
  | cons c rest =>
      rw [nameAhead]
      split <;> exact List.cons_ne_nil _ _

/-- A line comment ends at a line break, if all line breaks are line feeds. -/
theorem exists_lineComment {text : Text} (even : ∀ c ∈ text, endsLineComment c = true → c = '\n') :
    ∃ comment rest, lineComment text = (comment, rest) ∧ text = comment ++ rest ∧
      (rest = [] ∨ ∃ more, rest = '\n' :: more) := by
  refine ⟨_, _, List.span_eq_takeWhile_dropWhile _ _, List.takeWhile_append_dropWhile.symm, ?_⟩
  cases rest : text.dropWhile (fun c => !endsLineComment c) with
  | nil => exact Or.inl rfl
  | cons c more =>
      have member : c ∈ text := (List.dropWhile_suffix _).subset (rest ▸ List.mem_cons_self)
      have ends : endsLineComment c = true := by
        have head := List.head?_dropWhile_not (fun c => !endsLineComment c) text
        rw [rest] at head
        simpa using head
      exact Or.inr ⟨more, by rw [even c member ends]⟩

end Scan

end NestedStyles
