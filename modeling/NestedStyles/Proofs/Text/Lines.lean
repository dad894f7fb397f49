import Mathlib.Data.Nat.Init
import NestedStyles.Text.Basic

/-!
The lines of a text: cutting at new lines and joining again. An induction goes through the pieces of a
text, whatever it is cut at.
-/

set_option autoImplicit false

namespace NestedStyles

namespace Text

/-- No character of a text satisfies a test, or the first that does stands behind others. -/
theorem free_or_exists (test : Char → Bool) (text : Text) :
    (∀ c ∈ text, test c = false) ∨ ∃ front c back, text = front ++ c :: back ∧
      (∀ d ∈ front, test d = false) ∧ test c = true := by
  induction text with
  | nil => exact .inl fun c member => absurd member List.not_mem_nil
  | cons d rest ih =>
      cases stops : test d with
      | true => exact .inr ⟨[], d, rest, rfl, fun c member => absurd member List.not_mem_nil, stops⟩
      | false =>
          rcases ih with free | ⟨front, c, back, rfl, free, ends⟩
          · exact .inl (List.forall_mem_cons.mpr ⟨stops, free⟩)
          · exact .inr ⟨d :: front, c, back, rfl, List.forall_mem_cons.mpr ⟨stops, free⟩, ends⟩

/-- From one character that satisfies a test to the next, up to the piece that none ends. -/
theorem piece_induction (test : Char → Bool) {motive : Text → Prop}
    (last : ∀ text, (∀ c ∈ text, test c = false) → motive text)
    (cut : ∀ front c back, (∀ d ∈ front, test d = false) → test c = true → motive back →
      motive (front ++ c :: back)) (text : Text) : motive text := by
  induction length : text.length using Nat.strong_induction_on generalizing text with
  | h length ih =>
      rcases free_or_exists test text with free | ⟨front, c, back, rfl, free, ends⟩
      · exact last text free
      · refine cut front c back free ends (ih back.length ?_ back rfl)
        rw [← length, List.length_append, List.length_cons]
        omega

theorem join_eq_intercalate (separator : Text) (parts : List Text) :
    join separator parts = separator.intercalate parts := by
  induction parts with
  | nil => rfl
  | cons part rest ih =>
      cases rest with
      | nil => simp [List.intercalate]
      | cons next rest =>
          rw [join_cons_cons, ih]
          simp [List.intercalate]

theorem splitAt_eq_splitOn (mark : Char) (text : Text) : splitAt mark text = text.splitOn mark := by
  induction text with
  | nil => rfl
  | cons c rest ih =>
      have step : (c :: rest).splitOn mark =
          if c == mark then [] :: rest.splitOn mark
          else (rest.splitOn mark).modifyHead (List.cons c) :=
        List.splitOnP_cons_eq_if_modifyHead c rest
      rw [splitAt, step, ← ih]
      simp only [beq_iff_eq]
      split
      · rfl
      · split
        · rename_i empty
          exact absurd empty (splitAt_ne_nil mark rest)
        · rename_i piece pieces found
          rw [found]
          rfl

theorem splitAt_append_cons (mark : Char) (front back : Text) :
    splitAt mark (front ++ mark :: back) = splitAt mark front ++ splitAt mark back := by
  simp only [splitAt_eq_splitOn]
  exact List.splitOnP_append_cons front back (beq_self_eq_true mark)

theorem splitAt_join {mark : Char} {parts : List Text} (whole : ∀ part ∈ parts, mark ∉ part)
    (nonempty : parts ≠ []) : splitAt mark (join [mark] parts) = parts := by
  rw [splitAt_eq_splitOn, join_eq_intercalate]
  exact List.splitOn_intercalate mark whole nonempty

theorem not_mem_of_mem_splitAt {mark : Char} {text : Text} :
    ∀ piece ∈ splitAt mark text, mark ∉ piece := by
  induction text with
  | nil =>
      intro piece member
      rw [splitAt, List.mem_singleton] at member
      rw [member]
      exact List.not_mem_nil
  | cons c rest ih =>
      intro piece member
      rw [splitAt] at member
      split at member
      · rcases List.mem_cons.mp member with rfl | behind
        · exact List.not_mem_nil
        · exact ih piece behind
      · rename_i other
        split at member
        · rename_i empty
          exact absurd empty (splitAt_ne_nil mark rest)
        · rename_i first pieces found
          rw [found, List.forall_mem_cons] at ih
          rcases List.mem_cons.mp member with rfl | behind
          · rw [List.mem_cons, not_or]
            exact ⟨Ne.symm other, ih.1⟩
          · exact ih.2 piece behind

/-- What is added behind a text without a mark belongs to the last piece. -/
theorem exists_splitAt_append {mark : Char} {back : Text} (whole : mark ∉ back) (front : Text) :
    ∃ above piece, splitAt mark front = above ++ [piece] ∧
      splitAt mark (front ++ back) = above ++ [piece ++ back] := by
  induction front with
  | nil =>
      refine ⟨[], [], rfl, ?_⟩
      have alone : splitAt mark (join [mark] [back]) = [back] :=
        splitAt_join (by simpa using whole) (List.cons_ne_nil _ _)
      rwa [join_singleton] at alone
  | cons c rest ih =>
      obtain ⟨above, piece, short, long⟩ := ih
      rw [List.cons_append, splitAt, splitAt, short, long]
      by_cases same : c = mark
      · rw [if_pos same, if_pos same]
        exact ⟨[] :: above, piece, rfl, rfl⟩
      · rw [if_neg same, if_neg same]
        cases above with
        | nil => exact ⟨[], c :: piece, rfl, rfl⟩
        | cons first above => exact ⟨(c :: first) :: above, piece, rfl, rfl⟩

/-- Behind a part of a joined text is a mark or nothing. -/
theorem exists_of_mem_join {mark : Char} {parts : List Text} :
    ∀ part ∈ parts, ∃ before behind, join [mark] parts = before ++ (part ++ behind) ∧
      ∀ c ∈ behind.head?, c = mark := by
  induction parts with
  | nil =>
      intro part member
      cases member
  | cons first rest ih =>
      intro part member
      cases rest with
      | nil =>
          rw [List.mem_singleton] at member
          exact ⟨[], [], by rw [member, join_singleton, List.append_nil]; rfl, by simp⟩
      | cons next rest =>
          rw [join_cons_cons]
          rcases List.mem_cons.mp member with rfl | behind
          · exact ⟨[], mark :: join [mark] (next :: rest), by simp, by simp⟩
          · obtain ⟨before, after, split, ends⟩ := ih part behind
            exact ⟨first ++ [mark] ++ before, after, by rw [split]; simp, ends⟩

theorem exists_of_mem_splitAt {mark : Char} {text piece : Text}
    (member : piece ∈ splitAt mark text) :
    ∃ before behind, text = before ++ (piece ++ behind) ∧ ∀ c ∈ behind.head?, c = mark := by
  obtain ⟨before, behind, split, ends⟩ := exists_of_mem_join piece member
  exact ⟨before, behind, (join_splitAt mark text).symm.trans split, ends⟩

end Text

end NestedStyles
