import NestedStyles.Proofs.Stylesheet.Spelling
import NestedStyles.Proofs.Text.Weaving
import NestedStyles.Stylesheet.Region

/-!
Putting the marks of regions on lines of their own. All that changes are the blanks in front of line
comments, so whatever outlasts such a change outlasts the whole, as the statements of a stylesheet do
if no line comment begins in them.
-/

set_option autoImplicit false

namespace NestedStyles

open Text

theorem Text.join_append {separator : Text} {front back : List Text} (nonempty : back ≠ []) :
    front ≠ [] →
      Text.join separator (front ++ back) =
        Text.join separator front ++ separator ++ Text.join separator back := by
  induction front with
  | nil => exact fun absent => absurd rfl absent
  | cons part front ih =>
      intro _
      cases front with
      | nil =>
          obtain ⟨next, rest, rfl⟩ := List.exists_cons_of_ne_nil nonempty
          rfl
      | cons next rest =>
          have behind := ih (List.cons_ne_nil next rest)
          rw [List.cons_append] at behind
          rw [List.cons_append, List.cons_append, join_cons_cons, join_cons_cons, behind]
          simp

namespace Region

/-- That something outlasts any change of the blanks in front of line comments. -/
def Outlasts (P : Text → Prop) : Prop :=
  ∀ {front old new rest : Text}, Blank old → Blank new →
    P (front ++ (old ++ '/' :: '/' :: rest)) → P (front ++ (new ++ '/' :: '/' :: rest))

theorem exists_of_startsWithMark {text : Text} (starts : startsWithMark text = true) :
    ∃ rest, text = '/' :: '/' :: rest := by
  rw [startsWithMark, List.any_eq_true] at starts
  obtain ⟨mark, among, found⟩ := starts
  have front : mark <+: text := by
    rw [Text.after?] at found
    split at found
    · rename_i front
      exact List.isPrefixOf_iff_prefix.mp front
    · cases found
  obtain ⟨rest, rfl⟩ := front
  simp only [marks, List.mem_cons, List.not_mem_nil, or_false] at among
  rcases among with rfl | rfl
  · exact ⟨_, rfl⟩
  · exact ⟨_, rfl⟩

theorem isBlank_of_isPadding {c : Char} (padding : isPadding c = true) : isBlank c = true := by
  rw [isPadding, Bool.or_eq_true, beq_iff_eq, beq_iff_eq] at padding
  rcases padding with rfl | rfl <;> decide

theorem isPadding_eq_false {c : Char} (solid : isBlank c = false) : isPadding c = false := by
  rw [← Bool.not_eq_true]
  intro padding
  rw [isBlank_of_isPadding padding] at solid
  cases solid

theorem blank_indentation (line : Text) : Blank (indentation line) :=
  fun _ member => isBlank_of_isPadding (List.mem_takeWhile_imp member)

/-- What is left of a cut and what is right of it: something other than a blank in front, and a mark
behind in which no other mark begins that could be cut off. The padding between is dropped. -/
inductive CutAt : Text → Text → Text → Prop
  | mk {front gap word before : Text} {d : Char} (solid : isBlank d = false)
      (padded : ∀ c ∈ gap, isPadding c = true)
      (starts : startsWithMark ('/' :: '/' :: word) = true)
      (last : lastCut? ('/' :: before) ('/' :: word) = none) :
      CutAt (front ++ d :: (gap ++ '/' :: '/' :: word)) (front ++ [d]) ('/' :: '/' :: word)

theorem cutAt_of_lastCut? {line before front mark : Text}
    (cut : lastCut? before line = some (front, mark)) :
    CutAt (before.reverse ++ line) front mark := by
  induction line generalizing before with
  | nil => cases cut
  | cons c rest ih =>
      rw [lastCut?] at cut
      split at cut
      · rename_i later found
        cases cut
        have behind := ih found
        rwa [List.reverse_cons, List.append_assoc, List.singleton_append] at behind
      · rename_i none
        split at cut
        · rename_i starts
          split at cut
          · cases cut
          · rename_i d farther passed
            split at cut
            · cases cut
            · rename_i solid
              cases cut
              obtain ⟨word, same⟩ := exists_of_startsWithMark starts
              cases same
              have split : before.reverse ++ '/' :: '/' :: word = farther.reverse ++
                  d :: ((before.takeWhile isPadding).reverse ++ '/' :: '/' :: word) := by
                nth_rewrite 1 [← List.takeWhile_append_dropWhile (p := isPadding) (l := before)]
                rw [passed]
                simp
              rw [split, List.reverse_cons]
              refine .mk (Bool.eq_false_of_not_eq_true solid) ?_ starts none
              exact fun e member => List.mem_takeWhile_imp (List.mem_reverse.mp member)
        · cases cut

/-- A line is cut in front of a line comment, and blanks are dropped there. -/
theorem exists_of_lastCut? {line before front mark : Text}
    (cut : lastCut? before line = some (front, mark)) :
    ∃ gap rest, Blank gap ∧ mark = '/' :: '/' :: rest ∧
      before.reverse ++ line = front ++ (gap ++ mark) := by
  have made := cutAt_of_lastCut? cut
  generalize before.reverse ++ line = whole at made
  cases made with
  | @mk front gap word _ d _ padded _ _ =>
      refine ⟨gap, word, fun c member => isBlank_of_isPadding (padded c member), rfl, ?_⟩
      rw [List.append_assoc, List.singleton_append]

theorem cuts_ne_nil (bound : Nat) (line : Text) : cuts bound line ≠ [] := by
  cases bound with
  | zero => exact List.cons_ne_nil _ _
  | succ bound =>
      rw [cuts]
      split
      · exact List.cons_ne_nil _ _
      · exact List.append_ne_nil_of_right_ne_nil _ (List.cons_ne_nil _ _)

section Outlasts

variable {P : Text → Prop}

theorem outlasts_cuts (outlasts : Outlasts P) (bound : Nat) :
    ∀ {above line below : Text}, P (above ++ (line ++ below)) →
      P (above ++ (Text.join ['\n'] (cuts bound line) ++ below)) := by
  induction bound with
  | zero => exact fun holds => holds
  | succ bound ih =>
      intro above line below holds
      rw [cuts]
      split
      · exact holds
      · rename_i front mark cut
        obtain ⟨gap, rest, blank, rfl, split⟩ := exists_of_lastCut? cut
        have split : line = front ++ (gap ++ '/' :: '/' :: rest) := split
        have wider : Blank ('\n' :: indentation line) := by
          intro c member
          rcases List.mem_cons.mp member with rfl | member
          · decide
          · exact blank_indentation line c member
        rw [Text.join_append (List.cons_ne_nil _ _) (cuts_ne_nil bound front), List.append_assoc,
          List.append_assoc, Text.join_singleton]
        refine ih ?_
        have moved := @outlasts (above ++ front) gap ('\n' :: indentation line) (rest ++ below)
          blank wider
        simp only [List.append_assoc, List.cons_append] at moved
        simp only [List.append_assoc, List.cons_append, List.nil_append]
        refine moved ?_
        nth_rewrite 1 [split] at holds
        simp only [List.append_assoc, List.cons_append] at holds
        exact holds

theorem outlasts_lines (outlasts : Outlasts P) (lines : List Text) :
    ∀ {above : Text}, P (above ++ Text.join ['\n'] lines) →
      P (above ++ Text.join ['\n'] (lines.flatMap separateLine)) := by
  induction lines with
  | nil => exact fun holds => holds
  | cons line rest ih =>
      intro above holds
      rw [List.flatMap_cons]
      cases rest with
      | nil =>
          rw [List.flatMap_nil, List.append_nil]
          have alone := @outlasts_cuts P outlasts line.length above line []
          rw [List.append_nil, List.append_nil] at alone
          exact alone holds
      | cons next rest =>
          have others : (next :: rest).flatMap separateLine ≠ [] := by
            rw [List.flatMap_cons]
            exact List.append_ne_nil_of_left_ne_nil (cuts_ne_nil _ _) _
          rw [Text.join_cons_cons, ← List.append_assoc] at holds
          have below := ih holds
          rw [separateLine, Text.join_append others (cuts_ne_nil _ _)]
          rw [List.append_assoc, List.append_assoc] at below
          rw [List.append_assoc]
          exact outlasts_cuts outlasts line.length below

/-- What outlasts a change of the blanks in front of line comments outlasts the separation of marks. -/
theorem outlasts_separate (outlasts : Outlasts P) {text : Text} (holds : P text) :
    P (separate text) := by
  have whole := @outlasts_lines P outlasts (Text.splitAt '\n' text) []
  rw [Text.join_splitAt] at whole
  exact whole holds

end Outlasts

end Region

end NestedStyles
