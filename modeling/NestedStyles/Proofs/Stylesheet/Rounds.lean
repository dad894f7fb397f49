import NestedStyles.Proofs.Stylesheet.Marks

/-!
Separation as a loop. A round cuts each line before its last mark that stands behind something else,
and rounds are made until one cuts nothing. Each cut makes a line of its own for a mark, and what is cut
off is cut no further, so the marks that are still to be cut off become fewer with every round that cuts.
-/

set_option autoImplicit false

namespace NestedStyles

open Text

namespace Region

/-- How many lines can be cut. -/
def cuttable (lines : List Text) : Nat :=
  lines.countP fun line => (lastCut? [] line).isSome

/-- One round over a text, and how many of its lines it cut. -/
def round (text : Text) : Text × Nat :=
  (join ['\n'] ((splitAt '\n' text).flatMap (cuts 1)), cuttable (splitAt '\n' text))

/-- The run of the loop: rounds are made until one cuts no line. -/
inductive Rounds : Text → Text → Prop
  | done {text result : Text} (made : round text = (result, 0)) : Rounds text result
  | again {text next result : Text} {count : Nat} (made : round text = (next, count + 1))
      (others : Rounds next result) : Rounds text result

section Line

variable {line front mark : Text}

theorem cuts_one_of_none (none : lastCut? [] line = none) : cuts 1 line = [line] := by
  rw [cuts, none]

theorem cuts_one_of_some (cut : lastCut? [] line = some (front, mark)) :
    cuts 1 line = [front, indentation line ++ mark] := by
  rw [cuts, cut]
  rfl

/-- What is cut off stands behind fewer characters than before. -/
theorem length_of_lastCut? (cut : lastCut? [] line = some (front, mark)) :
    front.length < line.length := by
  obtain ⟨gap, word, -, rfl, split⟩ := exists_of_lastCut? cut
  rw [List.reverse_nil, List.nil_append] at split
  rw [split, List.length_append, List.length_append, List.length_cons]
  omega

/-- A line is cut as often as it can be. -/
theorem cuts_succ_of_length_le (bound : Nat) :
    ∀ {line : Text}, line.length ≤ bound → cuts (bound + 1) line = cuts bound line := by
  induction bound with
  | zero =>
      intro line short
      rw [List.eq_nil_of_length_eq_zero (Nat.le_zero.mp short)]
      rfl
  | succ bound ih =>
      intro line short
      rw [cuts, cuts]
      cases cut : lastCut? [] line with
      | none => rfl
      | some parts =>
          obtain ⟨front, mark⟩ := parts
          have shorter := length_of_lastCut? cut
          have same : cuts (bound + 1) front = cuts bound front := ih (by omega)
          simp only [same]

theorem cuts_of_length_le {bound : Nat} (long : line.length ≤ bound) :
    cuts bound line = separateLine line := by
  induction bound, long using Nat.le_induction with
  | base => rfl
  | succ bound long ih => rw [cuts_succ_of_length_le bound long, ih]

theorem separateLine_of_none (none : lastCut? [] line = none) : separateLine line = [line] := by
  rw [← cuts_of_length_le (Nat.le_succ line.length), cuts, none]

theorem separateLine_of_some (cut : lastCut? [] line = some (front, mark)) :
    separateLine line = separateLine front ++ [indentation line ++ mark] := by
  have shorter := length_of_lastCut? cut
  rw [← cuts_of_length_le (Nat.le_succ line.length), cuts, cut]
  simp only [cuts_of_length_le (Nat.le_of_lt shorter)]

/-- What is cut off is not cut again. -/
theorem lastCut?_of_cutAt {padding : Text} (cut : CutAt line front mark)
    (padded : ∀ c ∈ padding, isPadding c = true) : lastCut? [] (padding ++ mark) = none := by
  cases cut with
  | mk solid inner starts last =>
      have all : padding.reverse.find? (fun c => !isPadding c) = none := by
        rw [List.find?_eq_none]
        intro c member
        rw [padded c (List.mem_reverse.mp member)]
        decide
      rw [lastCut?_padding padded, List.append_nil, lastCut?_cons_eq_none_iff, all]
      refine ⟨?_, fun _ d member => absurd member (Option.not_mem_none d)⟩
      exact (lastCut?_behind (by decide) _ []).mp last

/-- A line is separated as the lines of one round are. -/
theorem separateLine_eq (line : Text) :
    separateLine line = (cuts 1 line).flatMap separateLine := by
  cases cut : lastCut? [] line with
  | none => rw [cuts_one_of_none cut, List.flatMap_singleton]
  | some parts =>
      obtain ⟨front, mark⟩ := parts
      have behind : lastCut? [] (indentation line ++ mark) = none :=
        lastCut?_of_cutAt (cutAt_of_lastCut? cut) fun c member => List.mem_takeWhile_imp member
      rw [separateLine_of_some cut, cuts_one_of_some cut, List.flatMap_cons, List.flatMap_singleton,
        separateLine_of_none behind]

/-- Induction along the cuts of a line, the last one first. -/
theorem cut_induction {motive : Text → Prop} (whole : ∀ line, lastCut? [] line = none → motive line)
    (cut : ∀ line front mark, lastCut? [] line = some (front, mark) → motive front → motive line)
    (line : Text) : motive line := by
  cases found : lastCut? [] line with
  | none => exact whole line found
  | some parts =>
      obtain ⟨front, mark⟩ := parts
      have shorter := length_of_lastCut? found
      exact cut line front mark found (cut_induction whole cut front)
termination_by line.length

/-- The lines that are left are not cut any more. -/
theorem lastCut?_of_mem_separateLine (line : Text) :
    ∀ piece ∈ separateLine line, lastCut? [] piece = none := by
  induction line using cut_induction with
  | whole line none =>
      intro piece member
      rw [separateLine_of_none none, List.mem_singleton] at member
      rw [member, none]
  | cut line front mark found ih =>
      intro piece member
      rw [separateLine_of_some found] at member
      rcases List.mem_append.mp member with above | last
      · exact ih piece above
      · rw [List.mem_singleton.mp last]
        exact lastCut?_of_cutAt (cutAt_of_lastCut? found) fun c inside => List.mem_takeWhile_imp inside

end Line

section Lines

variable {lines : List Text}

theorem flatMap_cuts_one (lines : List Text) :
    (lines.flatMap (cuts 1)).flatMap separateLine = lines.flatMap separateLine := by
  rw [List.flatMap_assoc]
  simp only [← separateLine_eq]

theorem not_mem_flatMap_cuts (bound : Nat) (whole : ∀ line ∈ lines, '\n' ∉ line) :
    ∀ piece ∈ lines.flatMap (cuts bound), '\n' ∉ piece := by
  intro piece member inside
  obtain ⟨line, among, cut⟩ := List.mem_flatMap.mp member
  exact whole line among (mem_of_mem_cuts bound piece cut inside)

/-- Each line that is cut becomes two. -/
theorem length_flatMap_cuts_one (lines : List Text) :
    (lines.flatMap (cuts 1)).length = lines.length + cuttable lines := by
  induction lines with
  | nil => rfl
  | cons line rest ih =>
      rw [List.flatMap_cons, List.length_append, ih, cuttable, cuttable, List.countP_cons,
        List.length_cons]
      cases cut : lastCut? [] line with
      | none =>
          rw [cuts_one_of_none cut]
          simp
          omega
      | some parts =>
          rw [cuts_one_of_some cut]
          simp
          omega

theorem length_le_flatMap_separateLine (lines : List Text) :
    lines.length ≤ (lines.flatMap separateLine).length := by
  induction lines with
  | nil => exact Nat.le_refl 0
  | cons line rest ih =>
      have some := List.length_pos_iff.mpr (cuts_ne_nil line.length line)
      rw [List.flatMap_cons, List.length_append, List.length_cons, separateLine]
      omega

/-- Lines that cannot be cut stay. -/
theorem eq_of_cuttable_eq_zero (none : cuttable lines = 0) :
    lines.flatMap (cuts 1) = lines ∧ lines.flatMap separateLine = lines := by
  rw [cuttable, List.countP_eq_zero] at none
  have uncut : ∀ line ∈ lines, lastCut? [] line = Option.none := by
    intro line member
    exact Option.not_isSome_iff_eq_none.mp (none line member)
  have one : ∀ line ∈ lines, cuts 1 line = [line] := fun line member =>
    cuts_one_of_none (uncut line member)
  have all : ∀ line ∈ lines, separateLine line = [line] := fun line member =>
    separateLine_of_none (uncut line member)
  rw [List.flatMap_congr one, List.flatMap_congr all]
  simp

theorem round_join (whole : ∀ line ∈ lines, '\n' ∉ line) (some : lines ≠ []) :
    round (join ['\n'] lines) = (join ['\n'] (lines.flatMap (cuts 1)), cuttable lines) := by
  rw [round, splitAt_join whole some]

theorem separate_join (whole : ∀ line ∈ lines, '\n' ∉ line) (some : lines ≠ []) :
    separate (join ['\n'] lines) = join ['\n'] (lines.flatMap separateLine) := by
  rw [separate, splitAt_join whole some]

theorem flatMap_cuts_ne_nil (bound : Nat) (some : lines ≠ []) : lines.flatMap (cuts bound) ≠ [] := by
  obtain ⟨line, rest, rfl⟩ := List.exists_cons_of_ne_nil some
  rw [List.flatMap_cons]
  exact List.append_ne_nil_of_left_ne_nil (cuts_ne_nil bound line) _

end Lines

/-- A round leaves what separation makes of a text. -/
theorem separate_round (text : Text) : separate (round text).1 = separate text := by
  have lines : ∀ line ∈ splitAt '\n' text, '\n' ∉ line := not_mem_of_mem_splitAt
  have whole := not_mem_flatMap_cuts 1 lines
  have some := flatMap_cuts_ne_nil 1 (splitAt_ne_nil '\n' text)
  rw [round, separate_join whole some, flatMap_cuts_one, separate]

/-- A text that a round cuts nothing of is separate. -/
theorem separate_of_round {text result : Text} (made : round text = (result, 0)) :
    separate text = result := by
  rw [round, Prod.mk.injEq] at made
  obtain ⟨one, all⟩ := eq_of_cuttable_eq_zero made.2
  rw [← made.1, separate, one, all]

/-- The loop ends whatever the text. The induction is on the number of lines that are still to come. -/
theorem rounds_join {lines : List Text} (whole : ∀ line ∈ lines, '\n' ∉ line) (some : lines ≠ []) :
    Rounds (join ['\n'] lines) (join ['\n'] (lines.flatMap separateLine)) := by
  induction remaining : (lines.flatMap separateLine).length - lines.length using Nat.strongRecOn
    generalizing lines with
  | ind left ih =>
      have made := round_join whole some
      cases count : cuttable lines with
      | zero =>
          obtain ⟨one, all⟩ := eq_of_cuttable_eq_zero count
          rw [count, one] at made
          rw [all]
          exact .done made
      | succ others =>
          have longer := length_flatMap_cuts_one lines
          have least := length_le_flatMap_separateLine (lines.flatMap (cuts 1))
          rw [flatMap_cuts_one] at least
          rw [count] at made
          refine .again made ?_
          rw [← flatMap_cuts_one]
          refine ih _ ?_ (not_mem_flatMap_cuts 1 whole) (flatMap_cuts_ne_nil 1 some) rfl
          rw [flatMap_cuts_one]
          omega

/-- The loop ends, and it ends in the separated text and nothing else. -/
theorem rounds_iff (text result : Text) : Rounds text result ↔ result = separate text := by
  constructor
  · intro rounds
    induction rounds with
    | done made => rw [separate_of_round made]
    | @again text next result count made others ih =>
        rw [ih, ← separate_round text, made]
  · rintro rfl
    have lines : ∀ line ∈ splitAt '\n' text, '\n' ∉ line := not_mem_of_mem_splitAt
    have ends := rounds_join lines (splitAt_ne_nil '\n' text)
    rwa [join_splitAt] at ends

end Region

end NestedStyles
