import NestedStyles.Text.Basic

/-!
Blocks of a text that is nested by braces. A text is read character by character with a stack of open
blocks; `Adds` says what a piece adds wherever it stands, so that a text can be read piece by piece.
-/

set_option autoImplicit false

namespace NestedStyles

/-- A block between braces: all of the text that stands in front of its opening brace, and the blocks
inside. -/
inductive Block where
  | mk (front : Text) (nested : List Block)

namespace Block

def front : Block → Text
  | mk front _ => front

def nested : Block → List Block
  | mk _ nested => nested

end Block

namespace Text

/-- How many blocks a text opens and does not close. -/
def openBlocks (text : Text) : Int :=
  text.count '{' - text.count '}'

/-- No beginning of the text closes more blocks than it opened, and all are closed at the end. -/
structure Balanced (text : Text) : Prop where
  never : ∀ front, front <+: text → 0 ≤ openBlocks front
  closed : openBlocks text = 0

def Braceless (text : Text) : Prop :=
  '{' ∉ text ∧ '}' ∉ text

theorem openBlocks_append (front back : Text) :
    openBlocks (front ++ back) = openBlocks front + openBlocks back := by
  simp only [openBlocks, List.count_append]
  omega

theorem openBlocks_of_braceless {text : Text} (plain : Braceless text) : openBlocks text = 0 := by
  rw [openBlocks, List.count_eq_zero_of_not_mem plain.1, List.count_eq_zero_of_not_mem plain.2]
  rfl

theorem Braceless.append {front back : Text} (first : Braceless front) (second : Braceless back) :
    Braceless (front ++ back) := by
  simp only [Braceless, List.mem_append, not_or]
  exact ⟨⟨first.1, second.1⟩, first.2, second.2⟩

/-- How far a text is read. -/
structure Reading where
  /-- What was read. -/
  passed : Text := []
  /-- The blocks of the level that is being read, as far as they are closed. -/
  blocks : List Block := []
  /-- The open blocks from the innermost on: what stands in front of each, and the closed blocks of
  its level. -/
  opened : List (Text × List Block) := []

namespace Reading

/-- Reads a character. A brace that closes nothing cannot be read. -/
def step (reading : Reading) (c : Char) : Option Reading :=
  if c = '{' then
    some ⟨reading.passed ++ [c], [], (reading.passed, reading.blocks) :: reading.opened⟩
  else if c = '}' then
    match reading.opened with
    | [] => none
    | (front, before) :: outer =>
      some ⟨reading.passed ++ [c], before ++ [.mk front reading.blocks], outer⟩
  else some { reading with passed := reading.passed ++ [c] }

/-- Reads a text. -/
def run (reading : Reading) (text : Text) : Option Reading :=
  text.foldlM step reading

@[simp] theorem run_nil (reading : Reading) : run reading [] = some reading := rfl

theorem run_cons (reading : Reading) (c : Char) (rest : Text) :
    run reading (c :: rest) = (step reading c).bind fun next => run next rest :=
  List.foldlM_cons

theorem run_append (reading : Reading) (front back : Text) :
    run reading (front ++ back) = (run reading front).bind fun next => run next back :=
  List.foldlM_append

/-- A character opens a block, closes the innermost one, or is no brace. -/
theorem step_eq_some {reading next : Reading} {c : Char} (stepped : step reading c = some next) :
    (c = '{' ∧ next =
        ⟨reading.passed ++ [c], [], (reading.passed, reading.blocks) :: reading.opened⟩) ∨
      (c = '}' ∧ ∃ front before outer, reading.opened = (front, before) :: outer ∧
        next = ⟨reading.passed ++ [c], before ++ [.mk front reading.blocks], outer⟩) ∨
      (Braceless [c] ∧ next = ⟨reading.passed ++ [c], reading.blocks, reading.opened⟩) := by
  rw [step] at stepped
  by_cases opening : c = '{'
  · rw [if_pos opening] at stepped
    cases stepped
    exact Or.inl ⟨opening, rfl⟩
  · rw [if_neg opening] at stepped
    by_cases closing : c = '}'
    · rw [if_pos closing] at stepped
      cases stack : reading.opened with
      | nil =>
          rw [stack] at stepped
          cases stepped
      | cons innermost outer =>
          rw [stack] at stepped
          cases stepped
          exact Or.inr (Or.inl ⟨closing, innermost.1, innermost.2, outer, rfl, rfl⟩)
    · rw [if_neg closing] at stepped
      cases stepped
      refine Or.inr (Or.inr ⟨?_, rfl⟩)
      simp only [Braceless, List.mem_singleton]
      exact ⟨fun same => opening same.symm, fun same => closing same.symm⟩

/-- Whether as many blocks are on the stack as what was read left open. -/
def Counts (reading : Reading) : Prop :=
  openBlocks reading.passed = reading.opened.length

theorem counts_step {reading next : Reading} {c : Char} (counts : Counts reading)
    (stepped : step reading c = some next) : Counts next := by
  rw [Counts] at counts
  rcases step_eq_some stepped with ⟨rfl, rfl⟩ | ⟨rfl, front, before, outer, stack, rfl⟩ | ⟨plain, rfl⟩
  · have one : openBlocks ['{'] = 1 := rfl
    rw [Counts, openBlocks_append, counts, one, List.length_cons]
    rfl
  · have one : openBlocks ['}'] = -1 := rfl
    rw [Counts, openBlocks_append, counts, one, stack, List.length_cons]
    dsimp only
    omega
  · rw [Counts, openBlocks_append, counts, openBlocks_of_braceless plain, Int.add_zero]

theorem counts_run {reading last : Reading} {text : Text} (counts : Counts reading)
    (ran : run reading text = some last) : Counts last := by
  induction text generalizing reading with
  | nil =>
      cases ran
      exact counts
  | cons c rest ih =>
      rw [run_cons] at ran
      obtain ⟨next, stepped, behind⟩ := Option.bind_eq_some_iff.mp ran
      exact ih (counts_step counts stepped) behind

theorem passed_step {reading next : Reading} {c : Char} (stepped : step reading c = some next) :
    next.passed = reading.passed ++ [c] := by
  rcases step_eq_some stepped with ⟨-, rfl⟩ | ⟨-, front, before, outer, -, rfl⟩ | ⟨-, rfl⟩ <;> rfl

theorem passed_run {reading last : Reading} {text : Text} (ran : run reading text = some last) :
    last.passed = reading.passed ++ text := by
  induction text generalizing reading with
  | nil =>
      cases ran
      rw [List.append_nil]
  | cons c rest ih =>
      rw [run_cons] at ran
      obtain ⟨next, stepped, behind⟩ := Option.bind_eq_some_iff.mp ran
      rw [ih behind, passed_step stepped, List.append_assoc, List.singleton_append]

end Reading

/-- The blocks of a text, if its braces match. -/
def blocks? (text : Text) : Option (List Block) :=
  match Reading.run {} text with
  | some ⟨_, blocks, []⟩ => some blocks
  | _ => none

theorem blocks?_eq_some {text : Text} {blocks : List Block} (read : blocks? text = some blocks) :
    Reading.run {} text = some ⟨text, blocks, []⟩ := by
  rw [blocks?] at read
  split at read
  · rename_i passed found ran
    cases read
    have same : passed = text := Reading.passed_run ran
    rw [ran, same]
  · cases read

/-- A text that can be read is balanced. -/
theorem balanced_of_blocks? {text : Text} {blocks : List Block} (read : blocks? text = some blocks) :
    Balanced text := by
  have start : Reading.Counts {} := rfl
  have ran := blocks?_eq_some read
  constructor
  · rintro front ⟨back, rfl⟩
    rw [Reading.run_append] at ran
    obtain ⟨middle, reached, -⟩ := Option.bind_eq_some_iff.mp ran
    have passed : middle.passed = front := Reading.passed_run reached
    have counts : openBlocks middle.passed = middle.opened.length := Reading.counts_run start reached
    rw [← passed, counts]
    exact Int.natCast_nonneg _
  · exact Reading.counts_run start ran

/-- Whether a text adds the blocks that `make` gives for what stands in front, wherever it is read. -/
def Adds (text : Text) (make : Text → List Block) : Prop :=
  ∀ passed blocks opened, Reading.run ⟨passed, blocks, opened⟩ text =
    some ⟨passed ++ text, blocks ++ make passed, opened⟩

theorem Adds.blocks?_eq {text : Text} {make : Text → List Block} (adds : Adds text make) :
    blocks? text = some (make []) := by
  have ran : Reading.run {} text = some ⟨text, make [], []⟩ := adds [] [] []
  rw [blocks?, ran]

theorem Adds.openBlocks_eq {text : Text} {make : Text → List Block} (adds : Adds text make) :
    openBlocks text = 0 :=
  (balanced_of_blocks? adds.blocks?_eq).closed

theorem Adds.nil : Adds [] fun _ => [] := by
  intro passed blocks opened
  rw [Reading.run_nil, List.append_nil, List.append_nil]

theorem Adds.append {first second : Text} {make more : Text → List Block} (left : Adds first make)
    (right : Adds second more) :
    Adds (first ++ second) fun front => make front ++ more (front ++ first) := by
  intro passed blocks opened
  rw [Reading.run_append, left, Option.bind_some, right, List.append_assoc, List.append_assoc]

/-- Text without braces adds nothing but itself. -/
theorem Adds.of_braceless {text : Text} (plain : Braceless text) : Adds text fun _ => [] := by
  induction text with
  | nil => exact Adds.nil
  | cons c rest ih =>
      have here : Adds [c] fun _ => [] := by
        intro passed blocks opened
        have noOpening : c ≠ '{' := fun same => plain.1 (by rw [same]; exact List.mem_cons_self)
        have noClosing : c ≠ '}' := fun same => plain.2 (by rw [same]; exact List.mem_cons_self)
        rw [Reading.run_cons, Reading.step, if_neg noOpening, if_neg noClosing, List.append_nil]
        rfl
      exact here.append (ih ⟨fun inside => plain.1 (List.mem_cons_of_mem _ inside),
        fun inside => plain.2 (List.mem_cons_of_mem _ inside)⟩)

/-- A heading, and between braces what adds the blocks inside, is one block. -/
theorem Adds.block {heading body : Text} {make : Text → List Block} (plain : Braceless heading)
    (inside : Adds body make) :
    Adds (heading ++ '{' :: body ++ ['}']) fun front =>
      [.mk (front ++ heading) (make (front ++ heading ++ ['{']))] := by
  intro passed blocks opened
  have entered : Reading.step ⟨passed ++ heading, blocks, opened⟩ '{' =
      some ⟨passed ++ heading ++ ['{'], [], (passed ++ heading, blocks) :: opened⟩ := rfl
  have left : Reading.step ⟨passed ++ heading ++ ['{'] ++ body,
        make (passed ++ heading ++ ['{']), (passed ++ heading, blocks) :: opened⟩ '}' =
      some ⟨passed ++ heading ++ ['{'] ++ body ++ ['}'],
        blocks ++ [.mk (passed ++ heading) (make (passed ++ heading ++ ['{']))], opened⟩ := rfl
  rw [List.append_assoc, List.cons_append, Reading.run_append, Adds.of_braceless plain,
    Option.bind_some, List.append_nil, Reading.run_cons, entered, Option.bind_some,
    Reading.run_append, inside, Option.bind_some, List.nil_append, Reading.run_cons, left,
    Option.bind_some, Reading.run_nil]
  simp only [List.append_assoc, List.cons_append, List.nil_append]

end Text

end NestedStyles
