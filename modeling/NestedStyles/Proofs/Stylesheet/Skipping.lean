import NestedStyles.CommandLine.Romanized
import NestedStyles.Proofs.Outline.Entries
import NestedStyles.Proofs.Stylesheet.Pieces
import NestedStyles.Proofs.Stylesheet.Siblings

/-!
Elements that get no rule. `watched` writes a stylesheet and notes every element it skips; what it
writes is the stylesheet, and of a forest it skips nothing.
-/

set_option autoImplicit false

namespace NestedStyles

namespace Raw

/-- An element that gets no rule, and why. -/
inductive Skip where
  /-- It has neither styling nor a list of children. -/
  | bare (subject : Subject)
  /-- Nothing would stand between the braces of its rule. -/
  | hollow (subject : Subject)

section Watching

variable [Romanization]

/-- The stylesheet of a list of siblings, with the elements that are skipped at any depth. -/
def watched (settings : Settings) (number : Int) (regions : Nat) :
    List Entry → Except NamingFault (Text × List Skip)
  | [] => .ok ([], [])
  | .block block :: rest => do
    let others ← watched settings number (regions + 1) rest
    return (region block (regions + 1) ++ others.1, others.2)
  | .element subject children :: rest =>
    if subject.styling.isNone && children.isNone then do
      let others ← watched settings number regions rest
      return (others.1, .bare subject :: others.2)
    else do
      let below ← watched settings (nextNumber number children) 0 (children.getD [])
      match declarations subject ++ below.1 with
      | [] => do
        let others ← watched settings (nextNumber number children) regions rest
        return (others.1, below.2 ++ .hollow subject :: others.2)
      | body => do
        let heading ← Selector.headed settings (nextNumber number children) subject
        let others ← watched settings (nextNumber number children) regions rest
        return (rule heading body ++ others.1, below.2 ++ others.2)
termination_by entries => sizeOf entries
decreasing_by
  all_goals simp only [List.cons.sizeOf_spec, Entry.element.sizeOf_spec]
  · omega
  · omega
  · cases children <;>
      simp only [Option.getD_none, Option.getD_some, Option.some.sizeOf_spec, List.nil.sizeOf_spec] <;>
      omega
  · omega
  · omega

/-- Watching changes nothing of what is written. -/
theorem fst_watched (settings : Settings) (entries : List Entry) :
    ∀ number regions, (watched settings number regions entries).map Prod.fst =
      siblings settings number regions entries := by
  induction entries using Entry.outline_induction with
  | nil =>
      intro number regions
      rw [watched, siblings_nil, Except.map]
  | block block rest ih =>
      intro number regions
      rw [watched, siblings_block, ← ih]
      cases watched settings number (regions + 1) rest <;> rfl
  | element subject children rest ihChildren ihRest =>
      intro number regions
      rw [watched, siblings_element, ← ihChildren, ← ihRest]
      split
      · rename_i bare
        rw [Bool.and_eq_true, Option.isNone_iff_eq_none, Option.isNone_iff_eq_none] at bare
        have silent : declarations subject = [] := by
          rw [declarations, bare.1]
        have same : nextNumber number children = number := by
          rw [bare.2]
          rfl
        rw [same, bare.2, silent, Option.getD_none, watched]
        cases watched settings number regions rest <;> rfl
      · cases watched settings (nextNumber number children) 0 (children.getD []) with
        | error fault => rfl
        | ok below =>
            simp only [bind, Except.bind, Except.map]
            cases declarations subject ++ below.1 with
            | nil =>
                cases watched settings (nextNumber number children) regions rest <;> rfl
            | cons c more =>
                rw [ruleUnlessEmpty]
                cases Selector.headed settings (nextNumber number children) subject with
                | error fault => rfl
                | ok heading =>
                    cases watched settings (nextNumber number children) regions rest <;> rfl

/-- An element is not skipped if it carries styling or children, and something stands between its
braces. -/
theorem watched_element {settings : Settings} (number : Int) {regions : Nat} {subject : Subject}
    (children : Option (List Entry)) {rest : List Entry} {selector : Text}
    {below others : Text × List Skip} (carries : subject.styling ≠ none ∨ children ≠ none)
    (nested : watched settings (nextNumber number children) 0 (children.getD []) = .ok below)
    (filled : declarations subject ++ below.1 ≠ [])
    (selected : Selector.ofSubject settings (nextNumber number children) subject = .ok selector)
    (following : watched settings (nextNumber number children) regions rest = .ok others) :
    watched settings number regions (.element subject children :: rest) =
      .ok (rule (Selector.headerOf settings subject ++ selector) (declarations subject ++ below.1) ++
        others.1, below.2 ++ others.2) := by
  have notBare : ¬ ((subject.styling.isNone && children.isNone) = true) := by
    rw [Bool.and_eq_true, Option.isNone_iff_eq_none, Option.isNone_iff_eq_none, not_and_or]
    exact carries
  rw [watched, if_neg notBare, nested]
  simp only [bind, Except.bind]
  obtain ⟨c, more, body⟩ := List.exists_cons_of_ne_nil filled
  rw [body, Selector.headed_of_ofSubject selected, following]
  rfl

/-- Of elements in normal form none is skipped. -/
theorem exists_watched {settings : Settings} (typed : settings.WellTyped) {depth : Int}
    {entries : List Entry} (normal : Outline.Normal depth entries) :
    ∀ number regions, ∃ text, watched settings number regions entries = .ok (text, []) ∧
      (entries ≠ [] → text ≠ []) := by
  induction normal with
  | nil depth =>
      intro number regions
      exact ⟨[], by rw [watched], fun nonempty => absurd rfl nonempty⟩
  | @leaf depth subject rest level styled cleaned others ih =>
      intro number regions
      obtain ⟨text, made, -⟩ := ih number regions
      obtain ⟨selector, selected⟩ := Selector.exists_ofSubject typed number subject
      have nested : watched settings number 0 [] = .ok ([], []) := by rw [watched]
      have filled : declarations subject ++ [] ≠ [] := by
        rw [List.append_nil]
        exact declarations_ne_nil styled cleaned
      have own := watched_element number none (Or.inl styled) nested filled selected made
      refine ⟨_, own, fun _ => ?_⟩
      exact List.append_ne_nil_of_left_ne_nil (rule_ne_nil _ _) _
  | @branch depth subject child more rest level cleaned below others ihBelow ihOthers =>
      intro number regions
      obtain ⟨inside, madeInside, nonempty⟩ :=
        ihBelow (nextNumber number (some (child :: more))) 0
      obtain ⟨text, made, -⟩ := ihOthers (nextNumber number (some (child :: more))) regions
      obtain ⟨selector, selected⟩ :=
        Selector.exists_ofSubject typed (nextNumber number (some (child :: more))) subject
      have filled : declarations subject ++ inside ≠ [] :=
        List.append_ne_nil_of_right_ne_nil _ (nonempty (List.cons_ne_nil _ _))
      have carries : subject.styling ≠ none ∨ some (child :: more) ≠ none := Or.inr (by simp)
      have own := watched_element number (some (child :: more)) carries madeInside filled
        selected made
      refine ⟨_, own, fun _ => ?_⟩
      exact List.append_ne_nil_of_left_ne_nil (rule_ne_nil _ _) _

/-- Style blocks are never skipped. -/
theorem exists_watched_map_block_append {settings : Settings} {number : Int} {entries : List Entry}
    {skips : List Skip}
    (follow : ∀ regions, ∃ text, watched settings number regions entries = .ok (text, skips))
    (blocks : List StyleBlock) :
    ∀ regions, ∃ text,
      watched settings number regions (blocks.map Entry.block ++ entries) = .ok (text, skips) := by
  induction blocks with
  | nil => exact follow
  | cons block rest ih =>
      intro regions
      obtain ⟨text, made⟩ := ih (regions + 1)
      refine ⟨region block (regions + 1) ++ text, ?_⟩
      rw [List.map_cons, List.cons_append, watched, made]
      rfl

/-- The outline of a forest is in order, and its stylesheet is written without skipping any element at
any depth. -/
theorem nothing_skipped_of_ofForest? {depth : Int} {forest : List Node} {outline : List Entry}
    (made : Outline.ofForest? depth forest = some outline) :
    Outline.InOrder outline ∧
      ∀ settings : Settings, settings.WellTyped → ∀ number, ∃ text,
        ofOutline settings number outline = .ok text ∧
          watched settings number 0 outline = .ok (text, []) := by
  refine ⟨Outline.inOrder_ofForest? made, ?_⟩
  intro settings typed number
  have entries : outline = (Outline.level depth forest).entries :=
    (Outline.eq_of_ofForest? made).trans (Outline.ofForest_eq depth forest)
  have elements (regions : Nat) : ∃ text, watched settings number regions
      (Outline.level depth forest).elements = .ok (text, []) := by
    obtain ⟨text, noted, -⟩ :=
      exists_watched typed (Outline.normal_level depth forest) number regions
    exact ⟨text, noted⟩
  obtain ⟨text, noted⟩ := exists_watched_map_block_append elements
    (Outline.level depth forest).blocks 0
  rw [← Outline.Level.entries, ← entries] at noted
  refine ⟨text, ?_, noted⟩
  rw [ofOutline, ← fst_watched, noted]
  rfl

end Watching

theorem nothing_skipped_card :
    Outline.InOrder (Outline.ofForest 1 card) ∧ ∃ text,
      ofOutline {} 0 (Outline.ofForest 1 card) = .ok text ∧
        watched {} 0 0 (Outline.ofForest 1 card) = .ok (text, []) := by
  have made : Outline.ofForest? 1 card = some (Outline.ofForest 1 card) :=
    Outline.ofForest?_of_ne_nil (by rw [ofForest_card]; exact List.cons_ne_nil _ _)
  obtain ⟨ordered, writes⟩ := nothing_skipped_of_ofForest? made
  exact ⟨ordered, writes {} Settings.wellTyped_default 0⟩

end Raw

end NestedStyles
