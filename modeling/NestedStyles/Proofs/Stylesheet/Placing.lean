import Mathlib
import NestedStyles.CommandLine.Romanized
import NestedStyles.Proofs.Stylesheet.Heading
import NestedStyles.Proofs.Stylesheet.Numbering
import NestedStyles.Proofs.Stylesheet.Siblings

/-!
The stylesheet of an outline, written from the places of its entries alone. The number of an element is
read off its place: on each level on the way down it grows by the siblings with children, up to and
including the one that the way leads through. `siblings_eq_placed` says that the running numbers of a
stylesheet are these.
-/

set_option autoImplicit false

namespace NestedStyles

namespace Entry

/-- An entry with other entries below it. A style block has none below it. -/
def withChildren : Entry → List Entry → Entry
  | element subject _, children => element subject (some children)
  | block own, _ => block own

end Entry

namespace Raw

/-- For each level on the way to a place, how many siblings have children, up to and including the one
that the way leads through. -/
def counted : List Entry → Place → List Nat
  | _, [] => []
  | entries, index :: rest =>
    (entries.take (index + 1)).countP Entry.hasChildren ::
      counted (entries[index]?.elim [] Entry.children) rest

/-- The number of a style block among the style blocks of its level. On the top level they are counted
on from a number. -/
def regionAt (before : Nat) : List Entry → Place → Nat
  | _, [] => before
  | entries, [index] => before + (entries.take (index + 1)).countP fun entry => !entry.isElement
  | entries, index :: inner :: rest =>
    regionAt 0 (entries[index]?.elim [] Entry.children) (inner :: rest)

/-- The stylesheet of entries if `heading` says what stands in front of the braces of the element at a
place, and `mark` is the number of the style block at a place. -/
def placed (heading : Place → Subject → Except NamingFault Text) (mark : Place → Nat) :
    List Entry → Except NamingFault Text
  | [] => .ok []
  | .block block :: rest =>
    (placed (fun place => heading (Place.next place)) (fun place => mark (Place.next place)) rest).map
      (region block (mark [0]) ++ ·)
  | .element subject children :: rest =>
    (placed (fun place => heading (0 :: place)) (fun place => mark (0 :: place))
        (children.getD [])).bind fun below =>
      (ruleUnlessEmpty (heading [0] subject) (declarations subject ++ below)).bind fun own =>
        (placed (fun place => heading (Place.next place)) (fun place => mark (Place.next place))
          rest).map (own ++ ·)
termination_by entries => sizeOf entries
decreasing_by
  · simp only [List.cons.sizeOf_spec]
    omega
  · cases children <;>
      simp only [List.cons.sizeOf_spec, Entry.element.sizeOf_spec, Option.some.sizeOf_spec,
        Option.getD_none, Option.getD_some, List.nil.sizeOf_spec] <;>
      omega
  · simp only [List.cons.sizeOf_spec]
    omega

/-- The outline with another entry at a place. -/
def replaced : List Entry → Place → Entry → List Entry
  | entries, [], _ => entries
  | entries, [index], entry => entries.set index entry
  | entries, index :: inner :: rest, entry =>
    entries.modify index fun above =>
      above.withChildren (replaced above.children (inner :: rest) entry)

theorem numberAt_eq (place : Place) :
    ∀ number entries, numberAt number entries place = number + (counted entries place).sum := by
  induction place with
  | nil =>
      intro number entries
      simp [numberAt, counted]
  | cons index rest ih =>
      intro number entries
      rw [numberAt, ih, counted, List.sum_cons]
      omega

theorem numberAt_cons_next (number : Int) (entry : Entry) (rest : List Entry) {place : Place}
    (nonempty : place ≠ []) :
    numberAt number (entry :: rest) (Place.next place) =
      numberAt (number + if entry.hasChildren then 1 else 0) rest place := by
  obtain ⟨index, deeper, rfl⟩ := List.exists_cons_of_ne_nil nonempty
  rw [Place.next, numberAt, numberAt, List.take_succ_cons, List.countP_cons,
    List.getElem?_cons_succ]
  congr 1
  cases entry.hasChildren <;> simp
  omega

theorem regionAt_cons_next (before : Nat) (entry : Entry) (rest : List Entry) {place : Place}
    (nonempty : place ≠ []) :
    regionAt before (entry :: rest) (Place.next place) =
      regionAt (before + if entry.isElement then 0 else 1) rest place := by
  rcases place with _ | ⟨index, _ | ⟨inner, deeper⟩⟩
  · exact absurd rfl nonempty
  · rw [Place.next, regionAt, regionAt, List.take_succ_cons, List.countP_cons]
    cases entry.isElement <;> simp
    omega
  · rw [Place.next, regionAt, regionAt, List.getElem?_cons_succ]

theorem regionAt_cons_zero (before : Nat) (entry : Entry) (rest : List Entry) {place : Place}
    (nonempty : place ≠ []) :
    regionAt before (entry :: rest) (0 :: place) = regionAt 0 entry.children place := by
  obtain ⟨index, deeper, rfl⟩ := List.exists_cons_of_ne_nil nonempty
  rw [regionAt, List.getElem?_cons_zero, Option.elim_some]

theorem next_ne_nil {place : Place} (nonempty : place ≠ []) : Place.next place ≠ [] := by
  cases place with
  | nil => exact absurd rfl nonempty
  | cons index rest => exact List.cons_ne_nil _ _

/-- Only what is said of places where something can stand counts. -/
theorem placed_congr (entries : List Entry) :
    ∀ {heading heading' : Place → Subject → Except NamingFault Text} {mark mark' : Place → Nat},
      (∀ place, place ≠ [] → heading place = heading' place) →
      (∀ place, place ≠ [] → mark place = mark' place) →
      placed heading mark entries = placed heading' mark' entries := by
  induction entries using Entry.outline_induction with
  | nil =>
      intro heading heading' mark mark' _ _
      rw [placed, placed]
  | block block rest ih =>
      intro heading heading' mark mark' headings marks
      rw [placed, placed, marks [0] (List.cons_ne_nil _ _),
        ih (fun place nonempty => headings (Place.next place) (next_ne_nil nonempty))
          (fun place nonempty => marks (Place.next place) (next_ne_nil nonempty))]
  | element subject children rest ihChildren ihRest =>
      intro heading heading' mark mark' headings marks
      rw [placed, placed, headings [0] (List.cons_ne_nil _ _),
        ihChildren (fun place _ => headings (0 :: place) (List.cons_ne_nil _ _))
          (fun place _ => marks (0 :: place) (List.cons_ne_nil _ _)),
        ihRest (fun place nonempty => headings (Place.next place) (next_ne_nil nonempty))
          (fun place nonempty => marks (Place.next place) (next_ne_nil nonempty))]

/-- The running numbers are those of the places. -/
theorem siblings_eq_placed [Romanization] (settings : Settings) (entries : List Entry) :
    ∀ number regions, siblings settings number regions entries =
      placed (fun place => Selector.headed settings (numberAt number entries place))
        (regionAt regions entries) entries := by
  induction entries using Entry.outline_induction with
  | nil =>
      intro number regions
      rw [siblings_nil, placed]
  | block block rest ih =>
      intro number regions
      have first : regionAt regions (.block block :: rest) [0] = regions + 1 := rfl
      rw [siblings_block, placed, ih, first]
      congr 1
      apply placed_congr
      · intro place nonempty
        rw [numberAt_cons_next number (.block block) rest nonempty]
        simp only [Entry.hasChildren, Entry.children, List.isEmpty_nil, Bool.not_true,
          Bool.false_eq_true, ↓reduceIte, Int.add_zero]
      · intro place nonempty
        rw [regionAt_cons_next regions (.block block) rest nonempty]
        simp only [Entry.isElement, Bool.false_eq_true, ↓reduceIte]
  | element subject children rest ihChildren ihRest =>
      intro number regions
      have own : numberAt number (.element subject children :: rest) [0] =
          nextNumber number children := by
        rw [numberAt_cons_zero, numberAt]
      rw [siblings_element, placed, ihChildren, ihRest, own]
      congr 1
      · apply placed_congr
        · intro place _
          rw [numberAt_cons_zero]
        · intro place nonempty
          rw [regionAt_cons_zero regions (.element subject children) rest nonempty, Entry.children]
      · funext below
        congr 1
        funext written
        congr 1
        apply placed_congr
        · intro place nonempty
          rw [numberAt_cons_next number (.element subject children) rest nonempty,
            ← nextNumber_eq number subject children]
        · intro place nonempty
          rw [regionAt_cons_next regions (.element subject children) rest nonempty]
          simp only [Entry.isElement, ↓reduceIte, Nat.add_zero]

/-- Under settings of the expected types every outline has a stylesheet. -/
theorem exists_siblings [Romanization] {settings : Settings} (typed : settings.WellTyped)
    (entries : List Entry) :
    ∀ number regions, ∃ text, siblings settings number regions entries = .ok text := by
  induction entries using Entry.outline_induction with
  | nil =>
      intro number regions
      exact ⟨[], siblings_nil settings number regions⟩
  | block block rest ih =>
      intro number regions
      obtain ⟨others, made⟩ := ih number (regions + 1)
      exact ⟨_, by rw [siblings_block, made, Except.map]⟩
  | element subject children rest ihChildren ihRest =>
      intro number regions
      obtain ⟨below, madeBelow⟩ := ihChildren (nextNumber number children) 0
      obtain ⟨others, madeOthers⟩ := ihRest (nextNumber number children) regions
      obtain ⟨selector, selected⟩ :=
        Selector.exists_ofSubject typed (nextNumber number children) subject
      have written : ∃ own, ruleUnlessEmpty
          (Selector.headed settings (nextNumber number children) subject)
          (declarations subject ++ below) = .ok own := by
        rw [Selector.headed_of_ofSubject selected]
        cases declarations subject ++ below with
        | nil => exact ⟨[], rfl⟩
        | cons c more => exact ⟨_, rfl⟩
      obtain ⟨own, wrote⟩ := written
      refine ⟨own ++ others, ?_⟩
      rw [siblings_element, madeBelow, Except.bind, wrote, Except.bind, madeOthers, Except.map]

theorem counted_cons_append (entries : List Entry) (index : Nat) (above rest : Place) :
    counted entries (index :: above ++ rest) =
      (entries.take (index + 1)).countP Entry.hasChildren ::
        counted (entries[index]?.elim [] Entry.children) (above ++ rest) := by
  rw [List.cons_append, counted]

/-- Numbers never decrease along siblings. -/
theorem counted_le_of_le (above : Place) :
    ∀ entries {left right : Nat}, left ≤ right →
      (counted entries (above ++ [left])).sum ≤ (counted entries (above ++ [right])).sum := by
  induction above with
  | nil =>
      intro entries left right ordered
      have shorter : (entries.take (left + 1)).Sublist (entries.take (right + 1)) := by
        apply List.take_sublist_take_left
        omega
      have fewer := shorter.countP_le (p := Entry.hasChildren)
      simp only [List.nil_append, counted, List.sum_cons, List.sum_nil]
      omega
  | cons index above ih =>
      intro entries left right ordered
      rw [counted_cons_append, counted_cons_append, List.sum_cons, List.sum_cons]
      have deeper := ih (entries[index]?.elim [] Entry.children) ordered
      omega

/-- Numbers grow at each sibling with children. -/
theorem counted_lt_of_hasChildren (above : Place) :
    ∀ entries {left right : Nat} {entry : Entry}, left < right →
      Place.at? Entry.children entries (above ++ [right]) = some entry →
      entry.hasChildren = true →
      (counted entries (above ++ [left])).sum < (counted entries (above ++ [right])).sum := by
  induction above with
  | nil =>
      intro entries left right entry ordered stands filled
      rw [List.nil_append, Place.at?_singleton] at stands
      have shorter : (entries.take (left + 1)).Sublist (entries.take right) := by
        apply List.take_sublist_take_left
        omega
      have fewer := shorter.countP_le (p := Entry.hasChildren)
      have last : entries.take (right + 1) = entries.take right ++ [entry] := by
        rw [List.take_add_one, stands, Option.toList_some]
      simp only [List.nil_append, counted, List.sum_cons, List.sum_nil, last, List.countP_append,
        List.countP_singleton, filled, ↓reduceIte]
      omega
  | cons index above ih =>
      intro entries left right entry ordered stands filled
      rw [counted_cons_append, counted_cons_append, List.sum_cons, List.sum_cons]
      have nonempty : above ++ [right] ≠ [] := by simp
      rw [List.cons_append, Place.at?_cons_of_ne_nil _ nonempty] at stands
      obtain ⟨root, found, below⟩ := Option.bind_eq_some_iff.mp stands
      rw [found, Option.elim_some]
      have deeper := ih root.children ordered below filled
      omega

@[simp] theorem replaced_empty (place : Place) (entry : Entry) : replaced [] place entry = [] := by
  rcases place with _ | ⟨index, _ | ⟨inner, rest⟩⟩ <;> simp [replaced]

theorem isEmpty_replaced (entries : List Entry) (place : Place) (entry : Entry) :
    (replaced entries place entry).isEmpty = entries.isEmpty := by
  cases entries with
  | nil => rw [replaced_empty]
  | cons first others =>
      rcases place with _ | ⟨_ | index, _ | ⟨inner, rest⟩⟩ <;> rfl

/-- Below an entry stands what replaces its children. -/
theorem children_withChildren_replaced (above : Entry) (place : Place) (entry : Entry) :
    (above.withChildren (replaced above.children place entry)).children =
      replaced above.children place entry := by
  cases above with
  | block own => rw [Entry.withChildren, Entry.children, replaced_empty]
  | element subject children => rfl

/-- A replacement further down does not show in whether an entry has children. -/
theorem hasChildren_withChildren_replaced (above : Entry) (place : Place) (entry : Entry) :
    (above.withChildren (replaced above.children place entry)).hasChildren = above.hasChildren := by
  rw [Entry.hasChildren, children_withChildren_replaced, isEmpty_replaced, Entry.hasChildren]

theorem hasChildren_set {entries : List Entry} {index : Nat} {entry : Entry}
    (alike : ∀ old, entries[index]? = some old → entry.hasChildren = old.hasChildren)
    (position : Nat) : (entries.set index entry)[position]?.map Entry.hasChildren =
      entries[position]?.map Entry.hasChildren := by
  rw [List.getElem?_set]
  split
  · rename_i here
    subst here
    split
    · rename_i inside
      rw [List.getElem?_eq_getElem inside, Option.map_some, Option.map_some,
        alike _ (List.getElem?_eq_getElem inside)]
    · rename_i outside
      rw [List.getElem?_eq_none (by omega)]
  · rfl

theorem hasChildren_modify (entries : List Entry) (index : Nat) {change : Entry → Entry}
    (alike : ∀ old, (change old).hasChildren = old.hasChildren) (position : Nat) :
    (entries.modify index change)[position]?.map Entry.hasChildren =
      entries[position]?.map Entry.hasChildren := by
  rw [List.getElem?_modify, Option.map_eq_map]
  cases entries[position]? with
  | none => rfl
  | some sibling =>
      by_cases here : index = position
      · simp only [here, ↓reduceIte, Option.map_some, alike]
      · simp only [here, ↓reduceIte, Option.map_some]

/-- Of the siblings nothing counts but whether they have children. -/
theorem countP_take_congr {left right : List Entry}
    (same : ∀ index : Nat,
      left[index]?.map Entry.hasChildren = right[index]?.map Entry.hasChildren)
    (count : Nat) :
    (left.take count).countP Entry.hasChildren = (right.take count).countP Entry.hasChildren := by
  have flags : left.map Entry.hasChildren = right.map Entry.hasChildren := by
    apply List.ext_getElem?
    intro index
    rw [List.getElem?_map, List.getElem?_map, same]
  have counts (entries : List Entry) : (entries.take count).countP Entry.hasChildren =
      ((entries.map Entry.hasChildren).take count).countP id := by
    rw [← List.map_take, List.countP_map, Function.id_comp]
  rw [counts, counts, flags]

/-- Of an earlier sibling and all that is below it, only whether it has children shows in a number. -/
theorem counted_replaced (above : Place) :
    ∀ entries {earlier index : Nat} {rest : Place} {entry : Entry}, earlier < index →
      (∀ old, Place.at? Entry.children entries (above ++ [earlier]) = some old →
        entry.hasChildren = old.hasChildren) →
      counted (replaced entries (above ++ [earlier]) entry) (above ++ index :: rest) =
        counted entries (above ++ index :: rest) := by
  induction above with
  | nil =>
      intro entries earlier index rest entry before alike
      rw [List.nil_append, List.nil_append, replaced, counted, counted,
        List.getElem?_set_ne (by omega)]
      congr 1
      apply countP_take_congr
      refine hasChildren_set fun old stands => alike old ?_
      rw [List.nil_append, Place.at?_singleton, stands]
  | cons root above ih =>
      intro entries earlier index rest entry before alike
      obtain ⟨inner, deeper, split⟩ :=
        List.exists_cons_of_ne_nil (show above ++ [earlier] ≠ [] by simp)
      rw [List.cons_append, List.cons_append, split, replaced, ← split, counted, counted,
        List.getElem?_modify_eq]
      congr 1
      · apply countP_take_congr
        exact hasChildren_modify entries root fun sibling =>
          hasChildren_withChildren_replaced sibling _ entry
      · cases found : entries[root]? with
        | none => rfl
        | some sibling =>
            rw [Option.map_eq_map, Option.map_some, Option.elim_some, Option.elim_some,
              children_withChildren_replaced]
            apply ih _ before
            intro old stands
            apply alike
            rw [List.cons_append, Place.at?_cons_of_ne_nil _ (by simp), found, Option.bind_some,
              stands]

/-- An outline is written with the numbers of its places, the starting number added to the counts of all
levels on the way. Along siblings they never decrease, they grow at each sibling with children, and
another entry in the place of an earlier sibling changes none of them as long as both have children or
neither has. -/
theorem ofOutline_eq_placed [Romanization] {settings : Settings} (typed : settings.WellTyped)
    (number : Int) (entries : List Entry) :
    (∃ text, ofOutline settings number entries = .ok text ∧
      placed (fun place => Selector.headed settings (number + (counted entries place).sum))
        (regionAt 0 entries) entries = .ok text) ∧
    (∀ (above : Place) (left right : Nat), left ≤ right →
      (counted entries (above ++ [left])).sum ≤ (counted entries (above ++ [right])).sum) ∧
    (∀ (above : Place) (left right : Nat) (entry : Entry), left < right →
      Place.at? Entry.children entries (above ++ [right]) = some entry →
      entry.hasChildren = true →
      (counted entries (above ++ [left])).sum < (counted entries (above ++ [right])).sum) ∧
    ∀ (above : Place) (earlier index : Nat) (rest : Place) (entry : Entry), earlier < index →
      (∀ old, Place.at? Entry.children entries (above ++ [earlier]) = some old →
        entry.hasChildren = old.hasChildren) →
      counted (replaced entries (above ++ [earlier]) entry) (above ++ index :: rest) =
        counted entries (above ++ index :: rest) := by
  refine ⟨?_, ?_, ?_, ?_⟩
  · obtain ⟨text, made⟩ := exists_siblings typed entries number 0
    have numbers : numberAt number entries = fun place => number + (counted entries place).sum :=
      funext fun place => numberAt_eq place number entries
    refine ⟨text, made, ?_⟩
    rw [← made, siblings_eq_placed, numbers]
  · exact fun above left right ordered => counted_le_of_le above entries ordered
  · exact fun above left right entry before stands filled =>
      counted_lt_of_hasChildren above entries before stands filled
  · exact fun above earlier index rest entry before alike =>
      counted_replaced above entries before alike

/-- Style blocks on two levels, an element that only holds one of them, an element with an empty list of
children, and a styled leaf two levels deep. -/
def panel : List Entry :=
  [.block { content := "a".toList },
    .element { tag := "div".toList } (some [.block { content := "b".toList }]),
    .element { tag := "p".toList, styling := some ⟨some "x".toList, none⟩ } (some []),
    .element { tag := "div".toList }
      (some [.element { tag := "div".toList, styling := some ⟨some "y".toList, none⟩ } none])]

theorem ofOutline_panel :
    (∃ text, ofOutline {} 3 panel = .ok text ∧
      placed (fun place => Selector.headed {} (3 + (counted panel place).sum))
        (regionAt 0 panel) panel = .ok text) ∧
    (counted panel [1]).sum ≤ (counted panel [2]).sum ∧
    (counted panel [2]).sum < (counted panel [3]).sum ∧
    counted (replaced panel [1] (.element { tag := "b".toList } (some panel))) [3, 0] =
      counted panel [3, 0] := by
  obtain ⟨written, never, grows, alike⟩ := ofOutline_eq_placed Settings.wellTyped_default 3 panel
  refine ⟨written, never [] 1 2 (by decide), grows [] 2 3 _ (by decide) rfl rfl, ?_⟩
  apply alike [] 1 3 [0] _ (by decide)
  intro old stands
  cases stands
  rfl

example : counted panel [3, 0] = [2, 0] := by
  decide

end Raw

end NestedStyles
