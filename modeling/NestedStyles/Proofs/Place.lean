import NestedStyles.Text.Basic

/-!
Places in a forest, for any kind of items that have a list of items below them. The place of an
ancestor is a shorter beginning of a place, and places in document order ascend in the order of
lists.
-/

set_option autoImplicit false

namespace NestedStyles

/-- Where an item of a forest stands: its number among its siblings, counted from 0, behind the
numbers of its ancestors from the outermost on. -/
abbrev Place := List Nat

namespace Place

def ancestors (place : Place) : Nat :=
  place.length - 1

/-- The place behind one more tree at the front of the forest. -/
def next : Place → Place
  | [] => []
  | index :: rest => (index + 1) :: rest

variable {α : Type} (below : α → List α)

/-- What stands at a place of a forest whose items have the items that `below` gives. -/
def at? : List α → Place → Option α
  | _, [] => none
  | forest, [index] => forest[index]?
  | forest, index :: inner :: rest =>
    forest[index]?.bind fun item => at? (below item) (inner :: rest)

@[simp] theorem at?_nil (forest : List α) : at? below forest [] = none := by
  cases forest <;> rfl

@[simp] theorem at?_empty (place : Place) : at? below [] place = none := by
  rcases place with _ | ⟨index, _ | ⟨inner, rest⟩⟩ <;> rfl

theorem at?_singleton (forest : List α) (index : Nat) :
    at? below forest [index] = forest[index]? := by
  cases forest <;> rfl

theorem at?_cons_cons (forest : List α) (index inner : Nat) (rest : Place) :
    at? below forest (index :: inner :: rest) =
      forest[index]?.bind fun item => at? below (below item) (inner :: rest) := by
  cases forest <;> rfl

theorem at?_cons_of_ne_nil {rest : Place} (deeper : rest ≠ []) (forest : List α) (index : Nat) :
    at? below forest (index :: rest) =
      forest[index]?.bind fun item => at? below (below item) rest := by
  obtain ⟨inner, more, rfl⟩ := List.exists_cons_of_ne_nil deeper
  rw [at?_cons_cons]

@[simp] theorem at?_cons_succ (item : α) (forest : List α) (index : Nat) (rest : Place) :
    at? below (item :: forest) ((index + 1) :: rest) = at? below forest (index :: rest) := by
  cases rest with
  | nil => simp only [at?_singleton, List.getElem?_cons_succ]
  | cons inner rest => simp only [at?_cons_cons, List.getElem?_cons_succ]

@[simp] theorem at?_cons_next (item : α) (forest : List α) (place : Place) :
    at? below (item :: forest) (next place) = at? below forest place := by
  cases place with
  | nil => rw [next, at?_nil, at?_nil]
  | cons index rest => rw [next, at?_cons_succ]

/-- Something stands only at places that are not empty. -/
theorem ne_nil_of_at? {forest : List α} {place : Place} {item : α}
    (stands : at? below forest place = some item) : place ≠ [] := by
  rintro rfl
  rw [at?_nil] at stands
  cases stands

theorem forest_ne_nil_of_at? {forest : List α} {place : Place} {item : α}
    (stands : at? below forest place = some item) : forest ≠ [] := by
  rintro rfl
  rw [at?_empty] at stands
  cases stands

/-- Something in a forest has a property exactly if the first root has it, or something below that
root, or something in the rest of the forest. -/
theorem exists_at?_cons {P : α → Prop} (item : α) (forest : List α) :
    (∃ place found, at? below (item :: forest) place = some found ∧ P found) ↔
      P item ∨ (∃ place found, at? below (below item) place = some found ∧ P found) ∨
        ∃ place found, at? below forest place = some found ∧ P found := by
  constructor
  · rintro ⟨_ | ⟨index, rest⟩, found, stands, holds⟩
    · cases stands
    cases index with
    | succ index =>
        rw [at?_cons_succ] at stands
        exact Or.inr (Or.inr ⟨_, found, stands, holds⟩)
    | zero =>
        cases rest with
        | nil =>
            cases stands
            exact Or.inl holds
        | cons inner rest => exact Or.inr (Or.inl ⟨_, found, stands, holds⟩)
  · rintro (holds | ⟨place, found, stands, holds⟩ | ⟨place, found, stands, holds⟩)
    · exact ⟨[0], item, rfl, holds⟩
    · obtain ⟨inner, rest, rfl⟩ := List.exists_cons_of_ne_nil (ne_nil_of_at? below stands)
      exact ⟨0 :: inner :: rest, found, stands, holds⟩
    · exact ⟨next place, found, by rw [at?_cons_next, stands], holds⟩

/-- What stands at a longer place is one of the items below what stands in front of it. -/
theorem at?_concat {place : Place} (inhabited : place ≠ []) (index : Nat) :
    ∀ forest, at? below forest (place ++ [index]) =
      (at? below forest place).bind fun item => (below item)[index]? := by
  induction place with
  | nil => exact absurd rfl inhabited
  | cons first rest ih =>
      intro forest
      rw [List.cons_append, at?_cons_of_ne_nil below (List.concat_ne_nil index rest)]
      by_cases last : rest = []
      · subst last
        simp only [List.nil_append, at?_singleton]
      · rw [at?_cons_of_ne_nil below last, Option.bind_assoc]
        simp only [ih last]

section Levels

variable {Level : Type} (spot : Level → Nat → Nat) (inside : Level → Nat → Level)

/-- Where a place is led to level by level: each index becomes its spot in its level, and what
follows is led on in the level inside. -/
def lead : Level → Place → Place
  | _, [] => []
  | level, index :: rest => spot level index :: lead (inside level index) rest

@[simp] theorem lead_nil (level : Level) : lead spot inside level [] = [] := rfl

theorem lead_cons (level : Level) (index : Nat) (rest : Place) :
    lead spot inside level (index :: rest) =
      spot level index :: lead spot inside (inside level index) rest := rfl

@[simp] theorem length_lead (place : Place) :
    ∀ level, (lead spot inside level place).length = place.length := by
  induction place with
  | nil => exact fun level => rfl
  | cons index rest ih =>
      intro level
      rw [lead_cons, List.length_cons, ih, List.length_cons]

theorem lead_eq_nil_iff {level : Level} {place : Place} :
    lead spot inside level place = [] ↔ place = [] := by
  rw [← List.length_eq_zero_iff, length_lead, List.length_eq_zero_iff]

theorem lead_concat (place : Place) (index : Nat) :
    ∀ level, lead spot inside level (place ++ [index]) =
      lead spot inside level place ++ [spot (place.foldl inside level) index] := by
  induction place with
  | nil => exact fun level => rfl
  | cons first rest ih =>
      intro level
      rw [List.cons_append, lead_cons, lead_cons, ih, List.cons_append, List.foldl_cons]

/-- The parent is led to the parent. -/
theorem lead_dropLast (place : Place) :
    ∀ level, lead spot inside level place.dropLast = (lead spot inside level place).dropLast := by
  induction place with
  | nil => exact fun level => rfl
  | cons index rest ih =>
      intro level
      cases rest with
      | nil => rfl
      | cons inner more =>
          rw [List.dropLast_cons_cons, lead_cons, ih]
          rfl

/-- That on the places of a `way` the spots of a level ascend with the indices. -/
structure Ascends (way : Level → Place → Prop) : Prop where
  step : ∀ level index rest, way level (index :: rest) → way (inside level index) rest
  spots : ∀ level index rest other others, way level (index :: rest) →
    way level (other :: others) → index < other → spot level index < spot level other

variable {spot inside} {way : Level → Place → Prop}

theorem Ascends.spot_inj (ascends : Ascends spot inside way) {level : Level} {index other : Nat}
    {rest others : Place} (onLeft : way level (index :: rest))
    (onRight : way level (other :: others)) :
    spot level index = spot level other ↔ index = other := by
  have upward := ascends.spots level index rest other others onLeft onRight
  have downward := ascends.spots level other others index rest onRight onLeft
  refine ⟨fun same => ?_, congrArg (spot level)⟩
  omega

theorem Ascends.spot_lt_iff (ascends : Ascends spot inside way) {level : Level} {index other : Nat}
    {rest others : Place} (onLeft : way level (index :: rest))
    (onRight : way level (other :: others)) :
    spot level index < spot level other ↔ index < other := by
  have upward := ascends.spots level index rest other others onLeft onRight
  have downward := ascends.spots level other others index rest onRight onLeft
  have apart := ascends.spot_inj onLeft onRight
  refine ⟨fun less => ?_, upward⟩
  omega

/-- Document order stays where spots ascend. -/
theorem Ascends.lead_lt_iff (ascends : Ascends spot inside way) (left : Place) :
    ∀ level right, way level left → way level right →
      (lead spot inside level left < lead spot inside level right ↔ left < right) := by
  induction left with
  | nil =>
      intro level right _ _
      cases right with
      | nil => rfl
      | cons index rest => simp [lead]
  | cons index rest ih =>
      intro level right onLeft onRight
      cases right with
      | nil => simp [lead]
      | cons other others =>
          rw [lead_cons, lead_cons, List.cons_lt_cons_iff, List.cons_lt_cons_iff,
            ascends.spot_lt_iff onLeft onRight, ascends.spot_inj onLeft onRight]
          refine or_congr_right (and_congr_right ?_)
          rintro rfl
          exact ih _ others (ascends.step _ _ _ onLeft) (ascends.step _ _ _ onRight)

/-- Ancestors stay ancestors where spots ascend. -/
theorem Ascends.lead_prefix_iff (ascends : Ascends spot inside way) (left : Place) :
    ∀ level right, way level left → way level right →
      (lead spot inside level left <+: lead spot inside level right ↔ left <+: right) := by
  induction left with
  | nil =>
      intro level right _ _
      simp only [lead_nil, List.nil_prefix]
  | cons index rest ih =>
      intro level right onLeft onRight
      cases right with
      | nil => simp [lead]
      | cons other others =>
          rw [lead_cons, lead_cons, List.cons_prefix_cons, List.cons_prefix_cons,
            ascends.spot_inj onLeft onRight]
          refine and_congr_right ?_
          rintro rfl
          exact ih _ others (ascends.step _ _ _ onLeft) (ascends.step _ _ _ onRight)

end Levels

end Place

end NestedStyles
