import NestedStyles.Stylesheet.Raw
import NestedStyles.Proofs.Outline.Level

/-!
The numbers that fallback names end with, read off an outline without running through it.
-/

set_option autoImplicit false

namespace NestedStyles

def Entry.hasChildren (entry : Entry) : Bool :=
  !entry.children.isEmpty

namespace Raw

/-- The number for the element at a place: on each level on the way down it grows by one for each
sibling with children, up to and including the one that the way leads through. -/
def numberAt : Int → List Entry → Place → Int
  | number, _, [] => number
  | number, entries, index :: rest =>
    numberAt (number + (entries.take (index + 1)).countP Entry.hasChildren)
      (entries[index]?.elim [] Entry.children) rest

theorem nextNumber_eq (number : Int) (subject : Subject) (children : Option (List Entry)) :
    nextNumber number children =
      number + if (Entry.element subject children).hasChildren then 1 else 0 := by
  rcases children with _ | _ | ⟨child, more⟩ <;>
    simp [nextNumber, Entry.hasChildren, Entry.children]

theorem numberAt_cons_zero (number : Int) (subject : Subject) (children : Option (List Entry))
    (others : List Entry) (rest : Place) :
    numberAt number (.element subject children :: others) (0 :: rest) =
      numberAt (nextNumber number children) (children.getD []) rest := by
  have counted : ((Entry.element subject children :: others).take (0 + 1)).countP Entry.hasChildren =
      if (Entry.element subject children).hasChildren then 1 else 0 := by
    rw [List.take_succ_cons, List.take_zero, List.countP_cons, List.countP_nil, Nat.zero_add]
  rw [numberAt, counted, nextNumber_eq number subject]
  cases (Entry.element subject children).hasChildren <;> rfl

theorem numberAt_cons_succ (number : Int) (subject : Subject) (children : Option (List Entry))
    (others : List Entry) (index : Nat) (rest : Place) :
    numberAt number (.element subject children :: others) ((index + 1) :: rest) =
      numberAt (nextNumber number children) others (index :: rest) := by
  rw [numberAt, numberAt, nextNumber_eq number subject, List.take_succ_cons, List.countP_cons,
    List.getElem?_cons_succ]
  congr 1
  cases (Entry.element subject children).hasChildren with
  | false => simp
  | true =>
      simp
      omega

/-- Whether something holds of every element of an outline, at any depth, and of its number. -/
def ForEach (P : Int → Subject → Prop) (number : Int) (entries : List Entry) : Prop :=
  ∀ place subject children,
    Place.at? Entry.children entries place = some (.element subject children) →
    P (numberAt number entries place) subject

theorem forEach_nil (P : Int → Subject → Prop) (number : Int) : ForEach P number [] := by
  intro place subject children stands
  rw [Place.at?_empty] at stands
  cases stands

/-- Something holds of every element if it holds of the first, of all below it and of all others,
which count on from the first. -/
theorem forEach_cons (P : Int → Subject → Prop) (number : Int) (subject : Subject)
    (children : Option (List Entry)) (rest : List Entry) :
    ForEach P number (.element subject children :: rest) ↔
      P (nextNumber number children) subject ∧
        ForEach P (nextNumber number children) (children.getD []) ∧
        ForEach P (nextNumber number children) rest := by
  constructor
  · intro holds
    refine ⟨?_, ?_, ?_⟩
    · have here := holds [0] subject children rfl
      rwa [numberAt_cons_zero, numberAt] at here
    · intro place inner below stands
      obtain ⟨index, deeper, rfl⟩ := List.exists_cons_of_ne_nil (Place.ne_nil_of_at? _ stands)
      have inside := holds (0 :: index :: deeper) inner below stands
      rwa [numberAt_cons_zero] at inside
    · intro place other below stands
      obtain ⟨index, deeper, rfl⟩ := List.exists_cons_of_ne_nil (Place.ne_nil_of_at? _ stands)
      have behind := holds ((index + 1) :: deeper) other below (by
        rw [Place.at?_cons_succ, stands])
      rwa [numberAt_cons_succ] at behind
  · rintro ⟨here, inside, behind⟩ place other below stands
    rcases place with _ | ⟨_ | index, deeper⟩
    · rw [Place.at?_nil] at stands
      cases stands
    · rw [numberAt_cons_zero]
      cases deeper with
      | nil =>
          cases stands
          exact here
      | cons inner more => exact inside (inner :: more) other below stands
    · rw [Place.at?_cons_succ] at stands
      rw [numberAt_cons_succ]
      exact behind (index :: deeper) other below stands

end Raw

end NestedStyles
