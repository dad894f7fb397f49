import NestedStyles.Proofs.Stylesheet.ClassLists

/-!
Texts in which the keyword only ever begins a whole statement. Of such a text the class lists are known
without any regard to what stands between the statements, and the stylesheet of a forest is one.
-/

set_option autoImplicit false

namespace NestedStyles

namespace Apply

/-- That the keyword begins statements with good class lists, the given ones, and stands nowhere else. -/
inductive Spelled (Good : Text → Prop) : Text → List Text → Prop
  | nil : Spelled Good [] []
  | skip {c : Char} {rest : Text} {found : List Text} (other : ¬ keyword <+: c :: rest)
      (behind : Spelled Good rest found) : Spelled Good (c :: rest) found
  | statement {classes rest : Text} {found : List Text} (good : Good classes)
      (behind : Spelled Good rest found) :
      Spelled Good (Raw.apply classes ++ rest) (classes :: found)

theorem Spelled.lists_eq {Good : Text → Prop} (closed : ∀ classes, Good classes → ';' ∉ classes)
    {text : Text} {found : List Text} (spelled : Spelled Good text found) : lists text = found := by
  induction spelled with
  | nil => rfl
  | skip other behind ih =>
      rw [lists_cons_of_not_opening fun begins => other (starts_with_keyword begins), ih]
  | @statement classes rest found good behind ih =>
      rw [yields_apply (closed classes good), ih, List.singleton_append]

/-- What a text adds to the statements of every text that is spelled so and starts with it. -/
def Spells (Good : Text → Prop) (text : Text) (found : List Text) : Prop :=
  ∀ rest more, Spelled Good rest more → Spelled Good (text ++ rest) (found ++ more)

section Spells

variable {Good : Text → Prop}

theorem Spells.spelled {text : Text} {found : List Text} (spells : Spells Good text found) :
    Spelled Good text found := by
  have whole := spells [] [] .nil
  rwa [List.append_nil, List.append_nil] at whole

theorem Spells.append {front back : Text} {first second : List Text} (left : Spells Good front first)
    (right : Spells Good back second) : Spells Good (front ++ back) (first ++ second) := by
  intro rest more spelled
  rw [List.append_assoc, List.append_assoc]
  exact left _ _ (right rest more spelled)

theorem spells_of_not_mem {text : Text} (absent : '@' ∉ text) : Spells Good text [] := by
  intro rest more spelled
  induction text with
  | nil => exact spelled
  | cons c text ih =>
      rw [List.mem_cons, not_or] at absent
      refine .skip ?_ (ih absent.2)
      intro starts
      exact absent.1 (List.cons_prefix_cons.mp starts).1

/-- A text without the keyword adds nothing, once a character that is not in the keyword keeps it apart
from what follows. -/
theorem spells_of_not_infix {text : Text} {c : Char} (quiet : Quiet text) (outside : c ∉ keyword) :
    Spells Good (text ++ [c]) [] := by
  intro rest more spelled
  rw [List.append_assoc, List.singleton_append, List.nil_append]
  induction text with
  | nil =>
      refine .skip ?_ spelled
      intro starts
      have empty : keyword <+: [] := prefix_of_prefix_append_cons outside starts
      exact absurd (List.prefix_nil.mp empty) (by decide)
  | cons d text ih =>
      refine .skip ?_ (ih fun inside => quiet (List.infix_cons_iff.mpr (Or.inr inside)))
      intro starts
      have front : keyword <+: d :: text := prefix_of_prefix_append_cons outside starts
      exact quiet front.isInfix

theorem passes_spells : Raw.Passes Quiet fun text => Spells Good text [] where
  unmarked := by
    intro text unmarked
    exact ⟨quiet_of_not_mem unmarked.1, spells_of_not_mem unmarked.1⟩
  append := Spells.append
  shown := by
    intro text c quiet follows
    exact spells_of_not_infix quiet (not_mem_keyword follows)

theorem reads_spells : Reads Good (Spells Good) where
  append := Spells.append
  passes := passes_spells
  opening := fun quiet => spells_of_not_infix quiet (by decide)
  closing := spells_of_not_mem (by decide)
  statement := fun good _ _ spelled => .statement good spelled

end Spells

end Apply

end NestedStyles
