import NestedStyles.Stylesheet.Apply
import NestedStyles.Stylesheet.Raw

/-!
The `@apply` statements of a text, read from left to right.

`Yields text found` says that the statements of a text are known whatever follows it. It holds of the
pieces of a stylesheet one by one and passes to the whole.
-/

set_option autoImplicit false

namespace NestedStyles

theorem Text.after?_append (lead rest : Text) : Text.after? lead (lead ++ rest) = some rest := by
  rw [Text.after?, if_pos (List.isPrefixOf_iff_prefix.mpr (List.prefix_append lead rest)),
    List.drop_left]

namespace Apply

/-- What begins a class list: the keyword and a space. -/
def opening : Text := keyword ++ [' ']

theorem opening_eq_cons : opening = '@' :: "apply ".toList := by decide

/-- The class lists of the statements of a text: each is read from behind `@apply ` up to the next
semicolon. The number counts the characters of the last statement that are still to be skipped. -/
def listsFrom : Nat → Text → List Text
  | _, [] => []
  | skip + 1, _ :: rest => listsFrom skip rest
  | 0, c :: rest =>
    match Text.after? opening (c :: rest) with
    | some body =>
      let classes := body.takeWhile (· != ';')
      classes :: listsFrom (opening.length + classes.length) rest
    | none => listsFrom 0 rest

/-- The class lists of the statements of a text, from left to right. -/
def lists (text : Text) : List Text :=
  listsFrom 0 text

/-- What a text contributes to the class lists of every text that starts with it. -/
def Yields (text : Text) (found : List Text) : Prop :=
  ∀ rest, lists (text ++ rest) = found ++ lists rest

theorem Yields.lists_eq {text : Text} {found : List Text} (yields : Yields text found) :
    lists text = found := by
  have whole := yields []
  rwa [List.append_nil, lists, lists, listsFrom, List.append_nil] at whole

theorem Yields.append {front back : Text} {first second : List Text} (left : Yields front first)
    (right : Yields back second) : Yields (front ++ back) (first ++ second) := by
  intro rest
  rw [List.append_assoc, left, right, List.append_assoc]

theorem listsFrom_eq_drop (skip : Nat) (text : Text) : listsFrom skip text = lists (text.drop skip) := by
  induction skip generalizing text with
  | zero => rfl
  | succ skip ih =>
      cases text with
      | nil => rfl
      | cons c rest => exact ih rest

/-- Where no statement begins, scanning goes on behind the character. -/
theorem lists_cons_of_not_opening {c : Char} {rest : Text} (other : ¬ opening <+: c :: rest) :
    lists (c :: rest) = lists rest := by
  have none : Text.after? opening (c :: rest) = none := by
    rw [Text.after?, if_neg]
    intro starts
    exact other (List.isPrefixOf_iff_prefix.mp starts)
  rw [lists, listsFrom, none]
  rfl

theorem starts_with_keyword {text : Text} (begins : opening <+: text) :
    keyword <+: text :=
  (List.prefix_append keyword [' ']).trans begins

/-- A text that goes on over a character which is not in `needle` can only start with `needle` before
that character. -/
theorem prefix_of_prefix_append_cons {needle text rest : Text} {c : Char} (outside : c ∉ needle)
    (front : needle <+: text ++ c :: rest) : needle <+: text := by
  have closed : text ++ [c] <+: text ++ c :: rest :=
    ⟨rest, by rw [List.append_assoc, List.singleton_append]⟩
  rcases List.prefix_or_prefix_of_prefix front closed with short | long
  · rcases List.prefix_concat_iff.mp short with rfl | inside
    · exact absurd (List.mem_append_right text List.mem_cons_self) outside
    · exact inside
  · exact absurd (long.subset (List.mem_append_right text List.mem_cons_self)) outside

/-- A text without the keyword says nothing, once a character that is not in the keyword keeps it apart
from what follows. -/
theorem yields_of_not_infix {text : Text} {c : Char} (quiet : ¬ keyword <:+: text)
    (outside : c ∉ keyword) : Yields (text ++ [c]) [] := by
  intro rest
  rw [List.append_assoc, List.singleton_append, List.nil_append]
  induction text with
  | nil =>
      refine lists_cons_of_not_opening fun begins => ?_
      have empty : keyword <+: [] :=
        prefix_of_prefix_append_cons outside (starts_with_keyword begins)
      exact absurd (List.prefix_nil.mp empty) (by decide)
  | cons d text ih =>
      have other : ¬ opening <+: d :: (text ++ c :: rest) := by
        intro begins
        have front : keyword <+: d :: text :=
          prefix_of_prefix_append_cons outside (starts_with_keyword begins)
        exact quiet front.isInfix
      rw [List.cons_append, lists_cons_of_not_opening other]
      exact ih fun inside => quiet (List.infix_cons_iff.mpr (Or.inr inside))

/-- Only an at sign can begin a statement. -/
theorem yields_of_not_mem {text : Text} (absent : '@' ∉ text) : Yields text [] := by
  intro rest
  rw [List.nil_append]
  induction text with
  | nil => rfl
  | cons c text ih =>
      rw [List.mem_cons, not_or] at absent
      have other : ¬ opening <+: c :: (text ++ rest) := by
        intro begins
        rw [opening_eq_cons, List.cons_prefix_cons] at begins
        exact absent.1 begins.1
      rw [List.cons_append, lists_cons_of_not_opening other]
      exact ih absent.2

theorem apply_eq (classes : Text) : Raw.apply classes = opening ++ classes ++ [';'] := by
  have word : opening = "@apply ".toList := by decide
  rw [word]
  rfl

/-- A statement gives its class list. -/
theorem yields_apply {classes : Text} (closed : ';' ∉ classes) :
    Yields (Raw.apply classes) [classes] := by
  intro rest
  have written : Raw.apply classes ++ rest = opening ++ (classes ++ ';' :: rest) := by
    rw [apply_eq, List.append_assoc, List.append_assoc]
    rfl
  have taken : (classes ++ ';' :: rest).takeWhile (· != ';') = classes := by
    rw [List.takeWhile_append_of_pos]
    · simp
    · intro c member
      rw [bne_iff_ne]
      rintro rfl
      exact closed member
  have begins : Text.after? opening ('@' :: ("apply ".toList ++ (classes ++ ';' :: rest))) =
      some (classes ++ ';' :: rest) := by
    rw [← List.cons_append, ← opening_eq_cons, Text.after?_append]
  have passed : "apply ".toList ++ (classes ++ ';' :: rest) =
      ("apply ".toList ++ classes ++ [';']) ++ rest := by
    simp
  have count : opening.length + classes.length =
      ("apply ".toList ++ classes ++ [';']).length := by
    simp [opening_eq_cons]
    omega
  rw [written, opening_eq_cons, List.cons_append, lists, listsFrom, begins]
  dsimp only
  rw [taken, listsFrom_eq_drop, count, passed, List.drop_left]
  rfl

example : lists "a\x7b@apply b c;@apply;d\x7b@apply e;\x7d\x7d".toList =
    ["b c".toList, "e".toList] := by
  decide

end Apply

end NestedStyles
