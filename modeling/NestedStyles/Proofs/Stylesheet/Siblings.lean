import NestedStyles.Proofs.Stylesheet.Heading
import NestedStyles.Stylesheet.Raw

/-!
One equation for each kind of entry in a list of siblings, whatever children an element has. An
element gets its rule after its children were written and before its siblings are.
-/

set_option autoImplicit false

namespace NestedStyles

/-- Induction along an outline: over the children of its first element and over what follows. -/
theorem Entry.outline_induction {P : List Entry → Prop} (nil : P [])
    (block : ∀ block rest, P rest → P (.block block :: rest))
    (element : ∀ subject children rest, P (children.getD []) → P rest →
      P (.element subject children :: rest)) : ∀ entries, P entries
  | [] => nil
  | .block first :: rest => block first rest (outline_induction nil block element rest)
  | .element subject none :: rest =>
    element subject none rest nil (outline_induction nil block element rest)
  | .element subject (some children) :: rest =>
    element subject (some children) rest (outline_induction nil block element children)
      (outline_induction nil block element rest)

namespace Raw

/-- The rule of an element. There is none if nothing stands between its braces, and then it needs no
heading either. -/
def ruleUnlessEmpty (heading : Except NamingFault Text) : Text → Except NamingFault Text
  | [] => .ok []
  | c :: rest => heading.map fun front => rule front (c :: rest)

theorem ruleUnlessEmpty_of_ne_nil (heading : Except NamingFault Text) {body : Text}
    (filled : body ≠ []) : ruleUnlessEmpty heading body = heading.map fun front => rule front body := by
  cases body with
  | nil => exact absurd rfl filled
  | cons c rest => rfl

variable [Romanization] (settings : Settings) (number : Int) (regions : Nat)

@[simp] theorem siblings_nil : siblings settings number regions [] = .ok [] := by
  rw [siblings]

theorem siblings_block (block : StyleBlock) (rest : List Entry) :
    siblings settings number regions (.block block :: rest) =
      (siblings settings number (regions + 1) rest).map (region block (regions + 1) ++ ·) := by
  rw [siblings]
  cases siblings settings number (regions + 1) rest <;> rfl

/-- An element is written after its children, with the number that it hands on to them. -/
theorem siblings_element (subject : Subject) (children : Option (List Entry)) (rest : List Entry) :
    siblings settings number regions (.element subject children :: rest) =
      (siblings settings (nextNumber number children) 0 (children.getD [])).bind fun below =>
        (ruleUnlessEmpty (Selector.headed settings (nextNumber number children) subject)
          (declarations subject ++ below)).bind fun own =>
            (siblings settings (nextNumber number children) regions rest).map (own ++ ·) := by
  have skips (others : Except NamingFault Text) : others = others.map (([] : Text) ++ ·) := by
    cases others <;> rfl
  have writes (heading others : Except NamingFault Text) (c : Char) (more : Text) :
      (do
        let heading ← heading
        let others ← others
        return rule heading (c :: more) ++ others) =
      (ruleUnlessEmpty heading (c :: more)).bind fun own => others.map (own ++ ·) := by
    cases heading <;> cases others <;> rfl
  cases children with
  | none =>
      rw [siblings, Option.getD_none, siblings_nil, Except.bind, List.append_nil]
      cases declarations subject with
      | nil => exact skips _
      | cons c more => exact writes _ _ c more
  | some children =>
      rw [siblings, Option.getD_some]
      cases siblings settings (nextNumber number (some children)) 0 children with
      | error fault => rfl
      | ok below =>
          simp only [bind, Except.bind]
          cases declarations subject ++ below with
          | nil => exact skips _
          | cons c more => exact writes _ _ c more

/-- The rule of an element that has something between its braces stands in front of what follows. -/
theorem siblings_element_of_ne_nil {subject : Subject} {children : Option (List Entry)}
    {rest : List Entry} {selector below others : Text}
    (nested : siblings settings (nextNumber number children) 0 (children.getD []) = .ok below)
    (filled : declarations subject ++ below ≠ [])
    (selected : Selector.ofSubject settings (nextNumber number children) subject = .ok selector)
    (following : siblings settings (nextNumber number children) regions rest = .ok others) :
    siblings settings number regions (.element subject children :: rest) =
      .ok (rule (Selector.headerOf settings subject ++ selector) (declarations subject ++ below) ++
        others) := by
  rw [siblings_element, nested, Except.bind, ruleUnlessEmpty_of_ne_nil _ filled,
    Selector.headed_of_ofSubject selected, following]
  rfl

end Raw

end NestedStyles
