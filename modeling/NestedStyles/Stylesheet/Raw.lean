import NestedStyles.Stylesheet.Selector

/-!
The stylesheet of an outline before it is laid out: nested rules without any space between them,
and the style blocks between region marks.
-/

set_option autoImplicit false

namespace NestedStyles

namespace Raw

/-- A style block between the marks of a region, with its number. -/
def region (block : StyleBlock) (number : Int) : Text :=
  "// #region ".toList ++ block.label ++ " #".toList ++ Text.ofInt number ++ "\n\n".toList ++
    block.content ++ "\n// #endregion\n\n".toList

def apply (classes : Text) : Text :=
  "@apply ".toList ++ classes ++ [';']

def inlineStyle (style : Text) : Text :=
  '\n' :: Text.withEnding [';'] style ++ ['\n']

/-- A part that is there and is not empty, as it is written. -/
def part (write : Text → Text) : Option Text → Text
  | some (c :: rest) => write (c :: rest)
  | _ => []

/-- What stands in the rule of an element for itself. -/
def declarations (subject : Subject) : Text :=
  match subject.styling with
  | none => []
  | some styling => part apply styling.classes ++ part inlineStyle styling.inlineStyle

def rule (heading body : Text) : Text :=
  heading ++ '{' :: body ++ ['}']

/-- The number for the fallback names of an element and what follows it: one more than before if
the element has children. -/
def nextNumber (number : Int) : Option (List Entry) → Int
  | some (_ :: _) => number + 1
  | _ => number

variable [Romanization]

/-- The stylesheet of a list of siblings. `number` is for fallback names; `regions` counts the style
blocks before these siblings. -/
def siblings (settings : Settings) (number : Int) (regions : Nat) :
    List Entry → Except NamingFault Text
  | [] => .ok []
  | .block block :: rest => do
    let others ← siblings settings number (regions + 1) rest
    return region block (regions + 1) ++ others
  | .element subject none :: rest =>
    match declarations subject with
    | [] => siblings settings number regions rest
    | body => do
      let heading ← Selector.headed settings number subject
      let others ← siblings settings number regions rest
      return rule heading body ++ others
  | .element subject (some children) :: rest => do
    let next := nextNumber number (some children)
    let below ← siblings settings next 0 children
    match declarations subject ++ below with
    | [] => siblings settings next regions rest
    | body => do
      let heading ← Selector.headed settings next subject
      let others ← siblings settings next regions rest
      return rule heading body ++ others
termination_by entries => sizeOf entries
decreasing_by
  all_goals
    simp only [List.cons.sizeOf_spec, Entry.element.sizeOf_spec, Option.some.sizeOf_spec]
    omega

/-- The stylesheet of an outline, its fallback names counting from a number. -/
def ofOutline (settings : Settings) (number : Int) (entries : List Entry) :
    Except NamingFault Text :=
  siblings settings number 0 entries

end Raw

end NestedStyles
