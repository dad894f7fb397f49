import NestedStyles.Outline.Entry
import NestedStyles.Settings.Basic
import NestedStyles.Stylesheet.Slug

/-!
Selectors of the elements of an outline, and the comments that head their rules.
-/

set_option autoImplicit false

namespace NestedStyles

/-- Which naming setting has a value that no class name can be made with. -/
inductive NamingFault where
  | separator (given : Value)
  | opening (given : Value)
  | ending (given : Value)
  | maxLength

namespace NamingFault

def message : NamingFault → Text
  | separator given => "replace() argument 2 must be str, not ".toList ++ given.typeName
  | opening (.list _) => "can only concatenate list (not \"str\") to list".toList
  | opening given =>
    "unsupported operand type(s) for +: '".toList ++ given.typeName ++ "' and 'str'".toList
  | ending given =>
    "can only concatenate str (not \"".toList ++ given.typeName ++ "\") to str".toList
  | maxLength => "slice indices must be integers or None or have an __index__ method".toList

end NamingFault

namespace Selector

variable [Romanization]

/-- The text up to a length. A negative length counts from the end. -/
def cut (length : Int) (text : Text) : Text :=
  text.take (if 0 ≤ length then length else text.length + length).toNat

/-- The text up to the length that a setting gives; no length means all of it. -/
def cutBy (length : Value) (text : Text) : Except NamingFault Text :=
  match length with
  | .null => .ok text
  | value =>
    match value.whole? with
    | some n => .ok (cut n text)
    | none => .error .maxLength

def textOf (fault : Value → NamingFault) (value : Value) : Except NamingFault Text :=
  match value.text? with
  | some text => .ok text
  | none => .error (fault value)

/-- The class name that a label gives. The ending is never cut. -/
def className (settings : Settings) (label : Text) : Except NamingFault Text := do
  let naming := settings.naming
  let separator ← textOf .separator naming.separator
  let opening ← textOf .opening naming.opening
  let name ← cutBy settings.maxNameLength
    (opening ++ Slug.ofText naming.lowercase.isOn separator label)
  return name ++ (← textOf .ending naming.ending)

/-- The comment that heads the rule of an element: its label or else its tag, and its depth. -/
def header (subject : Subject) : Text :=
  let title := if subject.label.isEmpty then subject.tag else subject.label
  "/* ".toList ++ title ++ " -> ".toList ++ Text.ofInt subject.depth ++ " */".toList

def genericTags : List Text :=
  ["div".toList]

/-- The selector of an element: a class made from its label if the settings ask for it, else its
tag, else a class made from its tag and a number. -/
def ofSubject (settings : Settings) (number : Int) (subject : Subject) :
    Except NamingFault Text :=
  if !subject.label.isEmpty && settings.namesFromComments.isOn then do
    return '.' :: (← className settings subject.label)
  else if genericTags.contains subject.tag then
    .ok (".class-".toList ++ subject.tag ++ '-' :: Text.ofInt number)
  else .ok subject.tag

/-- The selector of an element, behind its header if the settings ask for one. -/
def headed (settings : Settings) (number : Int) (subject : Subject) :
    Except NamingFault Text := do
  let selector ← ofSubject settings number subject
  return (if settings.printComments.isOn then header subject else []) ++ selector

end Selector

end NestedStyles
