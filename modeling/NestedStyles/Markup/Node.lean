import NestedStyles.Text.Basic

/-!
The nodes of marked-up text as a stylesheet is drawn from them: text, comments and elements, in
document order.
-/

set_option autoImplicit false

namespace NestedStyles

/-- The attributes of an element in the order they are written. -/
abbrev Attributes := List (Text × Text)

def Attributes.first? (attributes : Attributes) (name : Text) : Option Text :=
  (attributes.find? (fun entry => entry.1 == name)).map (·.2)

inductive Node where
  | text (content : Text)
  | comment (content : Text)
  | element (tag : Text) (attributes : Attributes) (children : List Node)
  deriving Inhabited

namespace Node

def text? : Node → Option Text
  | text content => some content
  | _ => none

/-- The tag of the elements that hold style rules. -/
def styleTag : Text := "style".toList

/-- Whether a node is an element that holds style rules. -/
def isStyle : Node → Bool
  | element tag _ _ => tag == styleTag
  | _ => false

/-- Whether a node counts as a neighbour when labels are looked for: comments do, and elements
other than style elements. -/
def isCandidate : Node → Bool
  | text _ => false
  | comment _ => true
  | element tag _ _ => tag != styleTag

end Node

end NestedStyles
