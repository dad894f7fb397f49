import NestedStyles.Markup.Node
import NestedStyles.Text.Blank

/-!
The outline of a document: what of it a stylesheet is written from. An outline is a list of
entries, each a block of ready style rules or an element that carries styling, on itself or below.
-/

set_option autoImplicit false

namespace NestedStyles

/-- The cleaned class list and the cleaned inline style of an element. -/
structure Styling where
  classes : Option Text := none
  inlineStyle : Option Text := none
  deriving DecidableEq, Repr

namespace Styling

/-- The styling that attributes give: the first `class` and the first `style`, cleaned; none if
neither holds anything but blanks. -/
def ofAttributes? (attributes : Attributes) : Option Styling :=
  let classes := (attributes.first? "class".toList).bind Text.clean?
  let inlineStyle := (attributes.first? "style".toList).bind Text.clean?
  if classes.isNone && inlineStyle.isNone then none else some ⟨classes, inlineStyle⟩

end Styling

/-- The text of a style element, which stands in the stylesheet as it is. -/
structure StyleBlock where
  content : Text
  label : Text := "STYLE".toList
  deriving DecidableEq, Inhabited, Repr

namespace StyleBlock

/-- The style block of a style element: its own texts, one after the other. -/
def ofChildren (children : List Node) : StyleBlock where
  content := (children.filterMap Node.text?).flatten

end StyleBlock

/-- What the outline knows of an element besides its children. -/
structure Subject where
  tag : Text
  /-- The label that the comments in front of the element give. -/
  label : Text := []
  /-- The depth at which the element stands. -/
  depth : Int := 1
  styling : Option Styling := none
  deriving DecidableEq, Repr

/-- An entry of an outline. An element without children may have no list of them or an empty
one. -/
inductive Entry where
  | block (block : StyleBlock)
  | element (subject : Subject) (children : Option (List Entry))
  deriving Inhabited

end NestedStyles
