import NestedStyles.Stylesheet.Apply
import NestedStyles.Stylesheet.Layout
import NestedStyles.Stylesheet.Region

/-!
The finished form of a stylesheet: laid out, with the `@apply` statements and the marks of regions
put right afterwards.
-/

set_option autoImplicit false

namespace NestedStyles

def formatStylesheet (settings : FormatSettings) (text : Text) : Except LayoutFault Text := do
  let laidOut ← Layout.ofText (← PageStyle.ofSettings settings) text
  return Region.separate (Apply.tidyAll laidOut)

end NestedStyles
