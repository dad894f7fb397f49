import NestedStyles.Text.Case
import NestedStyles.Text.Word.Table

/-!
Word characters: letters, numbers and the underscore.
-/

set_option autoImplicit false

namespace NestedStyles

namespace Text

def isWordChar (c : Char) : Bool :=
  c.isAlphanum || c == '_' || inRanges wordRanges c

/-- Whether a word that ends in front of the text ends there. -/
def endsWord : Text → Bool
  | [] => true
  | c :: _ => !isWordChar c

end Text

end NestedStyles
