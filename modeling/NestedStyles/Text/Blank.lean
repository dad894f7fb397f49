import NestedStyles.Text.Basic

/-!
Blank characters, and the cleaning of text that people typed: every run of blanks becomes one
space, and the ends are trimmed.
-/

set_option autoImplicit false

namespace NestedStyles

namespace Text

/-- The white space characters: the separators of Unicode, the control characters that move the
carriage, and the four information separators U+001C to U+001F. -/
def isBlank (c : Char) : Bool :=
  let n := c.toNat
  (0x09 ≤ n && n ≤ 0x0D) || (0x1C ≤ n && n ≤ 0x20) || n == 0x85 || n == 0xA0 || n == 0x1680 ||
    (0x2000 ≤ n && n ≤ 0x200A) || n == 0x2028 || n == 0x2029 || n == 0x202F || n == 0x205F ||
    n == 0x3000

def allBlank (text : Text) : Bool :=
  text.all isBlank

def collapse (text : Text) : Text :=
  squeeze isBlank ' ' text

/-- The text without the marks that open and close a comment, removed in one pass from the left. -/
def withoutCommentMarks : Text → Text
  | '<' :: '!' :: '-' :: '-' :: rest => withoutCommentMarks rest
  | '-' :: '-' :: '>' :: rest => withoutCommentMarks rest
  | c :: rest => c :: withoutCommentMarks rest
  | [] => []

/-- The text on one line, with single spaces and none at its ends; nothing if nothing is left. -/
def clean? (text : Text) : Option Text :=
  match trim isBlank (collapse text) with
  | [] => none
  | c :: rest => some (c :: rest)

/-- The cleaned content of a comment, without any comment marks it may hold. -/
def cleanComment? (text : Text) : Option Text :=
  clean? (withoutCommentMarks text)

end Text

end NestedStyles
