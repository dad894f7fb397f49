import NestedStyles.Markup.Reference.Basic
import NestedStyles.Text.Decomposition
import NestedStyles.Text.Romanized

/-!
Slugs: names made of ASCII letters and digits, with a separator between words, from any text.
-/

set_option autoImplicit false

namespace NestedStyles

namespace Slug

variable [Romanization]

/-- The text without the commas that stand between two digits. The character is the one before the
text, if any. -/
def withoutDigitCommas : Option Char → Text → Text
  | _, [] => []
  | before, c :: rest =>
    let isDigit (neighbour : Option Char) : Bool := (neighbour.bind Text.digit?).isSome
    if c == ',' && isDigit before && isDigit rest.head? then withoutDigitCommas (some c) rest
    else c :: withoutDigitCommas (some c) rest

def isAllowed (c : Char) : Bool :=
  c.isAlphanum || c == '-'

/-- The words of a text, joined by single hyphens. -/
def hyphenated (lowercase : Bool) (text : Text) : Text :=
  let dashed := Text.squeeze (· == '\'') '-' text
  let ascii := Romanization.romanized (Text.decomposed dashed)
  let plain := Text.decomposed (Reference.decodeBasic ascii)
  let cased := if lowercase then Text.asciiLower plain else plain
  let numbers := withoutDigitCommas none (cased.filter (· != '\''))
  let words := Text.squeeze (fun c => !isAllowed c) '-' numbers
  Text.trim (· == '-') (Text.squeeze (· == '-') '-' words)

def ofText (lowercase : Bool) (separator text : Text) : Text :=
  let slug := hyphenated lowercase text
  if separator = ['-'] then slug else Text.replace ['-'] separator slug

end Slug

end NestedStyles
