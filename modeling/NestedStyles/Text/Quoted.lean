import NestedStyles.Text.Case
import NestedStyles.Text.Quoted.Table

/-!
Texts in quotes, as messages show them: the quotes are single unless only single ones occur inside,
and what cannot be seen is escaped.
-/

set_option autoImplicit false

namespace NestedStyles

namespace Text

def paddedHex (width n : Nat) : Text :=
  let digits := Nat.toDigits 16 n
  List.replicate (width - digits.length) '0' ++ digits

/-- A character inside quotes of the given kind. -/
def escaped (quote c : Char) : Text :=
  let n := c.toNat
  if c = quote ∨ c = '\\' then ['\\', c]
  else if c = '\n' then ['\\', 'n']
  else if c = '\r' then ['\\', 'r']
  else if c = '\t' then ['\\', 't']
  else if !inRanges invisibleRanges c then [c]
  else if n < 0x100 then '\\' :: 'x' :: paddedHex 2 n
  else if n < 0x10000 then '\\' :: 'u' :: paddedHex 4 n
  else '\\' :: 'U' :: paddedHex 8 n

def quoted (text : Text) : Text :=
  let quote := if text.contains '\'' && !text.contains '"' then '"' else '\''
  quote :: text.flatMap (escaped quote) ++ [quote]

end Text

end NestedStyles
