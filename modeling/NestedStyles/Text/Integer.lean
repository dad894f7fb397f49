import NestedStyles.Text.Blank

/-!
Reading whole numbers from text: digits of any script, an optional sign, blanks around the number
and single underscores between its digits.
-/

set_option autoImplicit false

namespace NestedStyles

namespace Text

/-- The digit zero of each script of Unicode 14 that writes numbers in tens. The digits one to nine
follow it. -/
def zeros : List Nat := [
  0x30, 0x660, 0x6F0, 0x7C0, 0x966, 0x9E6, 0xA66, 0xAE6, 0xB66, 0xBE6, 0xC66, 0xCE6, 0xD66, 0xDE6,
  0xE50, 0xED0, 0xF20, 0x1040, 0x1090, 0x17E0, 0x1810, 0x1946, 0x19D0, 0x1A80, 0x1A90, 0x1B50,
  0x1BB0, 0x1C40, 0x1C50, 0xA620, 0xA8D0, 0xA900, 0xA9D0, 0xA9F0, 0xAA50, 0xABF0, 0xFF10, 0x104A0,
  0x10D30, 0x11066, 0x110F0, 0x11136, 0x111D0, 0x112F0, 0x11450, 0x114D0, 0x11650, 0x116C0,
  0x11730, 0x118E0, 0x11950, 0x11C50, 0x11D50, 0x11DA0, 0x16A60, 0x16AC0, 0x16B50, 0x1D7CE,
  0x1D7D8, 0x1D7E2, 0x1D7EC, 0x1D7F6, 0x1E140, 0x1E2F0, 0x1E950, 0x1FBF0]

def digit? (c : Char) : Option Nat :=
  (zeros.find? (fun first => first ≤ c.toNat && c.toNat < first + 10)).map (c.toNat - ·)

/-- The blanks that may stand around a number: all but the information separators. -/
def isNumberBlank (c : Char) : Bool :=
  isBlank c && !(0x1C ≤ c.toNat && c.toNat ≤ 0x1F)

def maxDigits : Nat := 4300

/-- The values of the digits of a number. The flag says that a digit must come next, because the
text starts here or an underscore stands in front. -/
def digitsFrom : Bool → Text → Option (List Nat)
  | needed, [] => if needed then none else some []
  | needed, c :: rest =>
    if c = '_' then if needed then none else digitsFrom true rest
    else do
      let digit ← digit? c
      let digits ← digitsFrom false rest
      return digit :: digits

/-- The number without a sign that a text writes. -/
def natural? (text : Text) : Option Nat := do
  let digits ← digitsFrom true text
  if digits.length ≤ maxDigits then some (digits.foldl (fun n digit => n * 10 + digit) 0) else none

/-- The whole number that a text writes. -/
def integer? (text : Text) : Option Int :=
  match trim isNumberBlank text with
  | '+' :: digits => (natural? digits).map Int.ofNat
  | '-' :: digits => (natural? digits).map (fun n => -Int.ofNat n)
  | digits => (natural? digits).map Int.ofNat

end Text

end NestedStyles
