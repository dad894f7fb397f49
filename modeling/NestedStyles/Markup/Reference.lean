import NestedStyles.Text.Basic
import NestedStyles.Markup.Reference.Table

/-!
Character references: `&name;` and `&#number;` in the text of a document and in attribute values.
What is no reference stands for itself.
-/

set_option autoImplicit false

namespace NestedStyles

namespace Reference

def replacementChar : Char := Char.ofNat 0xFFFD

/-- The characters that the numbers 128 to 159 stand for where they are no control codes. -/
def windows1252 : List (Nat × Nat) := [
  (0x80, 0x20AC), (0x82, 0x201A), (0x83, 0x0192), (0x84, 0x201E), (0x85, 0x2026), (0x86, 0x2020),
  (0x87, 0x2021), (0x88, 0x02C6), (0x89, 0x2030), (0x8A, 0x0160), (0x8B, 0x2039), (0x8C, 0x0152),
  (0x8E, 0x017D), (0x91, 0x2018), (0x92, 0x2019), (0x93, 0x201C), (0x94, 0x201D), (0x95, 0x2022),
  (0x96, 0x2013), (0x97, 0x2014), (0x98, 0x02DC), (0x99, 0x2122), (0x9A, 0x0161), (0x9B, 0x203A),
  (0x9C, 0x0153), (0x9E, 0x017E), (0x9F, 0x0178)]

/-- The character with a number; zero and numbers that no character has give the replacement. -/
def ofNumber (n : Nat) : Char :=
  if n = 0 then replacementChar
  else match windows1252.find? (fun entry => entry.1 == n) with
    | some (_, code) => Char.ofNat code
    | none => if n.isValidChar then Char.ofNat n else replacementChar

/-- The value of a digit in a base up to sixteen. -/
def digit? (base : Nat) (c : Char) : Option Nat :=
  let value :=
    if '0' ≤ c ∧ c ≤ '9' then some (c.toNat - '0'.toNat)
    else if 'a' ≤ c ∧ c ≤ 'f' then some (c.toNat - 'a'.toNat + 10)
    else if 'A' ≤ c ∧ c ≤ 'F' then some (c.toNat - 'A'.toNat + 10)
    else none
  value.filter (· < base)

/-- The digits at the start of a text: the number they write and how many there are. -/
def digits (base : Nat) : Nat → Nat → Text → Nat × Nat
  | number, count, [] => (number, count)
  | number, count, c :: rest =>
    match digit? base c with
    | some d => digits base (number * base + d) (count + 1) rest
    | none => (number, count)

/-- The reference by number whose digits start here, after `skipped` characters behind the `&`: the
character and the length of the reference without the `&`. -/
def numeric? (base skipped : Nat) (text : Text) : Option (Text × Nat) :=
  match digits base 0 0 text with
  | (_, 0) => none
  | (number, count) =>
    let ending := if (text.drop count).head? = some ';' then 1 else 0
    some ([ofNumber number], skipped + count + ending)

/-- The longest name that the text starts with, with its length. -/
def longestName? (text : Text) : Option (Text × Nat) :=
  match text with
  | [] => none
  | c :: _ =>
    (named c).foldl (fun best entry =>
      let name := entry.1.toList
      if name.isPrefixOf text && (best.map (·.2)).getD 0 < name.length then
        some (entry.2.toList, name.length)
      else best) none

/-- Whether a character makes an unfinished name in an attribute value plain text. -/
def continuesName (c : Char) : Bool :=
  c == '=' || c.isAlphanum

/-- The reference that follows an `&`: what it stands for and its length without the `&`. -/
def read? (inAttribute : Bool) (text : Text) : Option (Text × Nat) :=
  match text with
  | '#' :: 'x' :: rest => numeric? 16 2 rest
  | '#' :: 'X' :: rest => numeric? 16 2 rest
  | '#' :: rest => numeric? 10 1 rest
  | text =>
    match longestName? text with
    | none => none
    | some (value, length) =>
      let finished := (text.take length).getLast? = some ';'
      if inAttribute && !finished && (text.drop length).head?.any continuesName then none
      else some (value, length)

/-- The text with its references resolved. The number counts the characters of the last reference
that are still to be skipped. -/
def decodeFrom (inAttribute : Bool) : Nat → Text → Text
  | _, [] => []
  | skip + 1, _ :: rest => decodeFrom inAttribute skip rest
  | 0, c :: rest =>
    if c = '&' then
      match read? inAttribute rest with
      | some (value, length) => value ++ decodeFrom inAttribute length rest
      | none => c :: decodeFrom inAttribute 0 rest
    else c :: decodeFrom inAttribute 0 rest

def decode (text : Text) : Text :=
  decodeFrom false 0 text

/-- The value of an attribute with its references resolved. -/
def decodeValue (text : Text) : Text :=
  decodeFrom true 0 text

end Reference

end NestedStyles
