import NestedStyles.Text.Basic
import NestedStyles.Text.Decomposition.Table

/-!
Taking characters apart: accented letters into a letter and its accents, characters of special
shape into plain ones, Hangul syllables into their letters.
-/

set_option autoImplicit false

namespace NestedStyles

namespace Text

def hangulVowels : Nat := 21

/-- The number of final letters of a Hangul syllable, counting their absence. -/
def hangulFinals : Nat := 28

/-- The letters of the Hangul syllable with a number: an initial, a vowel, and a final if any. -/
def hangulLetters (index : Nat) : Text :=
  let initial := Char.ofNat (0x1100 + index / (hangulVowels * hangulFinals))
  let vowel := Char.ofNat (0x1161 + index / hangulFinals % hangulVowels)
  match index % hangulFinals with
  | 0 => [initial, vowel]
  | final => [initial, vowel, Char.ofNat (0x11A7 + final)]

def decompose (c : Char) : Text :=
  let n := c.toNat
  if n < 0x80 then [c]
  else if 0xAC00 ≤ n ∧ n ≤ 0xD7A3 then hangulLetters (n - 0xAC00)
  else match decompositions.find? (fun entry => entry.1 == n) with
    | some (_, parts) => parts.map Char.ofNat
    | none =>
      match decompositionRuns.find? (fun run => run.1 ≤ n && n ≤ run.2.1) with
      | some (first, _, part :: parts) => ((part + (n - first)) :: parts).map Char.ofNat
      | _ => [c]

def decomposed (text : Text) : Text :=
  text.flatMap decompose

end Text

end NestedStyles
