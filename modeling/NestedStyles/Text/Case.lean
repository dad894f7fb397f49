import NestedStyles.Text.Basic
import NestedStyles.Text.Case.Table

/-!
Lower case for every letter of Unicode. Each letter has one lower case letter, with two exceptions:
a dotted capital I becomes an `i` and a dot above, and a capital sigma that ends a word becomes a
final sigma.
-/

set_option autoImplicit false

namespace NestedStyles

namespace Text

def inRanges (ranges : List (Nat × Nat)) (c : Char) : Bool :=
  ranges.any (fun range => range.1 ≤ c.toNat && c.toNat ≤ range.2)

def lowerLetter (c : Char) : Text :=
  if c.toNat < 0x80 then [c.toLower]
  else if c.toNat = 0x130 then ['i', Char.ofNat 0x307]
  else match lowerRuns.find? (fun (first, last, step, _) =>
      first ≤ c.toNat && c.toNat ≤ last && (c.toNat - first) % step == 0) with
    | some (_, _, _, distance) => [Char.ofNat (c.toNat + distance).toNat]
    | none => [c]

/-- Whether the nearest character that is not looked past has case. -/
def meetsCased (neighbours : Text) : Bool :=
  match neighbours.dropWhile (inRanges ignorableRanges) with
  | [] => false
  | c :: _ => inRanges casedRanges c

/-- The lower case of a text, given the characters in front of it, nearest first. -/
def lowerFrom (before : Text) : Text → Text
  | [] => []
  | c :: rest =>
    if c = 'Σ' then
      (if meetsCased before && !meetsCased rest then 'ς' else 'σ') :: lowerFrom (c :: before) rest
    else lowerLetter c ++ lowerFrom (c :: before) rest

def lower (text : Text) : Text :=
  lowerFrom [] text

end Text

end NestedStyles
