import NestedStyles.Text.Blank
import NestedStyles.Text.Word

/-!
The marks of regions. Laying out may pull a mark up to the end of the line before it; here each mark
gets a line of its own again, indented like the line it was on.
-/

set_option autoImplicit false

namespace NestedStyles

namespace Region

def marks : List Text :=
  ["// #region".toList, "// #endregion".toList]

/-- Whether the text starts with a mark that ends as a word does. -/
def startsWithMark (text : Text) : Bool :=
  marks.any (fun mark => (Text.after? mark text).any Text.endsWord)

def isPadding (c : Char) : Bool :=
  c == ' ' || c == '\t'

def indentation (line : Text) : Text :=
  line.takeWhile isPadding

/-- Cuts a line before the last mark that other characters stand in front of, given what has been
read of the line in reverse. The padding in front of the mark is dropped. -/
def lastCut? (before : Text) : Text → Option (Text × Text)
  | [] => none
  | c :: rest =>
    match lastCut? (c :: before) rest with
    | some cut => some cut
    | none =>
      if startsWithMark (c :: rest) then
        match before.dropWhile isPadding with
        | [] => none
        | d :: farther =>
          if Text.isBlank d then none else some ((d :: farther).reverse, c :: rest)
      else none

/-- Cuts a line before its marks, the last one first, given a bound on their number. -/
def cuts : Nat → Text → List Text
  | 0, line => [line]
  | bound + 1, line =>
    match lastCut? [] line with
    | none => [line]
    | some (front, mark) => cuts bound front ++ [indentation line ++ mark]

/-- The lines that a line becomes when each mark gets one of its own. -/
def separateLine (line : Text) : List Text :=
  cuts line.length line

/-- The text with each mark on a line of its own. -/
def separate (text : Text) : Text :=
  Text.join ['\n'] ((Text.splitAt '\n' text).flatMap separateLine)

end Region

end NestedStyles
