import NestedStyles.Text.Blank

/-!
The spacing of `@apply` statements. Laying out takes a class such as `hover:underline` for a
property and its value and puts a space behind the colon; here each statement is written on one line
again, with single spaces between its classes and none behind a colon.
-/

set_option autoImplicit false

namespace NestedStyles

namespace Apply

def keyword : Text := "@apply".toList

/-- Whether a character ends a statement or shows that there is none. -/
def endsStatement (c : Char) : Bool :=
  c == ';' || c == '\x7b' || c == '\x7d'

/-- The statement that a text starts with: the keyword, a blank, and everything up to a semicolon
that comes before any brace. -/
def statement? (text : Text) : Option Text :=
  match Text.after? keyword text with
  | some (c :: rest) =>
    if Text.isBlank c then
      match rest.dropWhile (fun c => !endsStatement c) with
      | ';' :: _ =>
        some (keyword ++ c :: rest.takeWhile (fun c => !endsStatement c) ++ [';'])
      | _ => none
    else none
  | _ => none

/-- The text without the blanks that follow colons. The flag says that a colon and nothing but
blanks stand in front. -/
def tightenFrom : Bool → Text → Text
  | _, [] => []
  | after, c :: rest =>
    if after && Text.isBlank c then tightenFrom true rest else c :: tightenFrom (c == ':') rest

/-- A statement with single spaces, and none behind a colon or in front of the semicolon. -/
def tidy (statement : Text) : Text :=
  Text.replace [' ', ';'] [';'] (Text.collapse (tightenFrom false statement))

/-- The text with its statements tidied. The number counts the characters of the last statement that
are still to be skipped. -/
def tidyFrom : Nat → Text → Text
  | _, [] => []
  | skip + 1, _ :: rest => tidyFrom skip rest
  | 0, c :: rest =>
    match statement? (c :: rest) with
    | some statement => tidy statement ++ tidyFrom (statement.length - 1) rest
    | none => c :: tidyFrom 0 rest

/-- The text with its statements tidied; nothing else changes. -/
def tidyAll (text : Text) : Text :=
  tidyFrom 0 text

end Apply

end NestedStyles
