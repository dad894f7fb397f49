import NestedStyles.Text.Blank
import NestedStyles.Text.Word

/-!
Pieces of a stylesheet: what is read as a whole when its first character is met. Each reader splits
the text into the piece and the rest.
-/

set_option autoImplicit false

namespace NestedStyles

namespace Scan

/-- The text up to and with the first of the end marks or the end of the line. A backslash keeps the
character after it from ending the piece; a backslash at the very end has no such character. -/
def through? (ends : Text) : Text → Option (Text × Text)
  | [] => some ([], [])
  | ['\\'] => none
  | '\\' :: c :: rest => (through? ends rest).map (fun (piece, rest) => ('\\' :: c :: piece, rest))
  | c :: rest =>
    if ends.contains c || c == '\n' then some ([c], rest)
    else (through? ends rest).map (fun (piece, rest) => (c :: piece, rest))

def nameEnds : Text := ": ,;\x7b\x7d()[]/='\"".toList

/-- The text up to and with the first character that ends a name. -/
def nameAhead : Text → Text
  | [] => []
  | c :: rest => if nameEnds.contains c then [c] else c :: nameAhead rest

/-- The rest of a block comment, up to and with the mark that closes it. -/
def blockComment : Text → Text × Text
  | [] => ([], [])
  | '*' :: '/' :: rest => (['*', '/'], rest)
  | c :: rest => let (piece, rest) := blockComment rest; (c :: piece, rest)

def endsLineComment (c : Char) : Bool :=
  c == '\n' || c == '\r' || c.toNat == 0x2028 || c.toNat == 0x2029

def lineComment (text : Text) : Text × Text :=
  text.span (fun c => !endsLineComment c)

/-- Whether what follows is the selector of a nested rule: an opening brace comes before the end of
the declaration and of the parentheses around it. The number counts the parentheses opened on the
way. -/
def opensRule : Nat → Text → Bool
  | _, [] => false
  | depth, c :: rest =>
    if c == '\x7b' then true
    else if c == '(' then opensRule (depth + 1) rest
    else if c == ')' then
      match depth with
      | 0 => false
      | depth + 1 => opensRule depth rest
    else if c == ';' || c == '\x7d' then false
    else opensRule depth rest

/-- The text behind one blank. -/
def afterBlank? : Text → Option Text
  | c :: rest => if Text.isBlank c then some rest else none
  | [] => none

/-- The length of the mark that ends a passage to be left alone, if the text starts with one. -/
def endOfIgnored? (text : Text) : Option Nat := do
  let rest ← Text.after? "/*".toList text
  let rest ← afterBlank? rest
  let rest ← Text.after? "beautify".toList rest
  let rest ← afterBlank? rest
  let rest ← Text.after? "ignore:end".toList rest
  let rest ← afterBlank? rest
  let rest ← Text.after? "*/".toList rest
  return text.length - rest.length

/-- A passage to be left alone, up to and with the mark that ends it. The number counts the
characters of that mark still to come. -/
def ignored : Text → Text × Text
  | [] => ([], [])
  | c :: rest =>
    match endOfIgnored? (c :: rest) with
    | some length => ((c :: rest).take length, (c :: rest).drop length)
    | none => let (piece, rest) := ignored rest; (c :: piece, rest)

def word (text : Text) : Text × Text :=
  text.span Text.isWordChar

/-- A directive: a space, a word, a colon and a word. -/
def directive? (text : Text) : Option ((Text × Text) × Text) := do
  let rest ← Text.after? [' '] text
  let (name, rest) := word rest
  let rest ← Text.after? [':'] rest
  let (value, rest) := word rest
  if name.isEmpty || value.isEmpty then none else some ((name, value), rest)

/-- The directives that make up the rest of a comment, given a bound on their number. -/
def directives? : Nat → Text → Option (List (Text × Text))
  | 0, _ => none
  | bound + 1, text =>
    match directive? text with
    | none => if text = " */".toList then some [] else none
    | some (entry, rest) => (directives? bound rest).map (entry :: ·)

/-- Whether a block comment asks to leave alone what follows it. Of several directives for one thing
the last counts. -/
def startsIgnored (comment : Text) : Bool :=
  match (Text.after? "/* beautify".toList comment).bind (directives? comment.length) with
  | none => false
  | some entries =>
    (entries.reverse.find? (fun entry => entry.1 == "ignore".toList)).map (·.2) ==
      some "start".toList

end Scan

end NestedStyles
