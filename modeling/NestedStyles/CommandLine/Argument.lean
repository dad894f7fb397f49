import NestedStyles.CommandLine.Switch

/-!
What each argument of a command line is: a switch, perhaps with a value attached to it, or an
operand. Behind two dashes there are only operands.

A long spelling may be cut short as long as it is the start of one switch only. A switch without a
value may have further letters attached, each a switch of its own.
-/

set_option autoImplicit false

namespace NestedStyles

namespace CommandLine

/-- What is attached to a switch within one argument: nothing, a text behind an equals sign, or a
text that follows at once. -/
inductive Attachment where
  | nothing
  | equals (text : Text)
  | joined (text : Text)
  deriving DecidableEq, Repr

inductive Argument where
  | operand (text : Text)
  | dashes
  | long (switch : Switch) (attachment : Attachment)
  | short (switch : Switch) (attachment : Attachment)
  | unknown (text : Text)
  deriving DecidableEq, Repr

namespace Argument

/-- A text before its first equals sign, and what is attached behind that. -/
def cut (text : Text) : Text × Attachment :=
  match text.dropWhile (· != '=') with
  | [] => (text, .nothing)
  | _ :: value => (text.takeWhile (· != '='), .equals value)

def isDigits (text : Text) : Bool :=
  !text.isEmpty && text.all (fun c => (Text.digit? c).isSome)

/-- The text without a line break at its end. -/
def withoutBreak (text : Text) : Text :=
  if text.getLast? = some '\n' then text.dropLast else text

/-- Whether what follows a minus sign makes a number, with or without a fraction. -/
def isMagnitude (text : Text) : Bool :=
  let text := withoutBreak text
  isDigits text ||
    match text.dropWhile (· != '.') with
    | [] => false
    | _ :: fraction =>
      (text.takeWhile (· != '.')).all (fun c => (Text.digit? c).isSome) && isDigits fraction

/-- What an argument is that starts with two dashes and goes on. -/
def ofLong (argument : Text) : Except ArgumentFault (Option Argument) :=
  let (spelling, attachment) := cut argument
  match Switch.ofLong? spelling with
  | some switch => .ok (some (.long switch attachment))
  | none =>
    match Switch.startingWith spelling with
    | [] => .ok none
    | [switch] => .ok (some (.long switch attachment))
    | candidates => .error (.ambiguous argument candidates)

/-- What an argument is that starts with one dash and a letter. -/
def ofShort (letter : Char) (rest : Text) : Option Argument := do
  let switch ← Switch.ofLetter? letter
  return .short switch (match rest with
    | [] => .nothing
    | '=' :: value => .equals value
    | _ => .joined rest)

/-- An argument that starts with a dash but is no switch: a negative number and a text with a space
are operands. -/
def ofOther (argument : Text) : Argument :=
  if isMagnitude argument.tail ∨ argument.contains ' ' then .operand argument
  else .unknown argument

def ofText (argument : Text) : Except ArgumentFault Argument := do
  match argument with
  | ['-', '-'] => return .dashes
  | '-' :: '-' :: _ => return (← ofLong argument).getD (ofOther argument)
  | '-' :: letter :: rest => return (ofShort letter rest).getD (ofOther argument)
  | _ => return .operand argument

def ofTexts : List Text → Except ArgumentFault (List Argument)
  | [] => .ok []
  | text :: rest => do
    match ← ofText text with
    | .dashes => return .dashes :: rest.map .operand
    | argument => return argument :: (← ofTexts rest)

end Argument

end CommandLine

end NestedStyles
