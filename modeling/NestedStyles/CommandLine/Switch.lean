import NestedStyles.Text.Integer
import NestedStyles.Text.Quoted

/-!
The switches of the command line: how each is spelled and whether it takes a value.
-/

set_option autoImplicit false

namespace NestedStyles

namespace CommandLine

inductive Switch where
  | help
  | output
  | noFormat
  | useComments
  | maxLength
  | noComments
  | opening
  | ending
  | replaceWith
  | keepCase
  | indentSize
  | threads
  | verbose
  deriving DecidableEq, Repr

namespace Switch

def long : Switch → Text
  | help => "--help".toList
  | output => "--output".toList
  | noFormat => "--no-format".toList
  | useComments => "--use-comments".toList
  | maxLength => "--max-length".toList
  | noComments => "--no-comments".toList
  | opening => "--prefix".toList
  | ending => "--suffix".toList
  | replaceWith => "--replace-with".toList
  | keepCase => "--keep-case".toList
  | indentSize => "--indent-size".toList
  | threads => "--threads".toList
  | verbose => "--verbose".toList

/-- The letter of the short spelling of a switch, if it has one. -/
def letter? : Switch → Option Char
  | help => some 'h'
  | output => some 'o'
  | verbose => some 'v'
  | _ => none

/-- Whether a switch takes a value. -/
def takesValue : Switch → Bool
  | output => true
  | maxLength => true
  | opening => true
  | ending => true
  | replaceWith => true
  | indentSize => true
  | threads => true
  | _ => false

def all : List Switch :=
  [help, output, noFormat, useComments, maxLength, noComments, opening, ending, replaceWith,
    keepCase, indentSize, threads, verbose]

/-- The short spelling behind a letter. -/
def short (letter : Char) : Text := ['-', letter]

def name (switch : Switch) : Text :=
  match switch.letter? with
  | none => switch.long
  | some letter => short letter ++ '/' :: switch.long

def ofLetter? (letter : Char) : Option Switch :=
  all.find? (fun switch => switch.letter? == some letter)

def ofLong? (spelling : Text) : Option Switch :=
  all.find? (fun switch => switch.long == spelling)

def startingWith (text : Text) : List Switch :=
  all.filter (fun switch => text.isPrefixOf switch.long)

end Switch

/-- Why a command line is refused. -/
inductive ArgumentFault where
  | ambiguous (argument : Text) (candidates : List Switch)
  | missingValue (switch : Switch)
  | needlessValue (switch : Switch) (value : Text)
  | notANumber (switch : Switch) (value : Text)
  | outOfRange (switch : Switch) (least most number : Int)
  | notOneCharacter (switch : Switch) (value : Text)
  | missingInputs
  | unknown (arguments : List Text)
  deriving DecidableEq, Repr

namespace ArgumentFault

/-- What is said about the value of a switch. -/
def about (switch : Switch) (message : Text) : Text :=
  "argument ".toList ++ switch.name ++ ": ".toList ++ message

/-- How messages call the numbers that a switch takes. -/
def numberName : Switch → Text
  | .threads => "int".toList
  | _ => "checker".toList

def message : ArgumentFault → Text
  | ambiguous argument candidates =>
    "ambiguous option: ".toList ++ argument ++ " could match ".toList ++
      Text.join ", ".toList (candidates.map Switch.long)
  | missingValue switch => about switch "expected one argument".toList
  | needlessValue switch value =>
    about switch ("ignored explicit argument ".toList ++ Text.quoted value)
  | notANumber switch value =>
    about switch
      ("invalid ".toList ++ numberName switch ++ " value: ".toList ++ Text.quoted value)
  | outOfRange switch least most number =>
    about switch
      ("Value must be between ".toList ++ Text.ofInt least ++ " and ".toList ++
        Text.ofInt most ++ ", got ".toList ++ Text.ofInt number)
  | notOneCharacter switch value =>
    about switch ("Value must be a single character, got ".toList ++ Text.quoted value)
  | missingInputs => "the following arguments are required: input_paths".toList
  | unknown arguments =>
    "unrecognized arguments: ".toList ++ Text.join [' '] arguments

end ArgumentFault

end CommandLine

end NestedStyles
