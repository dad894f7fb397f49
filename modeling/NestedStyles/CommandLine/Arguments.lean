import NestedStyles.CommandLine.Argument
import NestedStyles.Files.Path
import NestedStyles.Settings.Basic

/-!
Reading a command line: its inputs, and what its switches set.

The inputs stand together; the first group of operands that is no value of a switch counts, and
later ones are refused. Switches act in their order, the last one wins, and asking for help ends the
reading. Faults of single switches are found in order; then missing inputs; then what is left over.
-/

set_option autoImplicit false

namespace NestedStyles

namespace CommandLine

structure Arguments where
  inputs : List Text := []
  output : Option Path := none
  threads : Int := 0
  verbose : Bool := false
  settings : Settings := {}

/-- Why the reading of a command line ends early. -/
inductive Stop where
  | help
  | refused (fault : ArgumentFault)

namespace Arguments

/-- What a switch without a value does. -/
def act (switch : Switch) (a : Arguments) : Except Stop Arguments :=
  match switch with
  | .help => .error .help
  | .verbose => .ok { a with verbose := true }
  | .noFormat => .ok { a with settings := { a.settings with formatOutput := .bool false } }
  | .useComments => .ok { a with settings := { a.settings with namesFromComments := .bool true } }
  | .noComments => .ok { a with settings := { a.settings with printComments := .bool false } }
  | .keepCase =>
    .ok { a with
      settings := { a.settings with
        naming := { a.settings.naming with lowercase := .bool false } } }
  | _ => .ok a

def number (switch : Switch) (value : Text) : Except ArgumentFault Int :=
  match Text.integer? value with
  | none => .error (.notANumber switch value)
  | some n => .ok n

/-- The number that a text writes, if it lies in a range. -/
def numberWithin (switch : Switch) (least most : Int) (value : Text) :
    Except ArgumentFault Int := do
  let n ← number switch value
  if least ≤ n ∧ n ≤ most then return n else .error (.outOfRange switch least most n)

/-- What a switch with a value does. -/
def set (switch : Switch) (value : Text) (a : Arguments) : Except ArgumentFault Arguments :=
  match switch with
  | .output => .ok { a with output := some (Path.ofText value) }
  | .maxLength => do
    let n ← numberWithin switch 1 255 value
    return { a with settings := { a.settings with maxNameLength := .int n } }
  | .indentSize => do
    let n ← numberWithin switch 0 16 value
    return { a with
      settings := { a.settings with format := { a.settings.format with indentSize := .int n } } }
  | .threads => do return { a with threads := ← number switch value }
  | .opening =>
    .ok { a with
      settings := { a.settings with
        naming := { a.settings.naming with opening := .text value } } }
  | .ending =>
    .ok { a with
      settings := { a.settings with
        naming := { a.settings.naming with ending := .text value } } }
  | .replaceWith =>
    if value.length = 1 then
      .ok { a with
        settings := { a.settings with
          naming := { a.settings.naming with separator := .text value } } }
    else .error (.notOneCharacter switch value)
  | _ => .ok a

end Arguments

/-- What the letters of a short switch ask for, one after the other, and how they end. -/
inductive Letters where
  | done
  | act (switch : Switch) (next : Letters)
  /-- A switch with its value. -/
  | set (switch : Switch) (value : Text)
  /-- A switch whose value is the next argument. -/
  | wants (switch : Switch)
  /-- A letter that is no switch, with what follows it. -/
  | unknown (argument : Text)

namespace Letters

def alone (switch : Switch) : Letters :=
  if switch.takesValue then wants switch else act switch done

/-- A short switch with a text attached. The flag says that an equals sign stands between them. -/
def attached (switch : Switch) (equals : Bool) : Text → Except ArgumentFault Letters
  | [] => if switch.takesValue then .ok (set switch []) else .error (.needlessValue switch [])
  | letter :: rest =>
    if switch.takesValue then .ok (set switch (letter :: rest))
    else if equals ∨ letter = '-' then .error (.needlessValue switch (letter :: rest))
    else
      match Switch.ofLetter? letter with
      | none => .ok (act switch (unknown ('-' :: letter :: rest)))
      | some next =>
        match rest with
        | [] => .ok (act switch (alone next))
        | '=' :: value => (attached next true value).map (act switch)
        | c :: others => (attached next false (c :: others)).map (act switch)
termination_by structural text => text

def ofShort (switch : Switch) : Attachment → Except ArgumentFault Letters
  | .nothing => .ok (alone switch)
  | .equals text => attached switch true text
  | .joined text => attached switch false text

/-- What a switch in its long spelling asks for. -/
def ofLong (switch : Switch) : Attachment → Except ArgumentFault Letters
  | .nothing => .ok (alone switch)
  | .equals text =>
    if switch.takesValue then .ok (set switch text) else .error (.needlessValue switch text)
  | .joined text =>
    if switch.takesValue then .ok (set switch text) else .error (.needlessValue switch text)

/-- What an argument asks for that is no operand. -/
def ofArgument : Argument → Except ArgumentFault Letters
  | .long switch attachment => ofLong switch attachment
  | .short switch attachment => ofShort switch attachment
  | .unknown text => .ok (unknown text)
  | .operand _ => .ok done
  | .dashes => .ok done

/-- Whether the letters end with a switch that lacks its value, and which. -/
def wanting? : Letters → Option Switch
  | done => none
  | act _ next => next.wanting?
  | set .. => none
  | wants switch => some switch
  | unknown _ => none

end Letters

/-- How far the inputs have been read. -/
inductive InputStage where
  | before
  | within
  | after
  deriving DecidableEq, Repr

/-- A command line while it is read. -/
structure Reading where
  arguments : Arguments := {}
  stage : InputStage := .before
  /-- What is no input and no switch. -/
  strays : List Text := []

namespace Reading

/-- Takes an operand that is no value. -/
def takeOperand (text : Text) (r : Reading) : Reading :=
  match r.stage with
  | .after => { r with strays := r.strays ++ [text] }
  | _ => { r with
      arguments := { r.arguments with inputs := r.arguments.inputs ++ [text] }, stage := .within }

/-- Takes the two dashes in front of the last operands. Between operands that are inputs they mean
nothing. -/
def takeDashes (followed : Bool) (r : Reading) : Reading :=
  match r.stage with
  | .within => r
  | .before => if followed then r else { r with strays := r.strays ++ [['-', '-']] }
  | .after => { r with strays := r.strays ++ [['-', '-']] }

def leaveInputs (r : Reading) : Reading :=
  if r.stage = .within then { r with stage := .after } else r

/-- Takes what is no switch. -/
def takeStray (text : Text) (r : Reading) : Reading :=
  { r with strays := r.strays ++ [text] }

/-- Does what letters ask for, given the next operand as the value of the last one. -/
def obey (value : Text) (r : Reading) : Letters → Except Stop Reading
  | .done => .ok r
  | .act switch next => do
    obey value { r with arguments := ← r.arguments.act switch } next
  | .set switch value => do
    return { r with arguments := ← (r.arguments.set switch value).mapError .refused }
  | .wants switch => do
    return { r with arguments := ← (r.arguments.set switch value).mapError .refused }
  | .unknown argument => .ok (r.takeStray argument)

def readAll (r : Reading) : List Argument → Except Stop Reading
  | [] => .ok r
  | .operand text :: rest => readAll (r.takeOperand text) rest
  | .dashes :: rest => readAll (r.takeDashes !rest.isEmpty) rest
  | argument :: rest =>
    match Letters.ofArgument argument with
    | .error fault => .error (.refused fault)
    | .ok letters =>
      match letters.wanting? with
      | none => do readAll (← r.leaveInputs.obey [] letters) rest
      | some switch =>
        match rest with
        | .operand value :: rest => do readAll (← r.leaveInputs.obey value letters) rest
        | _ => .error (.refused (.missingValue switch))
termination_by structural arguments => arguments

def finish (r : Reading) : Except Stop Arguments :=
  if r.arguments.inputs.isEmpty then .error (.refused .missingInputs)
  else if r.strays.isEmpty then .ok r.arguments
  else .error (.refused (.unknown r.strays))

end Reading

/-- What a command line asks for. What each argument is comes first: an argument that might be one
of several switches is refused before anything else. -/
def Arguments.parse (texts : List Text) : Except Stop Arguments := do
  let arguments ← (Argument.ofTexts texts).mapError .refused
  (← Reading.readAll {} arguments).finish

end CommandLine

end NestedStyles
