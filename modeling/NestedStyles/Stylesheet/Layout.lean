import NestedStyles.Stylesheet.Page
import NestedStyles.Stylesheet.Scan

/-!
Laying out a stylesheet: one declaration a line, a line for each brace, nested rules indented and
set apart by empty lines.

The stylesheet is read from left to right, one character or one larger piece at a time, and written
to a page. What is read decides alone; nothing is looked at twice.
-/

set_option autoImplicit false

namespace NestedStyles

/-- How far a stylesheet has been laid out. -/
structure Layout where
  /-- What has been read, in reverse. -/
  before : Text := []
  /-- What is still to be read. -/
  rest : Text
  page : Page := {}
  /-- Whether a space goes in front of the next item. -/
  spaced : Bool := false
  level : Nat := 0
  /-- How many at-rules that hold rules are open. -/
  nested : Nat := 0
  /-- How many parentheses are open. -/
  parens : Nat := 0
  insideRule : Bool := false
  insideValue : Bool := false
  /-- Between the name of a conditional at-rule and its brace. -/
  enteringCondition : Bool := false
  /-- In an at-rule that holds no rules. -/
  insideStatement : Bool := false
  insideMap : Bool := false
  /-- In a value whose line breaks are kept. -/
  insideGrid : Bool := false
  /-- The last piece that was read to decide on. -/
  last : Text := []

namespace Layout

/-- Goes on behind a piece. -/
def advance (l : Layout) (piece rest : Text) : Layout :=
  { l with before := piece.reverse ++ l.before, rest }

def indent (l : Layout) : Layout :=
  { l with level := l.level + 1 }

def outdent (l : Layout) : Layout :=
  { l with level := l.level - 1 }

/-- Asks for a space in front of the next item. -/
def space (l : Layout) : Layout :=
  { l with spaced := true }

/-- Asks for a space in front of the next item if there is reason to. -/
def spaceIf (reason : Bool) (l : Layout) : Layout :=
  if reason then l.space else l

def write (item : Text) (l : Layout) : Layout :=
  { l with page := l.page.write l.level l.spaced item, spaced := false }

/-- Starts a new line, unless it is new already. -/
def newline (l : Layout) : Layout :=
  { l with page := l.page.newline }

def newlineAlways (l : Layout) : Layout :=
  { l with page := l.page.newlineAlways }

def trim (l : Layout) : Layout :=
  { l with page := l.page.trim }

def skipBlanks (l : Layout) : Layout :=
  let (blanks, rest) := l.rest.span Text.isBlank
  l.advance blanks rest

/-- How many of a number of line breaks are kept. -/
def keptBreaks (style : PageStyle) (count : Nat) : Nat :=
  min count (max 1 style.maxBreaks.toNat)

/-- Skips blanks, but keeps line breaks as far as the style allows. -/
def keepBreaks (style : PageStyle) (l : Layout) : Layout :=
  let count := (l.rest.takeWhile Text.isBlank).count '\n'
  let l := l.skipBlanks
  { l with page := l.page.newlines (keptBreaks style count) }

/-- Whether the text read before the last character ends with a piece, in any case. -/
def follows (piece : Text) (l : Layout) : Bool :=
  match l.before with
  | [] => false
  | _ :: before => Text.asciiLower (before.take piece.length) == piece.reverse

def meets (c : Char) (l : Layout) : Bool :=
  l.rest.head? == some c

/-- Reads a piece up to and with one of the end marks. -/
def readThrough (ends : Text) (l : Layout) : Except LayoutFault (Text × Layout) :=
  match Scan.through? ends l.rest with
  | none => .error .openEscape
  | some (piece, rest) => .ok (piece, l.advance piece rest)

/-- Writes what has been read together with a piece up to and with one of the end marks. -/
def writeThrough (read ends : Text) (l : Layout) : Except LayoutFault Layout := do
  let (piece, l) ← l.readThrough ends
  return l.write (read ++ piece)

/-- Reads the name behind a sign. A name that a colon or a space ends is written. -/
def readName (l : Layout) : Except LayoutFault (Text × Layout) :=
  match (Scan.nameAhead l.rest).getLast? with
  | none => .error .openName
  | some last =>
    if last = ':' ∨ last = ' ' then do
      let (piece, l) ← l.readThrough [':', ' ']
      let name := Text.dropTrailing Text.isBlank piece
      return (name, (l.write name).space)
    else .ok (Scan.nameAhead l.rest, l)

/-- Takes the name of a variable as the start of its value if a colon ends it. -/
def isDefinition (name : Text) (l : Layout) : Bool :=
  l.parens == 0 && name.contains ':'

def enterValue (l : Layout) : Layout :=
  { l.indent with insideValue := true }

def leaveValue (l : Layout) : Layout :=
  if l.insideValue then { l.outdent with insideValue := false } else l

def enterParens (l : Layout) : Layout :=
  { l.indent with parens := l.parens + 1 }

def leaveParens (l : Layout) : Layout :=
  if l.parens = 0 then l else { l.outdent with parens := l.parens - 1 }

/-- A block comment, on lines of its own. -/
def blockComment (style : PageStyle) (l : Layout) : Layout :=
  let l := l.newline
  let (opening, rest) := (['/', '*'], l.rest.drop 1)
  let (body, rest) := Scan.blockComment rest
  let comment := opening ++ body
  let (more, rest) := if Scan.startsIgnored comment then Scan.ignored rest else ([], rest)
  let l := l.advance (comment.drop 1 ++ more) rest
  ((l.write (comment ++ more)).keepBreaks style).newline

/-- A line comment, behind what is on the line already. -/
def lineComment (style : PageStyle) (l : Layout) : Layout :=
  let (comment, rest) := Scan.lineComment l.rest
  ((l.advance comment rest).space.write ('/' :: comment)).keepBreaks style

def dollar (afterBlank : Bool) (l : Layout) : Except LayoutFault Layout := do
  let (name, l) ← ((l.spaceIf afterBlank).write ['$']).readName
  return if l.isDefinition name then l.enterValue else l

def nestingRules : List Text :=
  ["page".toList, "font-face".toList, "keyframes".toList, "media".toList, "supports".toList,
    "document".toList]

def conditionalRules : List Text :=
  ["media".toList, "supports".toList, "document".toList]

/-- An at-rule, or a variable with the sign of one. -/
def atRule (afterBlank : Bool) (l : Layout) : Except LayoutFault Layout := do
  let l := l.spaceIf afterBlank
  if l.meets '\x7b' then l.writeThrough ['@'] ['\x7d']
  else
    let (name, l) ← (l.write ['@']).readName
    if l.isDefinition name then return l.enterValue
    else if nestingRules.contains name then
      return { l with
        nested := l.nested + 1
        enteringCondition := l.enteringCondition || conditionalRules.contains name }
    else if l.parens = 0 ∧ ¬ l.insideValue then return { l with insideStatement := true }
    else return l

/-- Whether the line above ends the rule or the declaration before a new rule. -/
def followsLine (l : Layout) : Bool :=
  match l.page.above with
  | [] => false
  | line :: _ => match line.last? with
    | none => false
    | some item => item != ['\x7b']

def openBrace (style : PageStyle) (previous : Text) (l : Layout) : Layout :=
  let l := l.leaveValue
  let insideRule := if l.enteringCondition then l.nested ≤ l.level else l.nested ≤ l.level + 1
  let l := { l with insideStatement := false, enteringCondition := false, insideRule }
  let l := if l.insideRule && l.followsLine then { l with page := l.page.separateLine } else l
  let l :=
    if previous = ['('] then { l with spaced := false }
    else if previous = [','] then l.space
    else l.space.indent
  ((l.write ['\x7b']).keepBreaks style).newline

def closeBrace (style : PageStyle) (previous : Text) (l : Layout) : Layout :=
  let l := l.outdent.newline
  let l := if previous = ['\x7b'] then l.trim else l
  let l := l.leaveValue.write ['\x7d']
  let l := { l with insideRule := false, nested := l.nested - 1 }
  let l := (l.keepBreaks style).newline
  let l := if l.page.afterBlankLine || l.meets '\x7d' then l else l.newlineAlways
  if l.meets ')' then l.trim else l

/-- Whether a colon stands between a property and its value. -/
def endsProperty (l : Layout) : Bool :=
  (l.insideRule || l.enteringCondition) && !(l.follows ['&'] || Scan.opensRule 0 (l.rest.drop 1)) &&
    !l.follows ['('] && !l.insideStatement && l.parens == 0

/-- A colon: the end of a property, or the start of a pseudo-class or a pseudo-element. -/
def colon (style : PageStyle) (l : Layout) : Layout :=
  let grid := l.follows "grid-template-areas".toList || l.follows "grid-template".toList
  let l := { l with insideGrid := l.insideGrid || grid }
  if l.endsProperty then
    let l := l.write [':']
    if l.insideValue then l else (l.space.keepBreaks style).enterValue
  else
    let l := l.spaceIf (l.follows [' '])
    match l.rest with
    | ':' :: rest => (l.advance [':'] rest).write [':', ':']
    | _ => l.write [':']

def isQuote (piece : Text) : Bool :=
  piece == ['"'] || piece == ['\'']

def quotation (style : PageStyle) (reason : Bool) (quote : Text) (l : Layout) :
    Except LayoutFault Layout := do
  return (← (l.spaceIf reason).writeThrough quote quote).keepBreaks style

def semicolon (style : PageStyle) (l : Layout) : Layout :=
  let l := { l with insideGrid := false }
  if l.parens = 0 then
    let l := { l.leaveValue with insideStatement := false }
    let l := (l.write [';']).keepBreaks style
    if l.meets '/' then l else l.newline
  else ((l.write [';']).keepBreaks style).space

/-- An opening parenthesis. An address without quotes is read whole. -/
def openParen (afterBlank : Bool) (previous : Text) (l : Layout) : Except LayoutFault Layout :=
  if l.follows "url".toList then
    let l := (l.write ['(']).skipBlanks.enterParens
    match l.rest with
    | [] => .ok l
    | c :: rest =>
      if c = ')' ∨ isQuote [c] then .ok l
      else do return (← (l.advance [c] rest).writeThrough [c] [')']).leaveParens
  else
    let l := (l.spaceIf (afterBlank || l.follows "with".toList)).write ['(']
    if l.insideValue ∧ previous = ['$'] then .ok { l.newline with insideMap := true }
    else .ok l.skipBlanks.enterParens

def closeParen (l : Layout) : Layout :=
  let l := l.leaveParens
  let l := if l.insideMap && l.meets ';' then { l.outdent.newline with insideMap := false } else l
  l.write [')']

def comma (style : PageStyle) (l : Layout) : Layout :=
  let l := (l.write [',']).keepBreaks style
  if (!l.insideValue || l.insideMap) && l.parens == 0 && !l.insideStatement then l.newline
  else l.space

def plain (reason : Bool) (piece : Text) (l : Layout) : Layout :=
  let l := (l.spaceIf reason).write piece
  if l.insideGrid && l.meets '\n' then l.newline else l

/-- Whether a piece joins two selectors here. -/
def isCombinator (piece : Text) (l : Layout) : Bool :=
  (piece == ['>'] || piece == ['+'] || piece == ['~']) && !l.insideValue && l.parens == 0

/-- Lays out a piece, given the one before it and whether blanks stand between them. -/
def piece (style : PageStyle) (afterBlank : Bool) (previous piece : Text) (l : Layout) :
    Except LayoutFault Layout :=
  let reason := afterBlank || isQuote previous
  if piece = ['/'] ∧ l.meets '*' then .ok (l.blockComment style)
  else if piece = ['/'] ∧ l.meets '/' then .ok (l.lineComment style)
  else if piece = ['$'] then l.dollar afterBlank
  else if piece = ['@'] then l.atRule afterBlank
  else if piece = ['#'] ∧ l.meets '\x7b' then (l.spaceIf afterBlank).writeThrough ['#'] ['\x7d']
  else if piece = ['\x7b'] then .ok (l.openBrace style previous)
  else if piece = ['\x7d'] then .ok (l.closeBrace style previous)
  else if piece = [':'] then .ok (l.colon style)
  else if isQuote piece then l.quotation style reason piece
  else if piece = [';'] then .ok (l.semicolon style)
  else if piece = ['('] then l.openParen afterBlank previous
  else if piece = [')'] then .ok l.closeParen
  else if piece = [','] then .ok (l.comma style)
  else if l.isCombinator piece then .ok (l.write piece).skipBlanks
  else if piece = [']'] then .ok (l.write piece)
  else if piece = ['['] then .ok ((l.spaceIf afterBlank).write piece)
  else if piece = ['='] then .ok (l.skipBlanks.write piece)
  else if piece = ['!'] ∧ ¬ l.follows ['\\'] then .ok (l.space.write piece)
  else .ok (l.plain reason piece)

/-- Lays out the rest, given a bound on the number of pieces in it. -/
def run (style : PageStyle) : Nat → Layout → Except LayoutFault Layout
  | 0, l => .ok l
  | bound + 1, l =>
    let afterBlank := l.rest.head?.any Text.isBlank
    let l := l.skipBlanks
    let step (read rest : Text) : Except LayoutFault Layout := do
      let next ← { l.advance read rest with last := read }.piece style afterBlank l.last read
      run style bound next
    match l.rest with
    | [] => .ok l
    | '\\' :: c :: rest => step ['\\', c] rest
    | c :: rest => step [c] rest

/-- The text with line feeds as its only line breaks. -/
def unifyBreaks : Text → Text
  | [] => []
  | '\r' :: '\n' :: rest => '\n' :: unifyBreaks rest
  | c :: rest => (if c = '\r' then '\n' else c) :: unifyBreaks rest

/-- The first line break of a text. -/
def firstBreak? : Text → Option Text
  | [] => none
  | '\r' :: '\n' :: _ => some ['\r', '\n']
  | c :: rest => if c = '\r' ∨ c = '\n' then some [c] else firstBreak? rest

/-- The stylesheet laid out. Lines start as far to the right as the stylesheet does, and end the way
its first line does. -/
def ofText (style : PageStyle) (text : Text) : Except LayoutFault Text := do
  let unified := unifyBreaks text
  let base := unified.takeWhile (fun c => c == ' ' || c == '\t')
  let l ← run style unified.length { rest := unified }
  let laidOut ← style.text base l.page
  return Text.replace ['\n'] ((firstBreak? text).getD ['\n']) laidOut

end Layout

end NestedStyles
