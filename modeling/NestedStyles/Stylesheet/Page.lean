import NestedStyles.Settings.Basic
import NestedStyles.Text.Blank
import NestedStyles.Text.Integer

/-!
The page that a stylesheet is laid out on: lines of items, each line with its indentation, and the
style in which they are written.
-/

set_option autoImplicit false

namespace NestedStyles

/-- Why a stylesheet cannot be laid out. -/
inductive LayoutFault where
  /-- A setting that counts something has a value that is no number. -/
  | noNumber (given : Value)
  /-- A backslash ends a text in which it has to be followed by a character. -/
  | openEscape
  /-- A name is missing at the end of the stylesheet. -/
  | openName
  /-- A line is indented to the left of the page. -/
  | negativeIndent

namespace LayoutFault

def message : LayoutFault → Text
  | noNumber given =>
    "int() argument must be a string, a bytes-like object or a real number, not '".toList ++
      given.typeName ++ ['\'']
  | openEscape => "can only concatenate str (not \"NoneType\") to str".toList
  | openName => "string index out of range".toList
  | negativeIndent => "list index out of range".toList

end LayoutFault

/-- How lines are written. -/
structure PageStyle where
  indentSize : Int := 4
  indentChar : Text := [' ']
  /-- How many line breaks in a row are kept at most; a first one always is. -/
  maxBreaks : Int := 5
  endWithNewline : Bool := false
  indentEmptyLines : Bool := false
  deriving DecidableEq, Repr

namespace PageStyle

/-- The whole number that a setting gives: fractions are cut, and a text that writes no number
counts as zero. -/
def number (value : Value) : Except LayoutFault Int :=
  match value with
  | .bool b => .ok (if b then 1 else 0)
  | .int n => .ok n
  | .decimal mantissa places => .ok (mantissa.tdiv (Nat.pow 10 places))
  | .text t => .ok ((Text.integer? t).getD 0)
  | value => .error (.noNumber value)

/-- The text that a setting gives, in which a backslash and a letter may stand for a character of
white space; a setting that is no text gives an empty one. -/
def characters (value : Value) : Text :=
  let text := value.text?.getD []
  Text.replace ['\\', 't'] ['\t']
    (Text.replace ['\\', 'n'] ['\n'] (Text.replace ['\\', 'r'] ['\r'] text))

/-- The style that the settings ask for. The width of lines has no effect, but it has to be a
number. -/
def ofSettings (settings : FormatSettings) : Except LayoutFault PageStyle := do
  let indentSize ← number settings.indentSize
  let maxBreaks ← number settings.maxPreservedNewlines
  let _ ← number settings.wrapLineLength
  return {
    indentSize
    indentChar := characters settings.indentChar
    maxBreaks := if settings.preserveNewlines.isOn then maxBreaks else 0
    endWithNewline := settings.endWithNewline.isOn
    indentEmptyLines := settings.indentEmptyLines.isOn }

end PageStyle

/-- A line: its level of indentation, if it has one yet, and its items in reverse. -/
structure Line where
  indent : Option Nat := none
  items : List Text := []
  deriving DecidableEq, Repr

namespace Line

def isEmpty (line : Line) : Bool :=
  line.items.isEmpty

def first? (line : Line) : Option Text :=
  line.items.getLast?

def last? (line : Line) : Option Text :=
  line.items.head?

def trim (line : Line) : Line :=
  { line with items := line.items.dropWhile (· == [' ']) }

end Line

/-- A page in the making: the line being written, and the lines above it, nearest first. -/
structure Page where
  line : Line := {}
  above : List Line := []
  /-- The indentation that a new line starts with. -/
  indent : Option Nat := none
  deriving DecidableEq, Repr

namespace Page

def isEmpty (page : Page) : Bool :=
  page.above.isEmpty && page.line.isEmpty

/-- Whether the line being written and the one above it are both empty. -/
def afterBlankLine (page : Page) : Bool :=
  page.line.isEmpty && match page.above with
    | [] => true
    | line :: _ => line.isEmpty

/-- Starts a new line below. -/
def breakLine (page : Page) : Page :=
  { page with line := { indent := page.indent }, above := page.line :: page.above }

/-- Starts a new line, unless the page is empty or the line is new already. -/
def newline (page : Page) : Page :=
  if page.line.isEmpty then page else page.breakLine

/-- Starts a new line, unless the page is empty. -/
def newlineAlways (page : Page) : Page :=
  if page.isEmpty then page else page.breakLine

def newlines : Nat → Page → Page
  | 0, page => page
  | n + 1, page => newlines n page.newlineAlways

/-- Writes an item on the line, behind a space if `spaced`. A line gets its indentation with its
first item, and the first line of the page never has any. A new line starts with the indentation of
the last item. -/
def write (level : Nat) (spaced : Bool) (item : Text) (page : Page) : Page :=
  if page.line.isEmpty then
    let indent := if page.above.isEmpty then 0 else level
    { page with line := ⟨some indent, [item]⟩, indent := some level }
  else
    let items := if spaced then [' '] :: page.line.items else page.line.items
    { page with line := { page.line with items := item :: items }, indent := some level }

/-- The last line that is not empty without the spaces at its end, and the lines above it. -/
def trimLines (line : Line) : List Line → Line × List Line
  | [] => (line.trim, [])
  | next :: above =>
    if line.trim.isEmpty then trimLines next above else (line.trim, next :: above)

/-- Removes the empty lines and the spaces at the end of the page. -/
def trim (page : Page) : Page :=
  let (line, above) := trimLines page.line page.above
  { page with line, above }

/-- The lines with an empty one below the nearest line that is neither a comment nor ended by a
comma, unless an empty line comes first. -/
def separate : List Line → List Line
  | [] => []
  | line :: above =>
    if line.isEmpty then line :: above
    else if line.first?.bind List.head? ≠ some '/' ∧ line.last? ≠ some [','] then
      {} :: line :: above
    else line :: separate above

/-- Sets the line being written off against what is above it. -/
def separateLine (page : Page) : Page :=
  { page with above := separate page.above }

end Page

namespace PageStyle

def indentation (style : PageStyle) (base : Text) : Option Nat → Except LayoutFault Text
  | none => .ok []
  | some level =>
    let width := level * style.indentSize
    if width < -1 then .error .negativeIndent
    else .ok (base ++ (List.replicate width.toNat style.indentChar).flatten)

/-- A line as it is written. -/
def line (style : PageStyle) (base : Text) (line : Line) : Except LayoutFault Text :=
  if line.isEmpty then
    if style.indentEmptyLines then style.indentation base line.indent else .ok []
  else do return (← style.indentation base line.indent) ++ line.items.reverse.flatten

/-- The items without line breaks at the end of the last one. An empty last item is dropped. -/
def endedItems : List Text → List Text
  | [] => []
  | [] :: items => items
  | item :: items => Text.dropTrailing (· == '\n') item :: items

/-- The page without line breaks at the end of its last item. -/
def ended (page : Page) : Page :=
  { page with line := { page.line with items := endedItems page.line.items } }

/-- The text of a page. Each line starts with the white space `base`. -/
def text (style : PageStyle) (base : Text) (page : Page) : Except LayoutFault Text := do
  let page := ended page.trim
  let page := if style.endWithNewline then page.breakLine else page
  let lines ← (page.line :: page.above).reverse.mapM (style.line base)
  return Text.join ['\n'] lines

end PageStyle

end NestedStyles
