import NestedStyles.Log
import NestedStyles.Markup.Reading
import NestedStyles.Outline.Normal
import NestedStyles.Settings.Overlay
import NestedStyles.Stylesheet.Format
import NestedStyles.Stylesheet.Raw

/-!
From markup to a stylesheet: the markup is cleaned and read, its outline is written as nested rules,
and the rules are formatted if the settings ask for it. There is no stylesheet for markup without
any styling.
-/

set_option autoImplicit false

namespace NestedStyles

inductive ConversionFault where
  | markup (fault : MarkupFault)
  | naming (fault : NamingFault)
  | layout (fault : LayoutFault)

namespace MarkupFault

def message : MarkupFault → Text
  | empty => "Document is empty".toList
  | bodyCount bodies markup =>
    "too many bodies: [".toList ++
      Text.join ", ".toList (List.replicate bodies "<Element body>".toList) ++
      "] in ".toList ++ Text.quoted markup
  | forbiddenText =>
    ("All strings must be XML compatible: Unicode or ASCII, no NULL bytes or control " ++
      "characters").toList
  | badTag tag => "Invalid tag name ".toList ++ Text.quoted tag

def kind : MarkupFault → Text
  | empty => "ParserError".toList
  | bodyCount .. => "AssertionError".toList
  | forbiddenText => "ValueError".toList
  | badTag _ => "ValueError".toList

end MarkupFault

def LayoutFault.kind : LayoutFault → Text
  | noNumber _ => "TypeError".toList
  | openEscape => "TypeError".toList
  | openName => "IndexError".toList
  | negativeIndent => "IndexError".toList

namespace ConversionFault

def message : ConversionFault → Text
  | markup fault => fault.message
  | naming fault => fault.message
  | layout fault => fault.message

def kind : ConversionFault → Text
  | markup fault => fault.kind
  | naming _ => "TypeError".toList
  | layout fault => fault.kind

end ConversionFault

/-- What a step did: the records it made, and its result or why it has none. -/
structure Outcome (ε α : Type) where
  log : List Record
  result : Except ε α

section Converting

variable [Romanization]

namespace Conversion

def stylesheet (settings : Settings) (outline : List Entry) : Except ConversionFault Text := do
  let raw ← (Raw.ofOutline settings 0 outline).mapError .naming
  if settings.formatOutput.isOn then (formatStylesheet settings.format raw).mapError .layout
  else return raw

def readRecord (nodes : List Node) : Record where
  level := .debug
  origin := .reading
  message :=
    "Parsed HTML into ".toList ++ Text.ofNat nodes.length ++ " top level nodes.".toList

/-- The record of style blocks gathered at a depth. -/
def gatheredRecord (gathered : Nat × Int) : Record where
  level := .debug
  origin := .outlining
  message :=
    "Collected ".toList ++ Text.ofNat gathered.1 ++ " <style> block(s) at depth ".toList ++
      Text.ofInt gathered.2 ++ ['.']

/-- The record of markup without styling. -/
def unstyledRecord : Record where
  level := .debug
  origin := .converting
  message := "No class, style or <style> content found.".toList

def ofNodes (settings : Settings) (nodes : List Node) : Outcome ConversionFault (Option Text) :=
  let log := readRecord nodes :: (Outline.gathered 1 nodes).map gatheredRecord
  match Outline.ofForest? 1 nodes with
  | none => ⟨log ++ [unstyledRecord], .ok none⟩
  | some outline => ⟨log, (stylesheet settings outline).map some⟩

def run (settings : Settings) (markup : Text) : Outcome ConversionFault (Option Text) :=
  match Text.clean? markup with
  | none => ⟨[], .ok none⟩
  | some cleaned =>
    match Markup.read cleaned with
    | .error fault => ⟨[], .error (.markup fault)⟩
    | .ok nodes => ofNodes settings nodes

end Conversion

/-- The stylesheet of markup; none if it has no styling. -/
def convert (settings : Settings) (markup : Text) : Except ConversionFault (Option Text) :=
  (Conversion.run settings markup).result

/-- The stylesheet of markup that may be missing; none for no markup. -/
def convertGiven (settings : Settings) : Option Text → Except ConversionFault (Option Text)
  | none => .ok none
  | some markup => convert settings markup

end Converting

end NestedStyles
