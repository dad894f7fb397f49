import NestedStyles.Markup.Tree
import NestedStyles.Text.Blank
import NestedStyles.Text.Quoted

/-!
Reading a document or a fragment of one.

A document is read whole, with its outermost element. A fragment is read as the content of a body,
and the text before its first element counts only if it is not blank.
-/

set_option autoImplicit false

namespace NestedStyles

inductive MarkupFault where
  /-- There is no element at all. -/
  | empty
  /-- A fragment is not the content of exactly one body. -/
  | bodyCount (bodies : Nat) (markup : Text)
  /-- A text holds a character that no document may hold. -/
  | forbiddenText
  /-- An element has a name that no element may have. -/
  | badTag (tag : Text)
  deriving DecidableEq, Repr

namespace Branch

/-- The ranges of characters, besides letters and digits of ASCII, that names may hold. -/
def nameRanges : List (Nat × Nat) := [
  (0x2D, 0x2E), (0x5F, 0x5F), (0xB7, 0xB7), (0xC0, 0xD6), (0xD8, 0xF6), (0xF8, 0x37D),
  (0x37F, 0x1FFF), (0x200C, 0x200D), (0x203F, 0x2040), (0x2070, 0x218F), (0x2C00, 0x2FEF),
  (0x3001, 0xD7FF), (0xF900, 0xFDCF), (0xFDF0, 0xFFFD), (0x10000, 0xEFFFF)]

def isNameChar (c : Char) : Bool :=
  c.isAlphanum || Text.inRanges nameRanges c

/-- The name of an element in lower case, if elements may have it. -/
def elementName (tag : Text) : Except MarkupFault Text :=
  if tag.all isNameChar then .ok (Text.lower tag) else .error (.badTag tag)

/-- A text as a node; nothing for an empty text. -/
def textNodes : Text → List Node
  | [] => []
  | c :: rest => [.text (c :: rest)]

/-- The nodes that branches stand for, in document order and each with the text after it.
Instructions and entities leave only that text. -/
def toNodes : List Branch → Except MarkupFault (List Node)
  | [] => .ok []
  | .element tag attributes text children tail :: rest => do
    let name ← elementName tag
    let below ← toNodes children
    let others ← toNodes rest
    return .element name attributes (textNodes text ++ below) :: (textNodes tail ++ others)
  | .comment content tail :: rest => do
    let others ← toNodes rest
    return .comment content :: (textNodes tail ++ others)
  | .instruction _ tail :: rest => do
    let others ← toNodes rest
    return textNodes tail ++ others
  | .entity _ tail :: rest => do
    let others ← toNodes rest
    return textNodes tail ++ others

end Branch

namespace Markup

/-- What follows `lead` in the text, if the text starts with it in any case. -/
def afterAnyCase? (lead text : Text) : Option Text :=
  if Text.asciiLower (text.take lead.length) = lead then some (text.drop lead.length) else none

def skipBlanks (text : Text) : Text :=
  text.dropWhile Text.isBlank

/-- Whether the text starts with the start tag of a document's outermost element. -/
def startsWithRoot (text : Text) : Bool :=
  match afterAnyCase? "<html".toList text with
  | some (c :: _) => c == '>' || Text.isBlank c
  | _ => false

/-- Whether the text is a whole document: its outermost element comes first, or only after a
document type. -/
def isDocument (text : Text) : Bool :=
  let text := skipBlanks text
  startsWithRoot text ||
    match afterAnyCase? "<!doctype".toList text with
    | none => false
    | some rest =>
      match rest.dropWhile (· != '>') with
      | [] => false
      | _ :: body => startsWithRoot (skipBlanks body)

/-- Whether a fragment brings its own body. -/
def hasFrame (text : Text) : Bool :=
  let text := skipBlanks text
  (afterAnyCase? "<html".toList text).isSome || (afterAnyCase? "<!doctype".toList text).isSome

/-- Whether a character must not be stored in a document. -/
def isForbidden (c : Char) : Bool :=
  let n := c.toNat
  n ≤ 0x08 || n == 0x0B || n == 0x0C || (0x0E ≤ n && n ≤ 0x1F) || n == 0xFFFE || n == 0xFFFF

def root? (branches : List Branch) : Option Branch :=
  branches.find? (fun branch => branch.tag?.isSome)

def readDocument (text : Text) : Except MarkupFault (List Node) :=
  match root? (Tree.ofText text) with
  | none => .error .empty
  | some root => Branch.toNodes [root]

/-- The parts of the content of a body, the text before its first child left out when blank. -/
def bodyNodes (text : Text) (children : List Branch) : Except MarkupFault (List Node) :=
  if Text.allBlank text then Branch.toNodes children
  else if text.any isForbidden then .error .forbiddenText
  else do return Branch.textNodes text ++ (← Branch.toNodes children)

/-- Reads a fragment: the content of its body. -/
def readFragment (text : Text) : Except MarkupFault (List Node) :=
  let framed :=
    if hasFrame text then text else "<html><body>".toList ++ text ++ "</body></html>".toList
  match root? (Tree.ofText framed) with
  | some (.element _ _ _ parts _) =>
    match parts.filter (fun part => part.tag? == some "body".toList) with
    | [.element _ _ text children _] => bodyNodes text children
    | bodies => .error (.bodyCount bodies.length framed)
  | _ => .error .empty

/-- Reads a document or a fragment. -/
def read (text : Text) : Except MarkupFault (List Node) :=
  if Text.allBlank text then .ok []
  else if isDocument text then readDocument text
  else readFragment text

end Markup

end NestedStyles
