import NestedStyles.Markup.Nesting
import NestedStyles.Markup.Token

/-!
The tree of a document. It keeps the text before the first child of an element with the element,
and the text after a child with that child.

The tree is built with a stack of open elements. A start tag first closes what it cannot stand in,
then opens the elements it needs around itself; an end tag closes what is open inside its element.
-/

set_option autoImplicit false

namespace NestedStyles

/-- A node of the tree, with the text that follows it. -/
inductive Branch where
  | element (tag : Text) (attributes : Attributes) (text : Text) (children : List Branch)
    (tail : Text)
  | comment (content tail : Text)
  | instruction (content tail : Text)
  | entity (name tail : Text)

namespace Branch

/-- The text that follows a node. -/
def tail : Branch → Text
  | element _ _ _ _ tail => tail
  | comment _ tail => tail
  | instruction _ tail => tail
  | entity _ tail => tail

def addTail (more : Text) : Branch → Branch
  | element tag attributes text children tail =>
    element tag attributes text children (tail ++ more)
  | comment content tail => comment content (tail ++ more)
  | instruction content tail => instruction content (tail ++ more)
  | entity name tail => entity name (tail ++ more)

/-- The tag, if the node is an element. -/
def tag? : Branch → Option Text
  | element tag _ _ _ _ => some tag
  | _ => none

end Branch

namespace Tree

/-- An open element. Its children are in reverse order. -/
structure Frame where
  tag : Text
  attributes : Attributes
  text : Text := []
  children : List Branch := []

namespace Frame

/-- The element with a text at its end. -/
def addText (more : Text) (frame : Frame) : Frame :=
  match frame.children with
  | [] => { frame with text := frame.text ++ more }
  | last :: others => { frame with children := last.addTail more :: others }

def addChild (child : Branch) (frame : Frame) : Frame :=
  { frame with children := child :: frame.children }

def close (frame : Frame) : Branch :=
  .element frame.tag frame.attributes frame.text frame.children.reverse []

end Frame

/-- A tree under construction: the open elements, innermost first, and the finished nodes of the
outermost level in reverse. -/
structure Growing where
  stack : List Frame := []
  roots : List Branch := []
  /-- Start tags of the document's frame that were ignored, and whose end tags are to be. -/
  ignored : Nat := 0
  headSeen : Bool := false
  bodySeen : Bool := false

namespace Growing

def top? (t : Growing) : Option Text :=
  t.stack.head?.map Frame.tag

def isOpen (t : Growing) (tag : Text) : Bool :=
  t.stack.any (fun frame => frame.tag == tag)

/-- Adds a finished node to the innermost open element. -/
def add (t : Growing) (node : Branch) : Growing :=
  match t.stack with
  | [] => { t with roots := node :: t.roots }
  | frame :: outer => { t with stack := frame.addChild node :: outer }

/-- Adds text to the innermost open element. Outside all elements it is lost. -/
def addText (t : Growing) (text : Text) : Growing :=
  match t.stack with
  | [] => t
  | frame :: outer => { t with stack := frame.addText text :: outer }

def push (t : Growing) (tag : Text) (attributes : Attributes) : Growing :=
  { t with
    stack := { tag, attributes } :: t.stack
    headSeen := t.headSeen || tag == "head".toList
    bodySeen := t.bodySeen || tag == "body".toList }

def pop (t : Growing) : Growing :=
  match t.stack with
  | [] => t
  | frame :: outer => { t with stack := outer }.add frame.close

def popMany : Nat → Growing → Growing
  | 0, t => t
  | n + 1, t => popMany n t.pop

/-- Closes the open elements that cannot hold the element that starts. -/
def closeFor (t : Growing) (tag : Text) : Growing :=
  popMany (t.stack.takeWhile (fun frame => Nesting.closes tag frame.tag)).length t

/-- Opens the document's head or body if the element that starts needs one. -/
def imply (t : Growing) (tag : Text) : Growing :=
  if tag = "html".toList then t
  else
    let t := if t.stack.isEmpty then t.push "html".toList [] else t
    if tag = "head".toList ∨ tag = "body".toList then t
    else if t.stack.length ≤ 1 && Nesting.headTags.contains tag then
      if t.headSeen || t.bodySeen then t else t.push "head".toList []
    else if Nesting.bodylessTags.contains tag then t
    else if t.bodySeen || t.isOpen "body".toList || t.isOpen "head".toList then t
    else t.push "body".toList []

/-- Whether a start tag is ignored because the document has that part of its frame already. -/
def isMisplaced (t : Growing) (tag : Text) : Bool :=
  (tag == "html".toList && !t.stack.isEmpty) ||
    (tag == "head".toList && t.stack.length != 1) ||
    (tag == "body".toList && t.isOpen "body".toList)

/-- Adds the element that a start tag begins. A tag that ends with a slash closes the innermost open
element, which is its own unless the tag is ignored. -/
def start (t : Growing) (tag : Text) (attributes : Attributes) (selfClosing : Bool) : Growing :=
  let t := (t.closeFor tag).imply tag
  if t.isMisplaced tag then
    let t := { t with ignored := t.ignored + 1 }
    if selfClosing then t.pop else t
  else
    let t := t.push tag attributes
    if selfClosing || Nesting.voidTags.contains tag then t.pop else t

/-- How many open elements an end tag closes, its own the last of them; none if its element is not
open or out of reach. -/
def reach? (tag : Text) : List Frame → Option Nat
  | [] => none
  | frame :: outer =>
    if frame.tag = tag then some 1
    else if Nesting.strength tag < Nesting.strength frame.tag then none
    else (reach? tag outer).map (· + 1)

/-- Whether a tag names a part of the document's frame. -/
def isFrameTag (tag : Text) : Bool :=
  tag == "html".toList || tag == "head".toList || tag == "body".toList

/-- Closes the element that an end tag ends, and what is open inside it. -/
def stop (t : Growing) (tag : Text) : Growing :=
  if t.ignored ≠ 0 ∧ isFrameTag tag then { t with ignored := t.ignored - 1 }
  else match reach? tag t.stack with
    | none => t
    | some count => popMany count t

/-- Adds text where it stands. Outside the body, blanks stay where they are and other text opens
a body. -/
def write (t : Growing) (text : Text) : Growing :=
  let outside := match t.top? with
    | none => true
    | some tag => tag == "html".toList || tag == "head".toList
  if outside then
    let t := t.addText (text.takeWhile Token.isTagBlank)
    match text.dropWhile Token.isTagBlank with
    | [] => t
    | rest =>
      let paragraph := "p".toList
      let t := if t.top? = some "head".toList then t.closeFor paragraph else t
      (t.imply paragraph).addText rest
  else t.addText text

def grow (t : Growing) : Token → Growing
  | .text content => t.write content
  | .comment content => t.add (.comment content [])
  | .opening tag attributes selfClosing => t.start tag attributes selfClosing
  | .closing tag => t.stop tag

def finish (t : Growing) : List Branch :=
  (popMany t.stack.length t).roots.reverse

end Growing

def ofText (text : Text) : List Branch :=
  ((Token.ofText text).foldl Growing.grow {}).finish

end Tree

end NestedStyles
