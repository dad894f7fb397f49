import NestedStyles.Outline.Entry

/-!
From markup to its outline.

Text is dropped, and so is every element that has no styling and no styled element below it. The
comments in front of an element give its label. Style elements become style blocks, which are
lifted from level to level up to the top.
-/

set_option autoImplicit false

namespace NestedStyles

namespace Outline

/-- How many neighbours in front of an element are searched for comments. -/
def labelReach : Nat := 2

/-- The label that a neighbour gives, if it is a comment that says anything. -/
def labelPart? : Node → Option Text
  | .comment content => Text.cleanComment? content
  | _ => none

/-- The label of an element, from the neighbours in front of it, nearest first. Of two comments
the farther is named first. -/
def label (before : List Node) : Text :=
  Text.join ", ".toList ((before.take labelReach).filterMap labelPart?).reverse

def labelAt (candidates : List Node) (index : Nat) : Text :=
  label (candidates.take index).reverse

/-- What a level of a forest gives to an outline: the style blocks that stand on it or were lifted to
it from below, and the elements with styling. -/
structure Level where
  blocks : List StyleBlock := []
  elements : List Entry := []

/-- The entries of a level: first the style blocks, then the elements. -/
def Level.entries (level : Level) : List Entry :=
  level.blocks.map Entry.block ++ level.elements

/-- The entry of an element, given the entries of its children. There is none for an element without
styling and without such children. -/
def element? (subject : Subject) : List Entry → Option Entry
  | [] => if subject.styling.isNone then none else some (.element subject none)
  | kept :: more => some (.element subject (some (kept :: more)))

/-- What the nodes of one level give in a single pass, at the given depth and with the given
candidates in front of them, nearest first. The style blocks of a child's level are lifted to this
one. What stands inside a style element is its text and nothing else. -/
def levelFrom (depth : Int) (before : List Node) : List Node → Level
  | [] => {}
  | .text _ :: rest => levelFrom depth before rest
  | .comment content :: rest => levelFrom depth (.comment content :: before) rest
  | .element tag attributes children :: rest =>
    if tag = Node.styleTag then
      let others := levelFrom depth before rest
      ⟨StyleBlock.ofChildren children :: others.blocks, others.elements⟩
    else
      let below := levelFrom (depth + 1) [] children
      let others := levelFrom depth (.element tag attributes children :: before) rest
      let kept := element? ⟨tag, label before, depth, Styling.ofAttributes? attributes⟩ below.elements
      ⟨below.blocks ++ others.blocks, kept.toList ++ others.elements⟩

def level (depth : Int) (forest : List Node) : Level :=
  levelFrom depth [] forest

/-- The outline of a forest whose top level counts as the given depth. There is none if nothing has
styling. -/
def ofForest? (depth : Int) (forest : List Node) : Option (List Entry) :=
  match (level depth forest).entries with
  | [] => none
  | entry :: more => some (entry :: more)

/-- The number of style blocks at and below one level, paired with its depth; nothing where there
are none. -/
def gatheredHere (depth : Int) (forest : List Node) : List (Nat × Int) :=
  match (level depth forest).blocks.length with
  | 0 => []
  | count + 1 => [(count + 1, depth)]

/-- How many style blocks are gathered at each depth below a forest, the inner levels first. -/
def gatheredBelow (depth : Int) : List Node → List (Nat × Int)
  | [] => []
  | .text _ :: rest => gatheredBelow depth rest
  | .comment _ :: rest => gatheredBelow depth rest
  | .element tag _ children :: rest =>
    if tag = Node.styleTag then gatheredBelow depth rest
    else
      gatheredBelow (depth + 1) children ++ gatheredHere (depth + 1) children ++
        gatheredBelow depth rest
termination_by forest => sizeOf forest
decreasing_by
  all_goals
    simp only [List.cons.sizeOf_spec, Node.element.sizeOf_spec]
    omega

/-- How many style blocks are gathered at each depth of a forest, the inner levels first. -/
def gathered (depth : Int) (forest : List Node) : List (Nat × Int) :=
  gatheredBelow depth forest ++ gatheredHere depth forest

end Outline

end NestedStyles
