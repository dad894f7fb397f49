import NestedStyles.Text.Basic

/-!
Which elements may stand where: elements without content, start tags that close open elements, and
how far an end tag reaches.
-/

set_option autoImplicit false

namespace NestedStyles

namespace Nesting

/-- Reads a list of tags that are written with one space between them. -/
def tags (written : String) : List Text :=
  Text.splitAt ' ' written.toList

def voidTags : List Text :=
  tags "area base basefont br col frame hr img input isindex link meta param"

/-- The elements that open a head where there is none. -/
def headTags : List Text :=
  tags "script style meta link title base"

/-- The elements, apart from those of the head, that do not open a body. -/
def bodylessTags : List Text :=
  tags "noframes frame frameset"

/-- The start tags that close an open head. -/
def headEnders : List Text :=
  tags ("a abbr acronym address b bdo big blockquote body br center cite code dd dfn dir div dl " ++
    "dt em fieldset font form frameset h1 h2 h3 h4 h5 h6 hr i iframe img kbd li listing map " ++
    "menu ol p pre q s samp small span strike strong sub sup table tt u ul var xmp")

/-- The start tags that close an open paragraph. -/
def paragraphEnders : List Text :=
  tags ("address blockquote caption center col colgroup dd dir div dl dt fieldset form frameset " ++
    "h1 h2 h3 h4 h5 h6 hr li menu ol p pre table tbody td tfoot th title tr ul xmp")

/-- The open elements that start tags close, with those start tags. -/
def closeTable : List (List Text × List Text) := [
  (tags "a", tags "a fieldset table td th"),
  (tags "address", tags "dd dl dt form li ul"),
  (tags "b i", tags "center p td th"),
  (tags "big s small strike tt", tags "p"),
  (tags "caption", tags "col colgroup tbody tfoot thead tr"),
  (tags "colgroup", tags "colgroup tbody tfoot thead tr"),
  (tags "dd", tags "dt"),
  (tags "dt", tags "dd dl"),
  (tags "dir menu", tags "dd dl dt form ul"),
  (tags "dl", tags "form li"),
  (tags "ol", tags "form"),
  (tags "font", tags "center td th"),
  (tags "form", tags "form"),
  (tags "legend", tags "fieldset"),
  (tags "h1 h2 h3 h4 h5 h6", tags "fieldset form li p table"),
  (tags "li", tags "li"),
  (tags "option", tags "optgroup option"),
  (tags "span", tags "td th"),
  (tags "u", tags "p td th"),
  (tags "p", paragraphEnders),
  (tags "pre listing", tags "dd dl dt fieldset form li table ul"),
  (tags "ul", tags "address form menu pre"),
  (tags "tbody", tags "tbody tfoot"),
  (tags "tfoot", tags "tbody"),
  (tags "thead", tags "tbody tfoot"),
  (tags "td th", tags "tbody td tfoot th tr"),
  (tags "tr", tags "tbody tfoot tr"),
  (tags "head", headEnders)]

def closes (starting opened : Text) : Bool :=
  closeTable.any (fun row => row.1.contains opened && row.2.contains starting)

/-- How strongly an element holds against end tags from inside it. An end tag does not reach past an
element stronger than its own. -/
def strength (tag : Text) : Nat :=
  if tag = "div".toList then 150
  else if tag = "td".toList ∨ tag = "th".toList then 160
  else if tag = "tr".toList then 170
  else if tag = "thead".toList ∨ tag = "tbody".toList ∨ tag = "tfoot".toList then 180
  else if tag = "table".toList then 190
  else if tag = "head".toList ∨ tag = "body".toList then 200
  else if tag = "html".toList then 220
  else 100

end Nesting

end NestedStyles
