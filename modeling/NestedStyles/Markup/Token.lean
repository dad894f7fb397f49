import NestedStyles.Markup.Node
import NestedStyles.Markup.Reference

/-!
The tokens of a document: text, comments, and the tags that open and close elements.

The scanner reads one character at a time. What it does depends on its state, the character and the
text ahead of it, and never on the elements that are open.
-/

set_option autoImplicit false

namespace NestedStyles

/-- A token. References in its text and in its attribute values are resolved. -/
inductive Token where
  | text (content : Text)
  | comment (content : Text)
  /-- A start tag. A slash at its very end says that the element has no content. -/
  | opening (tag : Text) (attributes : Attributes) (selfClosing : Bool)
  | closing (tag : Text)
  deriving DecidableEq, Repr

namespace Token

/-- How far the text of a script has hidden its end tag from the scanner. -/
inductive ScriptPhase where
  | open
  | commented
  | nested
  deriving DecidableEq, Repr

/-- How the text after a start tag is read. -/
inductive Content where
  /-- Text with references, ended by any tag. -/
  | markup
  /-- Text with references, ended by the end tag of the element only. -/
  | escapable (tag : Text)
  /-- Text without references, ended by the end tag of the element only. -/
  | raw (tag : Text)
  | script (phase : ScriptPhase)
  /-- Text without references to the end of the document. -/
  | plain
  deriving DecidableEq, Repr

/-- The elements whose text is read without references. -/
def rawTags : List Text :=
  ["style".toList, "xmp".toList, "iframe".toList, "noembed".toList, "noframes".toList]

/-- The elements whose text has references but no tags. -/
def escapableTags : List Text :=
  ["title".toList, "textarea".toList]

def Content.ofTag (tag : Text) : Content :=
  if rawTags.contains tag then .raw tag
  else if escapableTags.contains tag then .escapable tag
  else if tag = "script".toList then .script .open
  else if tag = "plaintext".toList then .plain
  else .markup

/-- Whether references are resolved in the text. -/
def Content.resolves : Content → Bool
  | .markup => true
  | .escapable _ => true
  | _ => false

/-- Where in a tag the scanner is. -/
inductive TagPhase where
  | beforeName
  /-- After a slash. -/
  | slash
  | name (reversed : Text)
  | afterName (name : Text)
  | beforeValue (name : Text)
  | quoted (name : Text) (quote : Char) (reversed : Text)
  | unquoted (name : Text) (reversed : Text)
  deriving DecidableEq, Repr

/-- A tag as far as it has been read. The attributes are in reverse order. -/
structure Draft where
  closes : Bool
  tag : Text
  attributes : Attributes := []
  deriving DecidableEq, Repr

/-- What the scanner is reading. Text and names are kept in reverse while they grow. -/
inductive State where
  | content (kind : Content) (reversed : Text)
  /-- After the `<` of a tag or a comment. -/
  | opened
  /-- After `</`. -/
  | openedEnd
  | tagName (closes : Bool) (reversed : Text)
  | tag (draft : Draft) (phase : TagPhase)
  /-- After `<!--`, where a comment may end at once. -/
  | commentStart
  | comment (reversed : Text)
  /-- A comment that the next `>` ends. -/
  | bogusComment (reversed : Text)
  | doctype
  /-- The given number of characters and one more have already been dealt with. -/
  | skip (count : Nat) (next : State)

/-- The blanks inside tags. -/
def isTagBlank (c : Char) : Bool :=
  c == ' ' || c == '\t' || c == '\n' || c == '\r' || c == '\x0c'

def isLetter (c : Char) : Bool :=
  c.isAlpha

/-- Whether the text after a `<` makes it the start of a tag or a comment. -/
def opensMarkup : Text → Bool
  | [] => false
  | c :: _ => isLetter c || c == '/' || c == '!' || c == '?'

/-- Whether the text starts with a name in any case, and the name ends there. -/
def startsWithName (name text : Text) : Bool :=
  Text.asciiLower (text.take name.length) == name &&
    match text.drop name.length with
    | [] => false
    | c :: _ => isTagBlank c || c == '/' || c == '>'

/-- Whether the text after a `<` makes it the end tag of an element. -/
def closes (tag : Text) : Text → Bool
  | '/' :: rest => startsWithName tag rest
  | _ => false

/-- The token of a run of text; nothing for an empty run. -/
def ofRun (kind : Content) (reversed : Text) : List Token :=
  match reversed.reverse with
  | [] => []
  | c :: rest => [.text (if kind.resolves then Reference.decode (c :: rest) else c :: rest)]

/-- The attributes whose bare name stands for the name itself. -/
def switchNames : List Text :=
  ["checked".toList, "compact".toList, "declare".toList, "defer".toList, "disabled".toList,
    "ismap".toList, "multiple".toList, "nohref".toList, "noresize".toList, "noshade".toList,
    "nowrap".toList, "readonly".toList, "selected".toList]

namespace Draft

/-- The tag with one more attribute, unless it has one of that name. -/
def add (draft : Draft) (name value : Text) : Draft :=
  if draft.attributes.any (fun entry => entry.1 == name) then draft
  else { draft with attributes := (name, value) :: draft.attributes }

/-- The tag with one more attribute that has no value. -/
def addBare (draft : Draft) (name : Text) : Draft :=
  draft.add name (if switchNames.contains name then name else [])

/-- The tag with one more attribute, its value as it is written. -/
def addWritten (draft : Draft) (name reversed : Text) : Draft :=
  draft.add name (Reference.decodeValue reversed.reverse)

/-- The token of a finished tag, and what the scanner reads next. -/
def finish (draft : Draft) (selfClosing : Bool) : List Token × State :=
  if draft.closes then ([.closing draft.tag], .content .markup [])
  else
    ([.opening draft.tag draft.attributes.reverse selfClosing],
      .content (if selfClosing then .markup else .ofTag draft.tag) [])

end Draft

def stepScript (phase : ScriptPhase) (reversed : Text) (c : Char) (ahead : Text) :
    List Token × State :=
  let stay (phase : ScriptPhase) : List Token × State :=
    ([], .content (.script phase) (c :: reversed))
  let leavesComment := c == '-' && "->".toList.isPrefixOf ahead
  match phase with
  | .open =>
    if c = '<' && closes "script".toList ahead then
      (ofRun (.script phase) reversed, .opened)
    else if c = '<' && "!--".toList.isPrefixOf ahead then stay .commented
    else stay .open
  | .commented =>
    if leavesComment then stay .open
    else if c = '<' && closes "script".toList ahead then
      (ofRun (.script phase) reversed, .opened)
    else if c = '<' && startsWithName "script".toList ahead then stay .nested
    else stay .commented
  | .nested =>
    if leavesComment then stay .open
    else if c = '<' && closes "script".toList ahead then stay .commented
    else stay .nested

def stepContent (kind : Content) (reversed : Text) (c : Char) (ahead : Text) :
    List Token × State :=
  let ends := c == '<' && match kind with
    | .markup => opensMarkup ahead
    | .escapable tag => closes tag ahead
    | .raw tag => closes tag ahead
    | _ => false
  match kind with
  | .script phase => stepScript phase reversed c ahead
  | _ =>
    if ends then (ofRun kind reversed, .opened) else ([], .content kind (c :: reversed))

/-- The character after the `<` of a tag or a comment. -/
def stepOpened (c : Char) (ahead : Text) : List Token × State :=
  if c = '/' then ([], .openedEnd)
  else if c = '?' then ([], .bogusComment [c])
  else if c = '!' then
    if "--".toList.isPrefixOf ahead then ([], .skip 1 .commentStart)
    else if Text.asciiLower (ahead.take 7) == "doctype".toList then ([], .doctype)
    else ([], .bogusComment [])
  else ([], .tagName false [c.toLower])

def stepOpenedEnd (c : Char) : List Token × State :=
  if isLetter c then ([], .tagName true [c.toLower])
  else if c = '>' then ([], .content .markup [])
  else ([], .bogusComment [c])

def stepTagName (closes : Bool) (reversed : Text) (c : Char) : List Token × State :=
  let draft : Draft := { closes := closes, tag := reversed.reverse }
  if isTagBlank c then ([], .tag draft .beforeName)
  else if c = '/' then ([], .tag draft .slash)
  else if c = '>' then draft.finish false
  else ([], .tagName closes (c.toLower :: reversed))

/-- One character of a tag where the name of an attribute may begin. -/
def stepBeforeName (draft : Draft) (afterSlash : Bool) (c : Char) : List Token × State :=
  if isTagBlank c then ([], .tag draft .beforeName)
  else if c = '/' then ([], .tag draft .slash)
  else if c = '>' then draft.finish afterSlash
  else ([], .tag draft (.name [c.toLower]))

/-- One character of a tag after its name. -/
def stepTag (draft : Draft) (phase : TagPhase) (c : Char) : List Token × State :=
  match phase with
  | .beforeName => stepBeforeName draft false c
  | .slash => stepBeforeName draft true c
  | .name reversed =>
    if isTagBlank c then ([], .tag draft (.afterName reversed.reverse))
    else if c = '/' then ([], .tag (draft.addBare reversed.reverse) .slash)
    else if c = '>' then (draft.addBare reversed.reverse).finish false
    else if c = '=' then ([], .tag draft (.beforeValue reversed.reverse))
    else ([], .tag draft (.name (c.toLower :: reversed)))
  | .afterName name =>
    if isTagBlank c then ([], .tag draft phase)
    else if c = '/' then ([], .tag (draft.addBare name) .slash)
    else if c = '>' then (draft.addBare name).finish false
    else if c = '=' then ([], .tag draft (.beforeValue name))
    else ([], .tag (draft.addBare name) (.name [c.toLower]))
  | .beforeValue name =>
    if isTagBlank c then ([], .tag draft phase)
    else if c = '"' ∨ c = '\'' then ([], .tag draft (.quoted name c []))
    else if c = '>' then (draft.add name []).finish false
    else ([], .tag draft (.unquoted name [c]))
  | .quoted name quote reversed =>
    if c = quote then ([], .tag (draft.addWritten name reversed) .beforeName)
    else ([], .tag draft (.quoted name quote (c :: reversed)))
  | .unquoted name reversed =>
    if isTagBlank c then ([], .tag (draft.addWritten name reversed) .beforeName)
    else if c = '>' then (draft.addWritten name reversed).finish false
    else ([], .tag draft (.unquoted name (c :: reversed)))

def stepComment (reversed : Text) (c : Char) (ahead : Text) : List Token × State :=
  if c = '-' && "->".toList.isPrefixOf ahead then
    ([.comment reversed.reverse], .skip 1 (.content .markup []))
  else if c = '-' && "-!>".toList.isPrefixOf ahead then
    ([.comment reversed.reverse], .skip 2 (.content .markup []))
  else ([], .comment (c :: reversed))

def stepCommentStart (c : Char) (ahead : Text) : List Token × State :=
  if c = '>' then ([.comment []], .content .markup [])
  else if c = '-' && ">".toList.isPrefixOf ahead then
    ([.comment []], .skip 0 (.content .markup []))
  else stepComment [] c ahead

/-- One character of the document, with the text ahead of it. -/
def step : State → Char → Text → List Token × State
  | .content kind reversed, c, ahead => stepContent kind reversed c ahead
  | .opened, c, ahead => stepOpened c ahead
  | .openedEnd, c, _ => stepOpenedEnd c
  | .tagName closes reversed, c, _ => stepTagName closes reversed c
  | .tag draft phase, c, _ => stepTag draft phase c
  | .commentStart, c, ahead => stepCommentStart c ahead
  | .comment reversed, c, ahead => stepComment reversed c ahead
  | .bogusComment reversed, c, _ =>
    if c = '>' then ([.comment reversed.reverse], .content .markup [])
    else ([], .bogusComment (c :: reversed))
  | .doctype, c, _ => ([], if c = '>' then .content .markup [] else .doctype)
  | .skip 0 next, _, _ => ([], next)
  | .skip (count + 1) next, _, _ => ([], .skip count next)

/-- What the end of the document leaves of the token being read. An unfinished tag is dropped. -/
def finish : State → List Token
  | .content kind reversed => ofRun kind reversed
  | .openedEnd => [.text "</".toList]
  | .commentStart => [.comment []]
  | .comment reversed => [.comment reversed.reverse]
  | .bogusComment reversed => [.comment reversed.reverse]
  | _ => []

def scan (state : State) : Text → List Token
  | [] => finish state
  | c :: rest =>
    let (tokens, next) := step state c rest
    tokens ++ scan next rest

/-- The characters of a document as they count for scanning: a line ends in one line feed, and the
character zero is replaced. -/
def prepare : Text → Text
  | [] => []
  | '\r' :: '\n' :: rest => '\n' :: prepare rest
  | c :: rest =>
    (if c = '\r' then '\n' else if c.toNat = 0 then Reference.replacementChar else c) ::
      prepare rest

def ofText (text : Text) : List Token :=
  scan (.content .markup []) (prepare text)

end Token

end NestedStyles
