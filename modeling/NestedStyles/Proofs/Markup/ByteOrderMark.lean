import NestedStyles.Files.Conversion
import NestedStyles.Proofs.Markup.Frames
import NestedStyles.Proofs.Markup.Walk
import NestedStyles.Proofs.Results
import NestedStyles.Proofs.Text.Tidiness

/-!
Documents behind a byte order mark. The mark is no blank, so it stays with the text that is cleaned, and
what follows it is read as a fragment: as the content of a body, in which the parser ignores the tags of
the frame. So a document loses its outermost element and its body, with all that these were given.
-/

set_option autoImplicit false

namespace NestedStyles

open Tree.Growing (isFrameTag)

namespace Node

/-- That a node is an element of the frame of a document. -/
def IsFrame (node : Node) : Prop :=
  ∃ tag attributes children, node = .element tag attributes children ∧ isFrameTag tag = true

/-- That no node of a forest is an element of the frame, wherever it stands. -/
def Frameless (forest : List Node) : Prop :=
  ¬ ∃ place node, Place.at? children forest place = some node ∧ node.IsFrame

theorem frameless_nil : Frameless [] := by
  rintro ⟨place, node, stands, -⟩
  rw [Place.at?_empty] at stands
  cases stands

theorem frameless_cons_iff {node : Node} {rest : List Node} :
    Frameless (node :: rest) ↔ ¬ node.IsFrame ∧ Frameless node.children ∧ Frameless rest := by
  rw [Frameless, Place.exists_at?_cons children, not_or, not_or]
  rfl

theorem frameless_append {front back : List Node} (first : Frameless front) (second : Frameless back) :
    Frameless (front ++ back) := by
  induction front with
  | nil => exact second
  | cons node rest ih =>
      obtain ⟨own, below, others⟩ := frameless_cons_iff.mp first
      exact frameless_cons_iff.mpr ⟨own, below, ih others⟩

theorem frameless_textNodes (text : Text) : Frameless (Branch.textNodes text) := by
  cases text with
  | nil => exact frameless_nil
  | cons c rest =>
      refine frameless_cons_iff.mpr ⟨?_, frameless_nil, frameless_nil⟩
      rintro ⟨tag, attributes, children, same, -⟩
      cases same

end Node

namespace Branch

/-- What a branch without children leaves stands in front of what becomes of the others. -/
theorem frameless_behind {branch : Branch} {rest : List Branch} {front nodes : List Node}
    (turns : toNodes (branch :: rest) = (toNodes rest).map (front ++ ·)) (free : Node.Frameless front)
    (ih : ∀ {others : List Node}, Frameless rest → toNodes rest = .ok others → Node.Frameless others)
    (frameless : Frameless (branch :: rest)) (turned : toNodes (branch :: rest) = .ok nodes) :
    Node.Frameless nodes := by
  have behind := (frameless_cons_iff.mp frameless).2
  rw [turns] at turned
  cases made : toNodes rest with
  | error fault =>
      rw [made] at turned
      cases turned
  | ok others =>
      rw [made] at turned
      cases turned
      exact Node.frameless_append free (ih behind made)

/-- Branches outside the frame become nodes outside it. -/
theorem frameless_of_toNodes {branches : List Branch} :
    ∀ {nodes : List Node}, Frameless branches → toNodes branches = .ok nodes →
      Node.Frameless nodes := by
  induction branches using toNodes.induct with
  | case1 =>
      intro nodes _ turned
      rw [toNodes] at turned
      cases turned
      exact Node.frameless_nil
  | case2 tag attributes text children tail rest ihChildren ihRest =>
      intro nodes frameless turned
      rw [frameless_cons_iff, frameless_element_iff] at frameless
      obtain ⟨⟨ordinary, inside⟩, behind⟩ := frameless
      rw [toNodes] at turned
      obtain ⟨name, named, turned⟩ := bind_eq_ok_iff.mp turned
      obtain ⟨below, made, turned⟩ := bind_eq_ok_iff.mp turned
      obtain ⟨others, further, turned⟩ := bind_eq_ok_iff.mp turned
      cases turned
      refine Node.frameless_cons_iff.mpr ⟨?_, ?_, ?_⟩
      · rintro ⟨own, _, _, same, frame⟩
        cases same
        rw [elementName_eq_ok named, ordinary] at frame
        cases frame
      · exact Node.frameless_append (Node.frameless_textNodes text) (ihChildren inside made)
      · exact Node.frameless_append (Node.frameless_textNodes tail) (ihRest behind further)
  | case3 content tail rest ih =>
      refine fun {nodes} => frameless_behind (toNodes_comment content tail rest) ?_ ih
      refine Node.frameless_cons_iff.mpr ⟨?_, Node.frameless_nil, Node.frameless_textNodes tail⟩
      rintro ⟨_, _, _, same, -⟩
      cases same
  | case4 content tail rest ih =>
      exact fun {nodes} =>
        frameless_behind (toNodes_instruction content tail rest) (Node.frameless_textNodes tail) ih
  | case5 name tail rest ih =>
      exact fun {nodes} =>
        frameless_behind (toNodes_entity name tail rest) (Node.frameless_textNodes tail) ih

end Branch

namespace Markup

variable {text : Text} {nodes : List Node}

theorem mem_of_root? {branches : List Branch} {root : Branch} (first : root? branches = some root) :
    root ∈ branches :=
  List.mem_of_find?_eq_some first

/-- A body has no element of the frame in it. -/
theorem frameless_of_parseBody {markup : Text} {parts : List Branch} {parsed : Parsed}
    (settled : Branch.Settled parts) (parses : parseBody markup parts = .ok parsed) :
    Branch.Frameless parsed.branches := by
  rw [parseBody] at parses
  split at parses
  · rename_i tag attributes lead children tail only
    have among : Branch.element tag attributes lead children tail ∈
        parts.filter fun part => part.tag? == some "body".toList := by
      rw [only]
      exact List.mem_singleton_self _
    obtain ⟨member, body⟩ := List.mem_filter.mp among
    have own := Branch.settled_iff_forall.mp settled _ member
    -- The body is a part of the outermost element, so it is settled as the whole tree is.
    have frameless : Branch.Frameless children :=
      (Branch.settled_element_iff.mp own).1 (by simpa [Branch.tag?] using body)
    split at parses
    · cases parses
      exact frameless
    split at parses
    · cases parses
    · cases parses
      exact frameless
  · cases parses

/-- What is parsed as a fragment has no element of the frame in it. -/
theorem frameless_of_parse {parsed : Parsed} (fragment : isDocument text = false)
    (parses : parse text = .ok parsed) : Branch.Frameless parsed.branches := by
  rw [parse, fragment, if_neg Bool.false_ne_true] at parses
  split at parses
  · cases parses
    simp [Branch.Frameless, Branch.tags]
  split at parses
  · rename_i first
    have settled := Branch.settled_iff_forall.mp (Tree.settled_ofText (framed text)) _
      (mem_of_root? first)
    exact frameless_of_parseBody (Branch.settled_element_iff.mp settled).2 parses
  · cases parses

theorem frameless_of_read (fragment : isDocument text = false) (reads : read text = .ok nodes) :
    Node.Frameless nodes := by
  rw [read_eq] at reads
  obtain ⟨parsed, parses, turned⟩ := bind_eq_ok_iff.mp reads
  obtain ⟨below, made, turned⟩ := bind_eq_ok_iff.mp turned
  cases turned
  exact Node.frameless_append (Node.frameless_textNodes _)
    (Branch.frameless_of_toNodes (frameless_of_parse fragment parses) made)

theorem allBlank_of_isDocument (document : isDocument text = true) : Text.allBlank text = false := by
  by_contra blank
  rw [Bool.not_eq_false] at blank
  have nothing : skipBlanks text = [] := List.dropWhile_eq_nil_iff.mpr (List.all_eq_true.mp blank)
  rw [isDocument, nothing] at document
  exact absurd document (by decide)

/-- A document is read with its outermost element. -/
theorem exists_of_read (document : isDocument text = true) (reads : read text = .ok nodes) :
    ∃ attributes children rest, nodes = .element "html".toList attributes children :: rest := by
  rw [read, allBlank_of_isDocument document, document, if_neg Bool.false_ne_true, if_pos rfl,
    readDocument] at reads
  split at reads
  · cases reads
  rename_i root first
  have outermost : ∀ tag, root.tag? = some tag → tag = "html".toList :=
    fun _ => Tree.tag?_of_mem_ofText (mem_of_root? first)
  have tagged := List.find?_some first
  cases root with
  | element tag attributes lead children tail =>
      obtain rfl := outermost tag rfl
      have lower : Text.lower "html".toList = "html".toList := by decide +kernel
      rw [Branch.toNodes] at reads
      obtain ⟨name, named, reads⟩ := bind_eq_ok_iff.mp reads
      obtain ⟨below, -, reads⟩ := bind_eq_ok_iff.mp reads
      obtain ⟨others, -, reads⟩ := bind_eq_ok_iff.mp reads
      cases reads
      rw [Branch.elementName_eq_ok named, lower]
      exact ⟨_, _, _, rfl⟩
  | comment content tail => cases tagged
  | instruction content tail => cases tagged
  | entity name tail => cases tagged

def byteOrderMark : Char := Char.ofNat 0xFEFF

theorem afterAnyCase?_eq_none {c d : Char} (lead text : Text) (other : c.toLower ≠ d) :
    afterAnyCase? (d :: lead) (c :: text) = none := by
  rw [afterAnyCase?, if_neg]
  intro same
  exact other (List.cons.inj same).1

theorem isDocument_behind_byteOrderMark (text : Text) : isDocument (byteOrderMark :: text) = false := by
  have stays : skipBlanks (byteOrderMark :: text) = byteOrderMark :: text :=
    List.dropWhile_cons_of_neg (by decide)
  have rootless : afterAnyCase? "<html".toList (byteOrderMark :: text) = none :=
    afterAnyCase?_eq_none _ text (by decide)
  have untyped : afterAnyCase? "<!doctype".toList (byteOrderMark :: text) = none :=
    afterAnyCase?_eq_none _ text (by decide)
  rw [isDocument, stays, startsWithRoot, rootless, untyped]
  rfl

end Markup

namespace Text

/-- What begins with a character that is no blank still does so once it is cleaned. -/
theorem exists_clean?_cons {c : Char} (solid : isBlank c = false) (text : Text) :
    ∃ rest, clean? (c :: text) = some (c :: rest) := by
  obtain ⟨cleaned, result⟩ := Option.isSome_iff_exists.mp
    ((clean?_isSome_iff (c :: text)).mpr ⟨c, List.mem_cons_self, solid⟩)
  have trimmed := trim_of_clean? result
  have collapsed : collapse (c :: text) = c :: squeezeFrom isBlank ' ' false text := by
    rw [collapse, squeeze, squeezeFrom, solid, if_neg Bool.false_ne_true]
  rw [trim, collapsed, List.dropWhile_cons_of_neg (by rw [solid]; exact Bool.false_ne_true)] at trimmed
  obtain ⟨back, whole⟩ := exists_dropTrailing_append isBlank (c :: squeezeFrom isBlank ' ' false text)
  rw [trimmed] at whole
  cases cleaned with
  | nil => exact absurd rfl (ne_nil_of_clean? result)
  | cons first rest =>
      cases (List.cons.inj whole).1
      exact ⟨rest, result⟩

end Text

namespace Utf8

def byteOrderMark : List UInt8 := [0xEF, 0xBB, 0xBF]

/-- Where bytes stand makes no difference to the text in them. -/
theorem decodeFrom_eq_ok (skip position : Nat) (bytes : List UInt8) :
    ∀ (other : Nat) {text : Text}, decodeFrom skip position bytes = .ok text →
      decodeFrom skip other bytes = .ok text := by
  induction skip, position, bytes using decodeFrom.induct with
  | case1 skip position =>
      intro other text decodes
      rw [decodeFrom] at decodes ⊢
      exact decodes
  | case2 position skip byte rest ih =>
      intro other text decodes
      rw [decodeFrom] at decodes ⊢
      exact ih _ decodes
  | case3 position byte rest unstarted =>
      intro other text decodes
      rw [decodeFrom, unstarted] at decodes
      cases decodes
  | case4 position byte rest count bits started reason width broken =>
      intro other text decodes
      rw [decodeFrom, started] at decodes
      simp only [broken] at decodes
      cases decodes
  | case5 position byte rest count bits started code complete ih =>
      intro other text decodes
      rw [decodeFrom, started] at decodes ⊢
      simp only [complete] at decodes ⊢
      obtain ⟨behind, more, same⟩ := bind_eq_ok_iff.mp decodes
      rw [ih (other + 1) more]
      exact same

/-- The bytes of a byte order mark are the character, in front of any text. -/
theorem decode_byteOrderMark {bytes : List UInt8} {text : Text} (decodes : decode bytes = .ok text) :
    decode (byteOrderMark ++ bytes) = .ok (Markup.byteOrderMark :: text) := by
  have complete : continued (secondRange 0xEF) 2 1 15 (0xBB :: 0xBF :: bytes) = .ok 0xFEFF := by
    rw [continued, if_pos (by decide), continued, if_pos (by decide), continued]
    rfl
  have started : lead? 0xEF = some (2, 15) := by decide
  have behind : decodeFrom 0 3 bytes = .ok text := decodeFrom_eq_ok 0 0 bytes 3 decodes
  rw [decode, byteOrderMark, List.cons_append, List.cons_append, List.cons_append, List.nil_append,
    decodeFrom, started]
  simp only [complete]
  rw [decodeFrom, decodeFrom, behind]
  rfl

end Utf8

namespace Markup

/-- A document behind a byte order mark is read without its outermost element and without its body, from
a file, after cleaning or as it is. The same document without the mark is read with both. -/
theorem read_behind_byteOrderMark (text : Text) :
    (∀ bytes, Utf8.decode bytes = .ok text →
        Utf8.decode (Utf8.byteOrderMark ++ bytes) = .ok (byteOrderMark :: text)) ∧
      (∃ rest, Text.clean? (byteOrderMark :: text) = some (byteOrderMark :: rest) ∧
        ∀ nodes, read (byteOrderMark :: rest) = .ok nodes → Node.Frameless nodes) ∧
      (∀ nodes, read (byteOrderMark :: text) = .ok nodes → Node.Frameless nodes) ∧
      (isDocument text = true → ∀ nodes, read text = .ok nodes →
        ∃ attributes children rest, nodes = .element "html".toList attributes children :: rest) := by
  have frameless : ∀ (text : Text) nodes, read (byteOrderMark :: text) = .ok nodes →
      Node.Frameless nodes :=
    fun text _ reads => frameless_of_read (isDocument_behind_byteOrderMark text) reads
  obtain ⟨rest, cleaned⟩ := Text.exists_clean?_cons (c := byteOrderMark) (by decide) text
  exact ⟨fun _ decodes => Utf8.decode_byteOrderMark decodes, ⟨rest, cleaned, frameless rest⟩,
    frameless text, fun document _ reads => exists_of_read document reads⟩

/-- A document with a class for its outermost element and one for its body. -/
def classedDocument : Text := "<html class=\"a\"><body class=\"b\"></body></html>".toList

def classedNodes : List Node :=
  [.element "html".toList [("class".toList, "a".toList)]
    [.element "body".toList [("class".toList, "b".toList)] []]]

set_option maxRecDepth 4096 in
theorem read_classedDocument : read classedDocument = .ok classedNodes := by
  have filled : Text.allBlank classedDocument = false := by decide +kernel
  have document : isDocument classedDocument = true := by decide +kernel
  have tokens : Token.ofText classedDocument =
      [.opening "html".toList [("class".toList, "a".toList)] false,
        .opening "body".toList [("class".toList, "b".toList)] false,
        .closing "body".toList, .closing "html".toList] := by
    decide +kernel
  have tree : Tree.ofText classedDocument =
      [.element "html".toList [("class".toList, "a".toList)] []
        [.element "body".toList [("class".toList, "b".toList)] [] [] []] []] := by
    rw [Tree.ofText, tokens]
    rfl
  rw [read, filled, document, readDocument, tree, if_neg Bool.false_ne_true, if_pos rfl]
  cbv

set_option maxRecDepth 4096 in
theorem read_marked_classedDocument :
    read (byteOrderMark :: classedDocument) = .ok [.text [byteOrderMark]] := by
  have filled : Text.allBlank (byteOrderMark :: classedDocument) = false := by decide +kernel
  have fragment := isDocument_behind_byteOrderMark classedDocument
  have frame : hasFrame (byteOrderMark :: classedDocument) = false := by decide +kernel
  have tokens : Token.ofText ("<html><body>".toList ++ byteOrderMark :: classedDocument ++
        "</body></html>".toList) =
      [.opening "html".toList [] false, .opening "body".toList [] false, .text [byteOrderMark],
        .opening "html".toList [("class".toList, "a".toList)] false,
        .opening "body".toList [("class".toList, "b".toList)] false,
        .closing "body".toList, .closing "html".toList,
        .closing "body".toList, .closing "html".toList] := by
    decide +kernel
  have tree : Tree.ofText ("<html><body>".toList ++ byteOrderMark :: classedDocument ++
        "</body></html>".toList) =
      [.element "html".toList [] []
        [.element "body".toList [] [byteOrderMark] [] []] []] := by
    rw [Tree.ofText, tokens]
    rfl
  rw [read, filled, fragment, readFragment, frame, if_neg Bool.false_ne_true,
    if_neg Bool.false_ne_true, if_neg Bool.false_ne_true, tree]
  cbv

/-- The classes of a document are lost behind a byte order mark. -/
theorem read_behind_byteOrderMark_classed :
    Utf8.decode (Utf8.byteOrderMark ++ Utf8.encode classedDocument) =
        .ok (byteOrderMark :: classedDocument) ∧
      (∃ rest, Text.clean? (byteOrderMark :: classedDocument) = some (byteOrderMark :: rest)) ∧
      read (byteOrderMark :: classedDocument) = .ok [.text [byteOrderMark]] ∧
      Node.Frameless [.text [byteOrderMark]] ∧ read classedDocument = .ok classedNodes ∧
      ∃ attributes children rest, classedNodes = .element "html".toList attributes children :: rest := by
  have decodes : Utf8.decode (Utf8.encode classedDocument) = .ok classedDocument := by decide +kernel
  have document : isDocument classedDocument = true := by decide +kernel
  obtain ⟨decoded, ⟨rest, cleaned, -⟩, frameless, whole⟩ := read_behind_byteOrderMark classedDocument
  exact ⟨decoded _ decodes, ⟨rest, cleaned⟩, read_marked_classedDocument,
    frameless _ read_marked_classedDocument, read_classedDocument,
    whole document _ read_classedDocument⟩

end Markup

end NestedStyles
