import NestedStyles.CommandLine.Romanized
import NestedStyles.Proofs.Conversion
import NestedStyles.Proofs.Stylesheet.Placing

/-!
Names of elements. A parser takes nearly everything for a name, but elements may not have every name.
Markup that was parsed is converted exactly if all its elements may have their names, wherever they stand;
otherwise the first one that may not is the fault of the whole.
-/

set_option autoImplicit false

namespace NestedStyles

namespace Branch

def tags : List Branch → List Text
  | [] => []
  | element tag _ _ children _ :: rest => tag :: (tags children ++ tags rest)
  | comment _ _ :: rest => tags rest
  | instruction _ _ :: rest => tags rest
  | entity _ _ :: rest => tags rest

/-- The first tag in document order that is no name for an element. -/
def misnamed? (branches : List Branch) : Option Text :=
  (tags branches).find? fun tag => !tag.all isNameChar

/-- Branches without a misnamed element all become nodes, and a misnamed element is the fault of all. -/
inductive Turns (branches : List Branch) : Prop
  | nodes (nodes : List Node) (named : misnamed? branches = none)
      (turned : toNodes branches = .ok nodes)
  | fault (tag : Text) (misnamed : misnamed? branches = some tag)
      (refused : toNodes branches = .error (.badTag tag))

theorem elementName_eq_ok {tag name : Text} (named : elementName tag = .ok name) :
    name = Text.lower tag := by
  rw [elementName] at named
  split at named
  · cases named
    rfl
  · cases named

theorem misnamed?_element (tag : Text) (attributes : Attributes) (text tail : Text)
    (children rest : List Branch) :
    misnamed? (element tag attributes text children tail :: rest) =
      if tag.all isNameChar then (misnamed? children).or (misnamed? rest) else some tag := by
  rw [misnamed?, tags, List.find?_cons, List.find?_append]
  cases tag.all isNameChar <;> rfl

theorem toNodes_comment (content tail : Text) (rest : List Branch) :
    toNodes (comment content tail :: rest) =
      (toNodes rest).map (.comment content :: textNodes tail ++ ·) := by
  rw [toNodes]
  cases toNodes rest <;> rfl

theorem toNodes_instruction (content tail : Text) (rest : List Branch) :
    toNodes (instruction content tail :: rest) = (toNodes rest).map (textNodes tail ++ ·) := by
  rw [toNodes]
  cases toNodes rest <;> rfl

theorem toNodes_entity (name tail : Text) (rest : List Branch) :
    toNodes (entity name tail :: rest) = (toNodes rest).map (textNodes tail ++ ·) := by
  rw [toNodes]
  cases toNodes rest <;> rfl

/-- An instruction and an entity leave their tail, and a comment stays in front of its tail. -/
theorem Turns.behind {branch : Branch} {rest : List Branch} (front : List Node)
    (untagged : misnamed? (branch :: rest) = misnamed? rest)
    (turned : toNodes (branch :: rest) = (toNodes rest).map (front ++ ·)) (others : Turns rest) :
    Turns (branch :: rest) := by
  cases others with
  | nodes nodes named made =>
      refine .nodes (front ++ nodes) (untagged.trans named) ?_
      rw [turned, made]
      rfl
  | fault tag misnamed refused =>
      refine .fault tag (untagged.trans misnamed) ?_
      rw [turned, refused]
      rfl

/-- The first misnamed element decides whether branches become nodes. -/
theorem turns (branches : List Branch) : Turns branches := by
  induction branches using toNodes.induct with
  | case1 => exact .nodes [] (by rw [misnamed?, tags, List.find?_nil]) (by rw [toNodes])
  | case2 tag attributes text children tail rest ihChildren ihRest =>
      have tagged := misnamed?_element tag attributes text tail children rest
      cases named : tag.all isNameChar with
      | false =>
          rw [named, if_neg Bool.false_ne_true] at tagged
          refine .fault tag tagged ?_
          rw [toNodes, elementName, named, if_neg Bool.false_ne_true]
          rfl
      | true =>
          rw [named, if_pos rfl] at tagged
          cases ihChildren with
          | fault inner misnamed refused =>
              rw [misnamed, Option.some_or] at tagged
              refine .fault inner tagged ?_
              rw [toNodes, elementName, named, if_pos rfl, refused]
              rfl
          | nodes below none made =>
              rw [none, Option.none_or] at tagged
              cases ihRest with
              | fault later misnamed refused =>
                  refine .fault later (tagged.trans misnamed) ?_
                  rw [toNodes, elementName, named, if_pos rfl, made, refused]
                  rfl
              | nodes others clear further =>
                  refine .nodes (.element (Text.lower tag) attributes (textNodes text ++ below) ::
                    (textNodes tail ++ others)) (tagged.trans clear) ?_
                  rw [toNodes, elementName, named, if_pos rfl, made, further]
                  rfl
  | case3 content tail rest ih =>
      refine Turns.behind _ ?_ (toNodes_comment content tail rest) ih
      rw [misnamed?, tags, misnamed?]
  | case4 content tail rest ih =>
      refine Turns.behind _ ?_ (toNodes_instruction content tail rest) ih
      rw [misnamed?, tags, misnamed?]
  | case5 name tail rest ih =>
      refine Turns.behind _ ?_ (toNodes_entity name tail rest) ih
      rw [misnamed?, tags, misnamed?]

end Branch

namespace Markup

/-- What a parser makes of a text: the text in front of the first branch that counts, and the
branches. -/
structure Parsed where
  text : Text := []
  branches : List Branch

/-- The content of the only body among the parts of a document. Blanks in front of it do not count. -/
def parseBody (markup : Text) (parts : List Branch) : Except MarkupFault Parsed :=
  match parts.filter (fun part => part.tag? == some "body".toList) with
  | [.element _ _ text children _] =>
    if Text.allBlank text then .ok { branches := children }
    else if text.any isForbidden then .error .forbiddenText
    else .ok ⟨text, children⟩
  | bodies => .error (.bodyCount bodies.length markup)

/-- The text of a fragment in the frame of a document. -/
def framed (text : Text) : Text :=
  if hasFrame text then text else "<html><body>".toList ++ text ++ "</body></html>".toList

/-- Parses a document or a fragment. What is read of it is in `Parsed.toNodes`. -/
def parse (text : Text) : Except MarkupFault Parsed :=
  if Text.allBlank text then .ok { branches := [] }
  else if isDocument text then
    match root? (Tree.ofText text) with
    | none => .error .empty
    | some root => .ok { branches := [root] }
  else
    match root? (Tree.ofText (framed text)) with
    | some (.element _ _ _ parts _) => parseBody (framed text) parts
    | _ => .error .empty

def Parsed.toNodes (parsed : Parsed) : Except MarkupFault (List Node) := do
  return Branch.textNodes parsed.text ++ (← Branch.toNodes parsed.branches)

theorem toNodes_branches (branches : List Branch) :
    Parsed.toNodes { branches } = Branch.toNodes branches := by
  rw [Parsed.toNodes]
  cases Branch.toNodes branches <;> rfl

theorem read_parseBody (markup : Text) (parts : List Branch) :
    (match parts.filter (fun part => part.tag? == some "body".toList) with
      | [.element _ _ text children _] => bodyNodes text children
      | bodies => .error (.bodyCount bodies.length markup)) =
      parseBody markup parts >>= Parsed.toNodes := by
  unfold parseBody
  split
  · unfold bodyNodes
    split
    · exact (toNodes_branches _).symm
    · split <;> rfl
  · rfl

/-- Reading parses, and then turns what was parsed into nodes. -/
theorem read_eq (text : Text) : read text = parse text >>= Parsed.toNodes := by
  rw [read, parse]
  split
  · exact (toNodes_branches []).trans (by rw [Branch.toNodes]) |>.symm
  split
  · rw [readDocument]
    cases root? (Tree.ofText text) with
    | none => rfl
    | some root => exact (toNodes_branches [root]).symm
  · have same : framed text = if hasFrame text then text
        else "<html><body>".toList ++ text ++ "</body></html>".toList := rfl
    rw [readFragment, ← same]
    cases root? (Tree.ofText (framed text)) with
    | none => rfl
    | some root =>
        cases root with
        | element _ _ _ parts _ => exact read_parseBody (framed text) parts
        | comment content tail => rfl
        | instruction content tail => rfl
        | entity name tail => rfl

theorem read_of_parse {text : Text} {parsed : Parsed} (parsing : parse text = .ok parsed) :
    read text = parsed.toNodes := by
  rw [read_eq, parsing]
  rfl

end Markup

theorem convert_of_fault [Romanization] (settings : Settings) {markup cleaned : Text}
    {fault : MarkupFault} (cleans : Text.clean? markup = some cleaned)
    (refused : Markup.read cleaned = .error fault) :
    convert settings markup = .error (.markup fault) := by
  rw [convert, Conversion.run, cleans]
  simp only [refused]

/-- Nothing behind the reading fails under settings of the expected types. -/
theorem exists_convert_of_read [Romanization] {settings : Settings} (typed : settings.WellTyped)
    (unformatted : settings.formatOutput.isOn = false) {markup cleaned : Text} {nodes : List Node}
    (cleans : Text.clean? markup = some cleaned) (reads : Markup.read cleaned = .ok nodes) :
    ∃ result, convert settings markup = .ok result := by
  rw [convert_of_read settings cleans reads]
  cases Outline.ofForest? 1 nodes with
  | none => exact ⟨none, rfl⟩
  | some outline =>
      obtain ⟨raw, written⟩ := Raw.exists_siblings typed outline 0 0
      refine ⟨some raw, ?_⟩
      rw [Option.elim_some, Conversion.stylesheet, Raw.ofOutline, written, unformatted]
      rfl

theorem exists_convert_of_named [Romanization] {settings : Settings} (typed : settings.WellTyped)
    (unformatted : settings.formatOutput.isOn = false) {markup cleaned : Text}
    {parsed : Markup.Parsed} (cleans : Text.clean? markup = some cleaned)
    (parsing : Markup.parse cleaned = .ok parsed)
    (named : Branch.misnamed? parsed.branches = none) :
    ∃ result, convert settings markup = .ok result := by
  cases Branch.turns parsed.branches with
  | nodes nodes _ turned =>
      have reads : Markup.read cleaned = .ok (Branch.textNodes parsed.text ++ nodes) := by
        rw [Markup.read_of_parse parsing, Markup.Parsed.toNodes, turned]
        rfl
      exact exists_convert_of_read typed unformatted cleans reads
  | fault tag misnamed _ =>
      rw [named] at misnamed
      cases misnamed

/-- The first misnamed element is the fault of the conversion. -/
theorem convert_of_misnamed [Romanization] (settings : Settings) {markup cleaned tag : Text}
    {parsed : Markup.Parsed} (cleans : Text.clean? markup = some cleaned)
    (parsing : Markup.parse cleaned = .ok parsed)
    (misnamed : Branch.misnamed? parsed.branches = some tag) :
    convert settings markup = .error (.markup (.badTag tag)) := by
  cases Branch.turns parsed.branches with
  | nodes nodes named _ =>
      rw [misnamed] at named
      cases named
  | fault first misnamed' refused =>
      cases misnamed.symm.trans misnamed'
      refine convert_of_fault settings cleans ?_
      rw [Markup.read_of_parse parsing, Markup.Parsed.toNodes, refused]
      rfl

/-- Markup that was parsed is converted exactly if all its elements may have their names. The fault is
that of the first one that may not. -/
theorem exists_convert_iff [Romanization] {settings : Settings} (typed : settings.WellTyped)
    (unformatted : settings.formatOutput.isOn = false) {markup : Text}
    (parses : ∀ cleaned, Text.clean? markup = some cleaned →
      ∃ parsed, Markup.parse cleaned = .ok parsed) :
    ((∃ result, convert settings markup = .ok result) ↔
        ∀ cleaned parsed, Text.clean? markup = some cleaned → Markup.parse cleaned = .ok parsed →
          ∀ tag ∈ Branch.tags parsed.branches, tag.all Branch.isNameChar = true) ∧
      ∀ fault, convert settings markup = .error fault →
        ∃ cleaned parsed tag, Text.clean? markup = some cleaned ∧
          Markup.parse cleaned = .ok parsed ∧ Branch.misnamed? parsed.branches = some tag ∧
          fault = .markup (.badTag tag) := by
  cases cleans : Text.clean? markup with
  | none =>
      have nothing := convert_of_blank settings cleans
      refine ⟨iff_of_true ⟨none, nothing⟩ (by simp), ?_⟩
      intro fault failed
      rw [nothing] at failed
      cases failed
  | some cleaned =>
      obtain ⟨parsed, parsing⟩ := parses cleaned cleans
      cases misnamed : Branch.misnamed? parsed.branches with
      | none =>
          obtain ⟨result, converted⟩ := exists_convert_of_named typed unformatted cleans parsing misnamed
          refine ⟨iff_of_true ⟨result, converted⟩ ?_, ?_⟩
          · intro same again cleanedSame parsedSame tag member
            cases cleanedSame
            rw [parsing] at parsedSame
            cases parsedSame
            simpa using List.find?_eq_none.mp misnamed tag member
          · intro fault failed
            rw [converted] at failed
            cases failed
      | some tag =>
          have failed := convert_of_misnamed settings cleans parsing misnamed
          refine ⟨iff_of_false ?_ ?_, ?_⟩
          · rintro ⟨result, converted⟩
            rw [failed] at converted
            cases converted
          · intro named
            have bad := List.find?_some misnamed
            rw [named cleaned parsed rfl parsing tag (List.mem_of_find?_eq_some misnamed)] at bad
            cases bad
          · intro fault same
            rw [failed] at same
            cases same
            exact ⟨cleaned, parsed, tag, rfl, parsing, misnamed, rfl⟩

/-- A paragraph as an office program writes it. -/
def Markup.office : Text := "<p class=a><o:p/>".toList

set_option maxRecDepth 4096 in
theorem Markup.parse_office :
    parse office = .ok { branches := [.element "p".toList [("class".toList, "a".toList)] []
      [.element "o:p".toList [] [] [] []] []] } := by
  have filled : Text.allBlank office = false := by decide +kernel
  have fragment : isDocument office = false := by decide +kernel
  have frame : framed office = "<html><body><p class=a><o:p/></body></html>".toList := by
    decide +kernel
  have tokens : Token.ofText "<html><body><p class=a><o:p/></body></html>".toList =
      [.opening "html".toList [] false, .opening "body".toList [] false,
        .opening "p".toList [("class".toList, "a".toList)] false, .opening "o:p".toList [] true,
        .closing "body".toList, .closing "html".toList] := by
    decide +kernel
  have tree : Tree.ofText "<html><body><p class=a><o:p/></body></html>".toList =
      [.element "html".toList [] []
        [.element "body".toList [] []
          [.element "p".toList [("class".toList, "a".toList)] []
            [.element "o:p".toList [] [] [] []] []] []] []] := by
    rw [Tree.ofText, tokens]
    rfl
  rw [parse, filled, fragment, frame, tree, if_neg Bool.false_ne_true, if_neg Bool.false_ne_true]
  cbv

/-- One element that styles nothing keeps a whole paragraph from being converted. -/
theorem exists_convert_iff_office :
    (∀ cleaned, Text.clean? Markup.office = some cleaned →
        ∃ parsed, Markup.parse cleaned = .ok parsed) ∧
      convert { formatOutput := .bool false } Markup.office =
        .error (.markup (.badTag "o:p".toList)) := by
  have typed : ({ formatOutput := .bool false } : Settings).WellTyped :=
    { Settings.wellTyped_default with formatOutput := rfl }
  have cleans : Text.clean? Markup.office = some Markup.office := by decide +kernel
  have parses : ∀ cleaned, Text.clean? Markup.office = some cleaned →
      ∃ parsed, Markup.parse cleaned = .ok parsed := by
    intro cleaned same
    rw [cleans] at same
    cases same
    exact ⟨_, Markup.parse_office⟩
  refine ⟨parses, ?_⟩
  obtain ⟨succeeds, fails⟩ := exists_convert_iff typed rfl parses
  cases converted : convert { formatOutput := .bool false } Markup.office with
  | ok result =>
      have named := succeeds.mp ⟨result, converted⟩ _ _ cleans Markup.parse_office "o:p".toList
        (by simp [Branch.tags])
      exact absurd named (by decide +kernel)
  | error fault =>
      obtain ⟨cleaned, parsed, tag, same, parsing, misnamed, rfl⟩ := fails fault converted
      rw [cleans] at same
      cases same
      rw [Markup.parse_office] at parsing
      cases parsing
      have first : Branch.misnamed? [.element "p".toList [("class".toList, "a".toList)] []
          [.element "o:p".toList [] [] [] []] []] = some "o:p".toList := by
        cbv
      rw [first] at misnamed
      cases misnamed
      rfl

end NestedStyles
