import NestedStyles.CommandLine.Romanized
import NestedStyles.Proofs.Stylesheet.LayingText
import NestedStyles.Proofs.Stylesheet.Separating
import NestedStyles.Proofs.Stylesheet.Siblings
import NestedStyles.Proofs.Stylesheet.Sturdy
import NestedStyles.Stylesheet.Format

/-!
Formatting a stylesheet keeps its class lists. Laying out changes blanks, and what that does to the
statements of sturdy class lists tidying undoes; nowhere does a statement come about or get lost.
-/

set_option autoImplicit false

namespace NestedStyles

open Text Weave

namespace Apply

section Spelled

variable {Good : Text → Prop} {found : List Text}

theorem not_mem_of_blank {gap : Text} (blank : Blank gap) : '@' ∉ gap := by
  intro member
  have clear := blank '@' member
  cases clear

theorem apply_append_eq (classes rest : Text) :
    Raw.apply classes ++ rest = '@' :: ("apply".toList ++ ' ' :: (classes ++ ';' :: rest)) := by
  rw [apply_eq, List.append_assoc, List.append_assoc]
  rfl

/-- No statement begins with a blank. -/
theorem Spelled.of_blank {gap text : Text} (blank : Blank gap)
    (spelled : Spelled Good (gap ++ text) found) : Spelled Good text found := by
  induction gap with
  | nil => exact spelled
  | cons b gap ih =>
      have inner : Spelled Good (gap ++ text) found := by
        generalize whole : b :: gap ++ text = given at spelled
        cases spelled with
        | nil => cases whole
        | skip other behind =>
            obtain ⟨-, rfl⟩ := List.cons.inj whole
            exact behind
        | statement good behind =>
            rw [apply_append_eq] at whole
            have clear := blank b List.mem_cons_self
            rw [(List.cons.inj whole).1] at clear
            cases clear
      exact ih (fun c member => blank c (List.mem_cons_of_mem b member)) inner

end Spelled

section Woven

variable {before gap spacing : Text}

/-- Blanks at a letter of the keyword are kept. -/
theorem plain_keyword : ∀ c ∈ "apply".toList, isBlank c = false ∧ holdsBefore c = true ∧
    ∀ before, holdsBehind (c :: before) = true := by
  have letters : "apply".toList = ['a', 'p', 'p', 'l', 'y'] := by decide
  intro c member
  simp only [letters, List.mem_cons, List.not_mem_nil, or_false] at member
  rcases member with rfl | rfl | rfl | rfl | rfl <;> exact ⟨rfl, rfl, fun _ => rfl⟩

/-- A word that blanks would keep apart is written only where it was read. -/
theorem prefix_of_prefix_result {needle ahead : Text} (spaced : Blank spacing)
    (plain : ∀ c ∈ needle, isBlank c = false ∧ holdsBefore c = true ∧
      ∀ before, holdsBehind (c :: before) = true) {stitches : List Stitch}
    (holds : holdsBehind before = true) (woven : Woven before stitches ahead)
    (starts : needle <+: result stitches ++ spacing) : needle <+: source stitches ++ ahead := by
  induction needle generalizing before stitches with
  | nil => exact List.nil_prefix
  | cons c needle ih =>
      rw [List.forall_mem_cons] at plain
      obtain ⟨⟨solid, before', behind⟩, plain⟩ := plain
      cases stitches with
      | nil =>
          obtain ⟨rest, same⟩ := starts
          have member : c ∈ spacing := by
            have same : c :: needle ++ rest = spacing := same
            rw [← same]
            exact List.mem_cons_self
          rw [spaced c member] at solid
          cases solid
      | cons stitch rest =>
          obtain ⟨fits, woven⟩ := woven
          rw [result_cons] at starts
          cases written : stitch.written with
          | nil =>
              rw [written] at starts
              obtain ⟨rfl, follows⟩ := List.cons_prefix_cons.mp starts
              have none : stitch.read = [] := by
                by_contra gap
                exact fits.keeps gap holds before' written
              rw [source_cons, none]
              rw [none] at woven
              exact List.cons_prefix_cons.mpr ⟨rfl, ih plain (behind _) woven follows⟩
          | cons b others =>
              rw [written] at starts
              obtain ⟨rfl, -⟩ := List.cons_prefix_cons.mp starts
              rw [fits.written c (written ▸ List.mem_cons_self)] at solid
              cases solid

/-- Behind the last character only blanks are written. -/
theorem spelled_tidyAll_nil {Good : Text → Prop} {found : List Text} (blank : Blank gap)
    (spaced : Blank spacing) (spelled : Spelled Good (source [] ++ gap) found) :
    Spelled Good (tidyAll (result [] ++ spacing)) found := by
  have read : Spelled Good (gap ++ []) found := by
    rw [List.append_nil]
    exact spelled
  have written : tidyAll (result [] ++ spacing) = spacing ++ [] := by
    have copied := tidyAll_append_of_blank spaced []
    rw [List.append_nil] at copied
    exact copied
  rw [written]
  exact spells_of_not_mem (not_mem_of_blank spaced) _ _ (read.of_blank blank)

/-- Tidying finds in what was written all statements that were read, and no others. -/
theorem spelled_tidyAll (blank : Blank gap) (spaced : Blank spacing) (bound : Nat) :
    ∀ {stitches : List Stitch} {before : Text} {found : List Text}, stitches.length ≤ bound →
      Woven before stitches gap →
        Spelled (sturdy · = true) (source stitches ++ gap) found →
          Spelled (sturdy · = true) (tidyAll (result stitches ++ spacing)) found := by
  induction bound with
  | zero =>
      intro stitches before found short woven spelled
      obtain rfl := List.length_eq_zero_iff.mp (Nat.le_zero.mp short)
      exact spelled_tidyAll_nil blank spaced spelled
  | succ bound ih =>
      intro stitches before found short woven spelled
      cases stitches with
      | nil => exact spelled_tidyAll_nil blank spaced spelled
      | cons stitch rest =>
          obtain ⟨fits, woven⟩ := woven
          rw [source_cons, List.append_assoc, List.cons_append] at spelled
          have spelled := spelled.of_blank fits.read
          rw [result_cons, List.append_assoc, List.cons_append, tidyAll_append_of_blank fits.written]
          refine spells_of_not_mem (not_mem_of_blank fits.written) _ _ ?_
          generalize whole : stitch.char :: (source rest ++ gap) = given at spelled
          cases spelled with
          | nil => cases whole
          | skip other behind =>
              obtain ⟨rfl, rfl⟩ := List.cons.inj whole
              have shorter : rest.length ≤ bound := Nat.le_of_succ_le_succ short
              have apart {text : Text}
                  (follows : "apply".toList <+: text → "apply".toList <+: result rest ++ spacing) :
                  ¬ keyword <+: stitch.char :: text := by
                rw [keyword_eq_cons] at other ⊢
                intro starts
                obtain ⟨sign, starts⟩ := List.cons_prefix_cons.mp starts
                refine other (List.cons_prefix_cons.mpr ⟨sign, ?_⟩)
                rw [← sign] at woven
                exact prefix_of_prefix_result spaced plain_keyword rfl woven (follows starts)
              rw [tidyAll_cons_of_not_keyword (apart id)]
              refine .skip (apart (prefix_of_prefix_tidyAll (by decide))) ?_
              exact ih shorter woven behind
          | @statement classes text found good behind =>
              rw [apply_append_eq] at whole
              obtain ⟨sign, split⟩ := List.cons.inj whole
              have split : source rest ++ gap =
                  ("apply".toList ++ ' ' :: classes) ++ ';' :: text := by
                rw [split]
                simp
              obtain ⟨front, back, rfl, first, rfl⟩ :=
                exists_split (by decide) blank woven.reads split
              obtain ⟨wovenFront, wovenBack⟩ := woven_append.mp woven
              rw [sign] at wovenFront ⊢
              have strong : sturdyFrom ('@' :: (stitch.read.reverse ++ before))
                  ("apply".toList ++ ' ' :: classes) = true := sturdyFrom_statement good _
              have loosened : Loosened '@' front :=
                loosened_of_woven strong rfl (by decide) wovenFront first
              have closed := endsStatement_of_sturdyFrom good
              rw [List.forall_mem_cons] at closed
              rw [List.append_assoc, List.cons_append] at first
              rw [result_append, List.append_assoc, tidyAll_statement loosened first closed.2]
              refine .statement good (ih ?_ wovenBack behind)
              simp only [List.length_cons, List.length_append] at short
              omega

end Woven

section Separate

variable {Good : Text → Prop}

theorem exists_outside (gap rest : Text) (blank : Blank gap) :
    ∃ c more, gap ++ '/' :: '/' :: rest = c :: more ∧ c ∉ keyword := by
  cases gap with
  | nil => exact ⟨'/', '/' :: rest, rfl, by decide⟩
  | cons b gap =>
      refine ⟨b, gap ++ '/' :: '/' :: rest, rfl, ?_⟩
      intro member
      have space := blank b List.mem_cons_self
      rw [keyword_eq_cons, List.mem_cons] at member
      rcases member with rfl | member
      · cases space
      · rw [(plain_keyword b member).1] at space
        cases space

/-- A statement that reaches into a line comment has one in it. -/
theorem comment_infix_of_apply {classes front between old rest text : Text} (blank : Blank old)
    (nonempty : between ≠ []) (whole : Raw.apply classes = front ++ between)
    (split : between ++ text = old ++ '/' :: '/' :: rest) :
    ['/', '/'] <:+: Raw.apply classes := by
  have last : between.getLast? = some ';' := by
    have ends : (Raw.apply classes).getLast? = some ';' := by rw [apply_eq, List.getLast?_concat]
    rwa [whole, List.getLast?_append_of_ne_nil _ nonempty] at ends
  have outside : ';' ∉ old := by
    intro member
    have clear := blank ';' member
    cases clear
  rw [List.append_eq_append_iff] at split
  rcases split with ⟨others, rfl, -⟩ | ⟨others, rfl, further⟩
  · exact absurd (List.mem_append_left _ (List.mem_of_getLast? last)) outside
  · rcases others with _ | ⟨c, _ | ⟨d, others⟩⟩
    · rw [List.append_nil] at last
      exact absurd (List.mem_of_getLast? last) outside
    · obtain ⟨rfl, -⟩ := List.cons.inj further
      rw [List.getLast?_concat] at last
      cases last
    · obtain ⟨rfl, behind⟩ := List.cons.inj further
      obtain ⟨rfl, -⟩ := List.cons.inj behind
      rw [whole]
      exact ⟨front ++ old, others, by simp⟩

/-- Blanks in front of a line comment are outside of all statements. -/
theorem outlasts_spelled (plain : ∀ classes, Good classes → ¬ ['/', '/'] <:+: Raw.apply classes)
    (found : List Text) : Region.Outlasts fun text => Spelled Good text found := by
  intro front old new rest blankOld blankNew spelled
  generalize whole : front ++ (old ++ '/' :: '/' :: rest) = given at spelled
  induction spelled generalizing front with
  | nil => simp at whole
  | @skip c text found other behind ih =>
      cases front with
      | nil =>
          have spelled : Spelled Good (old ++ '/' :: '/' :: rest) found := by
            rw [List.nil_append] at whole
            rw [whole]
            exact .skip other behind
          exact spells_of_not_mem (not_mem_of_blank blankNew) _ _ (spelled.of_blank blankOld)
      | cons d front =>
          obtain ⟨rfl, rfl⟩ := List.cons.inj whole
          refine .skip ?_ (ih rfl)
          intro starts
          obtain ⟨e, more, split, outside⟩ := exists_outside new rest blankNew
          have starts : keyword <+: (d :: front) ++ (new ++ '/' :: '/' :: rest) := starts
          rw [split] at starts
          have inside : keyword <+: d :: front := prefix_of_prefix_append_cons outside starts
          exact other (inside.trans (List.prefix_append (d :: front) _))
  | @statement classes text found good behind ih =>
      rw [List.append_eq_append_iff] at whole
      rcases whole with ⟨between, split, further⟩ | ⟨between, rfl, further⟩
      · by_cases empty : between = []
        · rw [empty, List.append_nil] at split
          rw [empty, List.nil_append] at further
          rw [← split]
          exact .statement good (@ih [] further)
        · exact absurd (comment_infix_of_apply blankOld empty split further.symm) (plain classes good)
      · rw [List.append_assoc]
        exact .statement good (ih further.symm)

end Separate

/-- No line comment begins in the statement of a sturdy class list. -/
theorem not_comment_infix_apply {classes : Text} (strong : sturdy classes = true) :
    ¬ ['/', '/'] <:+: Raw.apply classes := by
  have inner := not_comment_infix_of_sturdyFrom (sturdyFrom_statement strong [])
  have whole : Raw.apply classes = ('@' :: ("apply".toList ++ ' ' :: classes)) ++ [';'] := by
    have split := apply_append_eq classes []
    rw [List.append_nil] at split
    rw [split]
    simp
  rw [whole, List.infix_concat_iff, List.infix_cons_iff]
  rintro (⟨front, ends⟩ | starts | inside)
  · have last := congrArg List.getLast? ends
    rw [List.getLast?_concat, List.getLast?_append_of_ne_nil _ (by decide)] at last
    cases last
  · cases (List.cons_prefix_cons.mp starts).1
  · exact inner inside

theorem not_mem_of_sturdy {classes : Text} (strong : sturdy classes = true) : ';' ∉ classes := by
  intro member
  have free := endsStatement_of_sturdyFrom strong ';' (List.mem_cons_of_mem _ member)
  cases free

/-- A stylesheet that can be laid out is tidied and its regions are set apart. -/
theorem formatStylesheet_of_laid {format : FormatSettings} {style : PageStyle} {raw laidOut : Text}
    (asks : PageStyle.ofSettings format = .ok style) (laid : Layout.ofText style raw = .ok laidOut) :
    formatStylesheet format raw = .ok (Region.separate (tidyAll laidOut)) := by
  rw [formatStylesheet, asks]
  show (do
    let laidOut ← Layout.ofText style raw
    return Region.separate (tidyAll laidOut)) = _
  rw [laid]
  rfl

/-- Formatting the stylesheet of a forest keeps its statements as they are. -/
theorem lists_formatStylesheet_ofForest [Romanization] {settings : Settings}
    (typed : settings.WellTyped) {format : FormatSettings} {style : PageStyle}
    (asks : PageStyle.ofSettings format = .ok style)
    (proper : style.Proper) {number depth : Int} {forest : List Node}
    (quiet : Raw.Shows settings Quiet number (Outline.ofForest depth forest))
    (strong : ∀ classes ∈ Node.gather Node.classList? forest, sturdy classes = true) {raw : Text}
    (made : Raw.ofOutline settings number (Outline.ofForest depth forest) = .ok raw)
    (plain : ∀ c ∈ ['$', '\r', '\u2028', '\u2029'], c ∉ raw) :
    ∃ out, formatStylesheet format raw = .ok out ∧ lists out = lists raw := by
  obtain ⟨text, same, spells⟩ := reads_spells.ofForest typed quiet strong
  rw [made] at same
  obtain rfl := Except.ok.inj same
  have spelled := spells.spelled
  have layable := Layout.layable_of_getLast? plain fun _ last => Raw.getLast?_ofForest typed made last
  obtain ⟨laidOut, laid, rewoven⟩ := Layout.exists_ofText proper layable
  have tidied : Spelled (sturdy · = true) (tidyAll laidOut) (Node.gather Node.classList? forest) := by
    cases rewoven with
    | @mk stitches gap spacing woven blank spaced =>
    exact spelled_tidyAll blank spaced stitches.length le_rfl woven spelled
  have separated := @Region.outlasts_separate
    (fun text => Spelled (sturdy · = true) text (Node.gather Node.classList? forest))
    (outlasts_spelled (fun _ => not_comment_infix_apply) _) _ tidied
  refine ⟨Region.separate (tidyAll laidOut), formatStylesheet_of_laid asks laid, ?_⟩
  rw [separated.lists_eq fun _ => not_mem_of_sturdy, spelled.lists_eq fun _ => not_mem_of_sturdy]

end Apply

namespace Raw

def paragraph : List Node :=
  [.element "p".toList [("class".toList, "p-4 hover:flex".toList)] []]

theorem ofForest_paragraph : Outline.ofForest 1 paragraph =
    [.element ⟨"p".toList, [], 1, some ⟨some "p-4 hover:flex".toList, none⟩⟩ none] := by
  cbv

theorem ofOutline_paragraph [Romanization] :
    ofOutline { printComments := .bool false } 0 (Outline.ofForest 1 paragraph) =
      .ok "p{@apply p-4 hover:flex;}".toList := by
  rw [ofForest_paragraph, ofOutline, siblings_element, Option.getD_none, siblings_nil]
  rfl

end Raw

namespace Apply

theorem lists_formatStylesheet_paragraph :
    ∃ out, formatStylesheet {} "p{@apply p-4 hover:flex;}".toList = .ok out ∧
      lists out = lists "p{@apply p-4 hover:flex;}".toList := by
  have typed : ({ printComments := .bool false } : Settings).WellTyped :=
    { Settings.wellTyped_default with printComments := rfl }
  have asks : PageStyle.ofSettings {} = .ok {} := rfl
  have quiet : Raw.Shows { printComments := .bool false } Quiet 0
      (Outline.ofForest 1 Raw.paragraph) := by
    rw [Raw.ofForest_paragraph]
    refine ⟨by simp, (Raw.forEach_cons _ _ _ _ _).mpr ⟨?_, Raw.forEach_nil _ _, Raw.forEach_nil _ _⟩⟩
    refine .of_selected "p".toList (by cbv) ?_ ?_ ?_
    · exact quiet_of_not_mem (by decide)
    · exact quiet_of_not_mem (by decide)
    · intro style given
      cases given
  have strong : ∀ classes ∈ Node.gather Node.classList? Raw.paragraph, sturdy classes = true := by
    have gathered : Node.gather Node.classList? Raw.paragraph = ["p-4 hover:flex".toList] := by cbv
    rw [gathered]
    decide
  exact lists_formatStylesheet_ofForest typed asks PageStyle.proper_default quiet strong
    Raw.ofOutline_paragraph (by simp)

end Apply

end NestedStyles
