import NestedStyles.CommandLine.Romanized
import NestedStyles.Proofs.Stylesheet.Pieces
import NestedStyles.Proofs.Stylesheet.Statements

/-!
The class lists of a stylesheet. Reading its `@apply` statements gives back the class lists of the
forest, unless some other text in it holds the keyword or a class list holds a semicolon.
-/

set_option autoImplicit false

namespace NestedStyles

namespace Apply

/-- Whether a text is free of the keyword. -/
def Quiet (text : Text) : Prop :=
  ¬ keyword <:+: text

theorem quiet_of_not_mem {text : Text} (absent : '@' ∉ text) : Quiet text := by
  intro inside
  exact absent (inside.subset (by decide))

/-- What follows a text that is shown is not in the keyword. -/
theorem not_mem_keyword {c : Char} (follows : c ∈ [' ', ';', '\n']) : c ∉ keyword := by
  simp only [List.mem_cons, List.not_mem_nil, or_false] at follows
  rcases follows with rfl | rfl | rfl <;> decide

/-- All that is written around quiet texts says nothing. -/
theorem passes_quiet : Raw.Passes Quiet fun text => Yields text [] where
  unmarked := by
    intro text unmarked
    exact ⟨quiet_of_not_mem unmarked.1, yields_of_not_mem unmarked.1⟩
  append := Yields.append
  shown := by
    intro text c quiet follows
    exact yields_of_not_infix quiet (not_mem_keyword follows)

/-- A way to read class lists off a stylesheet piece by piece. -/
structure Reads (Good : Text → Prop) (reads : Text → List Text → Prop) : Prop where
  append : ∀ {front back first second}, reads front first → reads back second →
    reads (front ++ back) (first ++ second)
  passes : Raw.Passes Quiet fun text => reads text []
  opening : ∀ {text}, Quiet text → reads (text ++ ['{']) []
  closing : reads ['}'] []
  statement : ∀ {classes}, Good classes → reads (Raw.apply classes) [classes]

section Reads

variable {Good : Text → Prop} {reads : Text → List Text → Prop}

theorem Reads.declarations (reader : Reads Good reads) {subject : Subject}
    (declared : Raw.declarations subject =
      subject.classes.elim [] Raw.apply ++ subject.inlineStyle.elim [] Raw.inlineStyle)
    (quiet : ∀ style, subject.inlineStyle = some style → Quiet style)
    (good : ∀ classes ∈ subject.classes.toList, Good classes) :
    reads (Raw.declarations subject) subject.classes.toList := by
  have applied : reads (subject.classes.elim [] Raw.apply) subject.classes.toList := by
    cases given : subject.classes with
    | none => exact reader.passes.nil
    | some classes =>
        exact reader.statement (good classes (by rw [given]; exact List.mem_cons_self))
  have silent : reads (subject.inlineStyle.elim [] Raw.inlineStyle) [] := by
    cases given : subject.inlineStyle with
    | none => exact reader.passes.nil
    | some style => exact reader.passes.inlineStyle (quiet style given)
  rw [declared]
  have whole := reader.append applied silent
  rwa [List.append_nil] at whole

/-- A rule says what stands between its braces. -/
theorem Reads.rule [Romanization] (reader : Reads Good reads) {settings : Settings} {number : Int}
    {subject : Subject} {selector body : Text} {found : List Text}
    (prints : Raw.Prints settings Quiet number subject)
    (selected : Selector.ofSubject settings number subject = .ok selector)
    (inside : reads body found) :
    reads (Raw.rule (Selector.headerOf settings subject ++ selector) body) found := by
  have front : reads (Selector.headerOf settings subject) [] :=
    reader.passes.headerOf prints selected
  have opened : reads (selector ++ ['{']) [] := reader.opening (prints.selector selector selected)
  have closed : reads (body ++ ['}']) found := by
    have whole := reader.append inside reader.closing
    rwa [List.append_nil] at whole
  have whole := reader.append front (reader.append opened closed)
  have pieces : Raw.rule (Selector.headerOf settings subject ++ selector) body =
      Selector.headerOf settings subject ++ ((selector ++ ['{']) ++ (body ++ ['}'])) := by
    simp only [Raw.rule, List.append_assoc, List.cons_append, List.nil_append]
  rw [pieces]
  exact whole

/-- The rules of elements say what the class lists of the elements are. -/
theorem Reads.of_written [Romanization] (reader : Reads Good reads) {settings : Settings}
    {depth number : Int} {entries : List Entry} {text : Text}
    (written : Raw.Written settings depth number entries text) :
    Raw.ForEach (Raw.Prints settings Quiet) number entries →
      (∀ classes ∈ Outline.classLists entries, Good classes) →
      reads text (Outline.classLists entries) := by
  induction written with
  | nil depth number =>
      intro _ _
      rw [Outline.classLists_nil]
      exact reader.passes.nil
  | @element depth number subject children rest selector below others level declared selected nested
      following ihNested ihFollowing =>
      intro prints good
      obtain ⟨here, inside, behind⟩ := (Raw.forEach_cons _ number subject children rest).mp prints
      rw [Outline.classLists_cons] at good ⊢
      simp only [List.forall_mem_append] at good
      have own := reader.declarations declared here.inlineStyle good.1.1
      have body := reader.append own (ihNested inside good.1.2)
      exact reader.append (reader.rule here selected body) (ihFollowing behind good.2)

/-- The stylesheet of a forest says what the class lists of the forest are, in document order. -/
theorem Reads.ofForest [Romanization] (reader : Reads Good reads) {settings : Settings}
    (typed : settings.WellTyped) {number depth : Int} {forest : List Node}
    (quiet : Raw.Shows settings Quiet number (Outline.ofForest depth forest))
    (good : ∀ classes ∈ Node.gather Node.classList? forest, Good classes) :
    ∃ raw, Raw.ofOutline settings number (Outline.ofForest depth forest) = .ok raw ∧
      reads raw (Node.gather Node.classList? forest) := by
  obtain ⟨text, made, written⟩ := Raw.exists_written_ofForest typed number depth forest
  refine ⟨_, made, ?_⟩
  have regions : reads (Raw.regionsFrom 1 (Outline.level depth forest).blocks) [] := by
    rw [Outline.blocks_level]
    exact reader.passes.regionsFrom quiet.content 1
  have elements := quiet.elements
  rw [Outline.kept_ofForest] at elements
  rw [← Outline.classLists_level depth forest] at good ⊢
  exact reader.append regions (reader.of_written written elements good)

end Reads

theorem reads_yields : Reads (fun classes => ';' ∉ classes) Yields where
  append := Yields.append
  passes := passes_quiet
  opening := fun quiet => yields_of_not_infix quiet (by decide)
  closing := yields_of_not_mem (by decide)
  statement := yields_apply

/-- The statements of a stylesheet are the class lists of the forest, in document order. -/
theorem lists_ofOutline_ofForest [Romanization] {settings : Settings} (typed : settings.WellTyped)
    {number depth : Int} {forest : List Node}
    (quiet : Raw.Shows settings Quiet number (Outline.ofForest depth forest))
    (closed : ∀ classes ∈ Node.gather Node.classList? forest, ';' ∉ classes) :
    ∃ raw, Raw.ofOutline settings number (Outline.ofForest depth forest) = .ok raw ∧
      lists raw = Node.gather Node.classList? forest := by
  obtain ⟨raw, made, yields⟩ := reads_yields.ofForest typed quiet closed
  exact ⟨raw, made, yields.lists_eq⟩

theorem lists_ofOutline_card :
    ∃ raw, Raw.ofOutline {} 0 (Outline.ofForest 1 Raw.card) = .ok raw ∧
      lists raw = ["p-4 flex".toList, "mt-2".toList] := by
  have quiet : Raw.Shows {} Quiet 0 (Outline.ofForest 1 Raw.card) :=
    Raw.shows_card (quiet_of_not_mem (by decide)) (quiet_of_not_mem (by decide))
      (quiet_of_not_mem (by decide)) (quiet_of_not_mem (by decide)) (quiet_of_not_mem (by decide))
      (quiet_of_not_mem (by decide))
  rw [← Raw.gather_card]
  refine lists_ofOutline_ofForest Settings.wellTyped_default quiet ?_
  rw [Raw.gather_card]
  decide

end Apply

end NestedStyles
