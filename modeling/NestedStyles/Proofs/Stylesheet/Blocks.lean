import NestedStyles.CommandLine.Romanized
import NestedStyles.Proofs.Stylesheet.Pieces
import NestedStyles.Proofs.Text.Braces

/-!
The blocks of a stylesheet. They are nested as the kept elements are, each behind the selector of its
element, and the numbers in the headers count the blocks around them.
-/

set_option autoImplicit false

namespace NestedStyles

namespace Raw

/-- Whether blocks stand at the places of the elements of an outline and nowhere else, each of them
related to the number of its element and the element. -/
def Mirrors (R : Int → Subject → Block → Prop) (number : Int) (entries : List Entry)
    (blocks : List Block) : Prop :=
  ∀ place, match Place.at? Entry.children entries place, Place.at? Block.nested blocks place with
    | some (.element subject _), some block => R (numberAt number entries place) subject block
    | none, none => True
    | _, _ => False

theorem mirrors_nil (R : Int → Subject → Block → Prop) (number : Int) : Mirrors R number [] [] := by
  intro place
  rw [Place.at?_empty, Place.at?_empty]
  trivial

theorem mirrors_cons {R : Int → Subject → Block → Prop} {number : Int} {subject : Subject}
    {children : Option (List Entry)} {rest : List Entry} {block : Block} {more : List Block}
    (here : R (nextNumber number children) subject block)
    (inside : Mirrors R (nextNumber number children) (children.getD []) block.nested)
    (behind : Mirrors R (nextNumber number children) rest more) :
    Mirrors R number (.element subject children :: rest) (block :: more) := by
  intro place
  rcases place with _ | ⟨_ | index, deeper⟩
  · rw [Place.at?_nil, Place.at?_nil]
    trivial
  · rw [numberAt_cons_zero]
    cases deeper with
    | nil => exact here
    | cons inner more => exact inside (inner :: more)
  · rw [Place.at?_cons_succ, Place.at?_cons_succ, numberAt_cons_succ]
    exact behind (index :: deeper)

/-- Whether the text in front of a block ends with the selector of an element and, if headers are
printed, with its header in front of that. The number in the header counts the blocks that are open
there, from `depth` on. -/
def Heads [Romanization] (settings : Settings) (depth number : Int) (subject : Subject)
    (block : Block) : Prop :=
  ∃ before header selector,
    Selector.ofSubject settings number subject = .ok selector ∧
      block.front = before ++ header ++ selector ∧
      (settings.printComments.isOn = true →
        header = "/* ".toList ++ Selector.title subject ++ " -> ".toList ++
          Text.ofInt (depth + Text.openBlocks before) ++ " */".toList)

/-- Nothing that is written around texts without braces has braces, but for those of rules. -/
theorem passes_braceless : Passes Text.Braceless Text.Braceless where
  unmarked := by
    intro text unmarked
    exact ⟨unmarked.2, unmarked.2⟩
  append := Text.Braceless.append
  shown := by
    intro text c plain follows
    have other : Text.Braceless [c] := by
      simp only [List.mem_cons, List.not_mem_nil, or_false] at follows
      rcases follows with rfl | rfl | rfl <;> exact ⟨by decide, by decide⟩
    exact plain.append other

theorem braceless_apply {classes : Text} (plain : Text.Braceless classes) :
    Text.Braceless (apply classes) := by
  have front : Text.Braceless "@apply ".toList := ⟨by decide, by decide⟩
  have back : Text.Braceless [';'] := ⟨by decide, by decide⟩
  exact (front.append plain).append back

theorem braceless_declarations {subject : Subject}
    (declared : declarations subject =
      subject.classes.elim [] apply ++ subject.inlineStyle.elim [] inlineStyle)
    (styles : ∀ style, subject.inlineStyle = some style → Text.Braceless style)
    (lists : ∀ classes ∈ subject.classes.toList, Text.Braceless classes) :
    Text.Braceless (declarations subject) := by
  rw [declared]
  refine Text.Braceless.append ?_ ?_
  · cases given : subject.classes with
    | none => exact passes_braceless.nil
    | some classes =>
        exact braceless_apply (lists classes (by rw [given]; exact List.mem_cons_self))
  · cases given : subject.inlineStyle with
    | none => exact passes_braceless.nil
    | some style => exact passes_braceless.inlineStyle (styles style given)

/-- The rules of elements add a block for each element, at its place, wherever as many blocks are open
as the depth of the elements says. -/
theorem exists_adds_of_written [Romanization] {settings : Settings} (base : Int) {depth number : Int}
    {entries : List Entry} {text : Text} (written : Written settings depth number entries text) :
    ForEach (Prints settings Text.Braceless) number entries →
      (∀ classes ∈ Outline.classLists entries, Text.Braceless classes) →
      ∃ make, Text.Adds text make ∧ ∀ front, base + Text.openBlocks front = depth →
        Mirrors (Heads settings base) number entries (make front) := by
  induction written with
  | nil depth number =>
      intro _ _
      exact ⟨_, Text.Adds.nil, fun front _ => mirrors_nil _ number⟩
  | @element depth number subject children rest selector below others level declared selected nested
      following ihNested ihFollowing =>
      intro prints lists
      obtain ⟨here, inside, behind⟩ := (forEach_cons _ number subject children rest).mp prints
      rw [Outline.classLists_cons] at lists
      simp only [List.forall_mem_append] at lists
      obtain ⟨makeInside, addsInside, mirrorsInside⟩ := ihNested inside lists.1.2
      obtain ⟨makeBehind, addsBehind, mirrorsBehind⟩ := ihFollowing behind lists.2
      have heading : Text.Braceless (Selector.headerOf settings subject ++ selector) :=
        (passes_braceless.headerOf here selected).append (here.selector selector selected)
      have own := braceless_declarations declared here.inlineStyle lists.1.1
      have body := (Text.Adds.of_braceless own).append addsInside
      have block := Text.Adds.block heading body
      refine ⟨_, block.append addsBehind, ?_⟩
      intro front counts
      -- In front of the children one more block is open, in front of the siblings as many as before.
      refine mirrors_cons ?_ (mirrorsInside _ ?_) (mirrorsBehind _ ?_)
      · refine ⟨front, Selector.headerOf settings subject, selector, selected, ?_, ?_⟩
        · rw [Block.front, List.append_assoc]
        · intro printed
          rw [Selector.headerOf, if_pos printed, Selector.header_eq, level, counts]
      · have brace : Text.openBlocks ['{'] = 1 := rfl
        rw [Text.openBlocks_append, Text.openBlocks_append, Text.openBlocks_append,
          Text.openBlocks_of_braceless heading, Text.openBlocks_of_braceless own, brace]
        omega
      · rw [Text.openBlocks_append, block.openBlocks_eq]
        omega

/-- The stylesheet of a forest is balanced. Its blocks are nested as the kept elements are, each behind
the header and the selector of its element, and the number in a header is that of the blocks that
are open there, counted on from the depth at which the outline begins. -/
theorem blocks_ofOutline_ofForest [Romanization] {settings : Settings} (typed : settings.WellTyped)
    {number depth : Int} {forest : List Node}
    (plain : Shows settings Text.Braceless number (Outline.ofForest depth forest))
    (lists : ∀ classes ∈ Node.gather Node.classList? forest, Text.Braceless classes) :
    ∃ raw blocks, ofOutline settings number (Outline.ofForest depth forest) = .ok raw ∧
      Text.Balanced raw ∧ Text.blocks? raw = some blocks ∧
      Mirrors (Heads settings depth) number (Outline.kept (Outline.ofForest depth forest))
        blocks := by
  obtain ⟨text, made, written⟩ := exists_written_ofForest typed number depth forest
  have regions : Text.Braceless (regionsFrom 1 (Outline.level depth forest).blocks) := by
    rw [Outline.blocks_level]
    exact passes_braceless.regionsFrom plain.content 1
  have elements := plain.elements
  rw [← Outline.classLists_level depth forest] at lists
  rw [Outline.kept_ofForest] at elements ⊢
  obtain ⟨make, adds, mirrors⟩ := exists_adds_of_written depth written elements lists
  have whole := (Text.Adds.of_braceless regions).append adds
  refine ⟨_, _, made, Text.balanced_of_blocks? whole.blocks?_eq, whole.blocks?_eq, ?_⟩
  refine mirrors _ ?_
  rw [List.nil_append, Text.openBlocks_of_braceless regions, Int.add_zero]

theorem blocks_ofOutline_card :
    ∃ raw blocks, ofOutline {} 0 (Outline.ofForest 1 card) = .ok raw ∧
      Text.Balanced raw ∧ Text.blocks? raw = some blocks ∧
      Mirrors (Heads {} 1) 0 (Outline.kept (Outline.ofForest 1 card)) blocks := by
  have plain : Shows {} Text.Braceless 0 (Outline.ofForest 1 card) :=
    shows_card ⟨by decide, by decide⟩ ⟨by decide, by decide⟩ ⟨by decide, by decide⟩
      ⟨by decide, by decide⟩ ⟨by decide, by decide⟩ ⟨by decide, by decide⟩
  refine blocks_ofOutline_ofForest Settings.wellTyped_default plain ?_
  rw [gather_card]
  simp only [List.forall_mem_cons]
  exact ⟨⟨by decide, by decide⟩, ⟨by decide, by decide⟩, fun _ absent => absurd absent List.not_mem_nil⟩

end Raw

end NestedStyles
