import NestedStyles.Proofs.Markup.ElementNames
import NestedStyles.Proofs.Markup.TagCase

/-!
The frame of a document: its outermost element, its head and its body. While a body is open the parser
ignores every other tag of the frame, so there is none inside a body. Each stack of open elements that the
parser builds keeps to that, and begins with the outermost element.
-/

set_option autoImplicit false

namespace NestedStyles

open Tree.Growing (isFrameTag)

/-- That a tag names no part of the frame of a document, in whatever case. -/
def Text.Ordinary (tag : Text) : Prop :=
  isFrameTag (Text.lower tag) = false

theorem Text.eq_of_isFrameTag_lower {tag : Text} (lowered : Lowered tag)
    (frame : isFrameTag (lower tag) = true) : lower tag = tag := by
  have simple : ∀ name ∈ ["html".toList, "head".toList, "body".toList], ∀ c ∈ name, Simple c := by
    simp [simple_iff]
  have among : lower tag ∈ ["html".toList, "head".toList, "body".toList] := by
    simpa [isFrameTag, or_assoc] using frame
  exact (eq_of_lowerFrom_eq lowered (simple _ among) rfl).symm

theorem Text.ordinary_of_isFrameTag_eq_false {tag : Text} (lowered : Lowered tag)
    (other : isFrameTag tag = false) : Ordinary tag := by
  by_contra frame
  rw [Ordinary, Bool.not_eq_false] at frame
  rw [eq_of_isFrameTag_lower lowered frame, other] at frame
  cases frame

namespace Branch

variable {branch : Branch} {branches : List Branch}

/-- That no branch is an element of the frame, wherever it stands. -/
def Frameless (branches : List Branch) : Prop :=
  ∀ tag ∈ tags branches, tag.Ordinary

/-- That no body has an element of the frame inside it. -/
def Settled : List Branch → Prop
  | [] => True
  | element tag _ _ children _ :: rest =>
    (tag = "body".toList → Frameless children) ∧ Settled children ∧ Settled rest
  | comment _ _ :: rest => Settled rest
  | instruction _ _ :: rest => Settled rest
  | entity _ _ :: rest => Settled rest

theorem tags_cons (branch : Branch) (rest : List Branch) :
    tags (branch :: rest) = tags [branch] ++ tags rest := by
  cases branch <;> simp [tags]

theorem frameless_cons_iff {rest : List Branch} :
    Frameless (branch :: rest) ↔ Frameless [branch] ∧ Frameless rest := by
  rw [Frameless, tags_cons, List.forall_mem_append]
  rfl

theorem settled_cons_iff {rest : List Branch} :
    Settled (branch :: rest) ↔ Settled [branch] ∧ Settled rest := by
  cases branch <;> simp [Settled, and_assoc]

theorem frameless_iff_forall : Frameless branches ↔ ∀ branch ∈ branches, Frameless [branch] := by
  induction branches with
  | nil => simp [Frameless, tags]
  | cons branch rest ih => rw [frameless_cons_iff, ih, List.forall_mem_cons]

theorem settled_iff_forall : Settled branches ↔ ∀ branch ∈ branches, Settled [branch] := by
  induction branches with
  | nil => simp [Settled]
  | cons branch rest ih => rw [settled_cons_iff, ih, List.forall_mem_cons]

theorem frameless_reverse_iff : Frameless branches.reverse ↔ Frameless branches := by
  rw [frameless_iff_forall, frameless_iff_forall]
  simp only [List.mem_reverse]

theorem settled_reverse_iff : Settled branches.reverse ↔ Settled branches := by
  rw [settled_iff_forall, settled_iff_forall]
  simp only [List.mem_reverse]

theorem frameless_addTail_iff (more : Text) {rest : List Branch} :
    Frameless (branch.addTail more :: rest) ↔ Frameless (branch :: rest) := by
  cases branch <;> simp only [Frameless, addTail, tags]

theorem settled_addTail_iff (more : Text) {rest : List Branch} :
    Settled (branch.addTail more :: rest) ↔ Settled (branch :: rest) := by
  cases branch <;> simp only [addTail, Settled]

theorem frameless_element_iff {tag : Text} {attributes : Attributes} {text tail : Text} :
    Frameless [element tag attributes text branches tail] ↔ tag.Ordinary ∧ Frameless branches := by
  simp [Frameless, tags]

theorem settled_element_iff {tag : Text} {attributes : Attributes} {text tail : Text} :
    Settled [element tag attributes text branches tail] ↔
      (tag = "body".toList → Frameless branches) ∧ Settled branches := by
  simp [Settled]

end Branch

namespace Tree

open Branch (Frameless Settled)

/-- Whether one of the open elements is a body. -/
def HasBody (stack : List Frame) : Prop :=
  ∃ frame ∈ stack, frame.tag = "body".toList

/-- What holds of an open element, given those around it. -/
structure Standing (frame : Frame) (outer : List Frame) : Prop where
  outermost : outer = [] → frame.tag = "html".toList
  inside : HasBody outer → frame.tag.Ordinary
  content : frame.tag = "body".toList ∨ HasBody outer → Frameless frame.children
  settled : Settled frame.children

/-- What holds of the open elements, innermost first. -/
def Guarded : List Frame → Prop
  | [] => True
  | frame :: outer => Standing frame outer ∧ Guarded outer

variable {frame : Frame} {outer : List Frame}

theorem hasBody_cons_iff :
    HasBody (frame :: outer) ↔ frame.tag = "body".toList ∨ HasBody outer := by
  simp [HasBody]

theorem not_hasBody_nil : ¬ HasBody [] := by
  simp [HasBody]

/-- A stack of one element has no body in it. -/
theorem not_hasBody_of_length_le_one {stack : List Frame} (guarded : Guarded stack)
    (short : stack.length ≤ 1) : ¬ HasBody stack := by
  match stack, guarded, short with
  | [], _, _ => exact not_hasBody_nil
  | [frame], guarded, _ =>
      rw [hasBody_cons_iff, guarded.1.outermost rfl]
      rintro (same | none)
      · exact absurd same (by decide)
      · exact not_hasBody_nil none

/-- An element that was just opened. -/
theorem Standing.opened {tag : Text} (outermost : outer = [] → tag = "html".toList)
    (inside : HasBody outer → tag.Ordinary) (attributes : Attributes) :
    Standing { tag, attributes } outer where
  outermost := outermost
  inside := inside
  content _ := by simp [Frameless, Branch.tags]
  settled := by simp [Settled]

theorem Standing.addText (standing : Standing frame outer) (more : Text) :
    Standing (frame.addText more) outer := by
  obtain ⟨tag, attributes, text, children⟩ := frame
  cases children with
  | nil => exact ⟨standing.outermost, standing.inside, standing.content, standing.settled⟩
  | cons last others =>
      refine ⟨standing.outermost, standing.inside, fun body => ?_, ?_⟩
      · exact (Branch.frameless_addTail_iff more).mpr (standing.content body)
      · exact (Branch.settled_addTail_iff more).mpr standing.settled

theorem Standing.addChild (standing : Standing frame outer) {child : Branch}
    (inner : frame.tag = "body".toList ∨ HasBody outer → Frameless [child]) (settled : Settled [child]) :
    Standing (frame.addChild child) outer where
  outermost := standing.outermost
  inside := standing.inside
  content body := Branch.frameless_cons_iff.mpr ⟨inner body, standing.content body⟩
  settled := Branch.settled_cons_iff.mpr ⟨settled, standing.settled⟩

namespace Growing

variable {t : Growing} {tag : Text}

/-- What holds of a tree under construction. -/
structure Framed (t : Growing) : Prop where
  guarded : Guarded t.stack
  settled : Settled t.roots
  outermost : ∀ root ∈ t.roots, ∀ tag, root.tag? = some tag → tag = "html".toList

theorem Framed.add (framed : Framed t) {node : Branch} (inner : HasBody t.stack → Frameless [node])
    (settled : Settled [node])
    (outermost : t.stack = [] → ∀ tag, node.tag? = some tag → tag = "html".toList) :
    Framed (t.add node) := by
  have guarded := framed.guarded
  rw [Growing.add]
  split
  · rename_i empty
    exact ⟨guarded, Branch.settled_cons_iff.mpr ⟨settled, framed.settled⟩,
      List.forall_mem_cons.mpr ⟨outermost empty, framed.outermost⟩⟩
  · rename_i frame outer open'
    rw [open', hasBody_cons_iff] at inner
    rw [open'] at guarded
    exact ⟨⟨guarded.1.addChild inner settled, guarded.2⟩, framed.settled, framed.outermost⟩

theorem Framed.addText (framed : Framed t) (text : Text) : Framed (t.addText text) := by
  have guarded := framed.guarded
  rw [Growing.addText]
  split
  · exact framed
  · rename_i frame outer open'
    rw [open'] at guarded
    exact ⟨⟨guarded.1.addText text, guarded.2⟩, framed.settled, framed.outermost⟩

theorem Framed.push (framed : Framed t) (attributes : Attributes)
    (outermost : t.stack = [] → tag = "html".toList) (inside : HasBody t.stack → tag.Ordinary) :
    Framed (t.push tag attributes) where
  guarded := ⟨.opened outermost inside attributes, framed.guarded⟩
  settled := framed.settled
  outermost := framed.outermost

theorem Framed.pop (framed : Framed t) : Framed t.pop := by
  have guarded := framed.guarded
  rw [Growing.pop]
  split
  · exact framed
  rename_i frame outer open'
  rw [open'] at guarded
  obtain ⟨standing, around⟩ := guarded
  -- The closed element moves into the one around it, with all that it holds.
  have below : Framed { t with stack := outer } := ⟨around, framed.settled, framed.outermost⟩
  refine below.add ?_ ?_ ?_
  · intro body
    exact Branch.frameless_element_iff.mpr ⟨standing.inside body,
      Branch.frameless_reverse_iff.mpr (standing.content (.inr body))⟩
  · refine Branch.settled_element_iff.mpr ⟨fun own => ?_, ?_⟩
    · exact Branch.frameless_reverse_iff.mpr (standing.content (.inl own))
    · exact Branch.settled_reverse_iff.mpr standing.settled
  · intro empty own same
    cases same
    exact standing.outermost empty

theorem Framed.popMany (framed : Framed t) (count : Nat) : Framed (popMany count t) := by
  induction count generalizing t with
  | zero => exact framed
  | succ count ih => exact ih framed.pop

theorem Framed.closeFor (framed : Framed t) (tag : Text) : Framed (t.closeFor tag) :=
  framed.popMany _

theorem isOpen_body_iff : t.isOpen "body".toList = true ↔ HasBody t.stack := by
  simp [isOpen, HasBody]

/-- The outermost element is opened if nothing is open. -/
theorem Framed.rooted (framed : Framed t) :
    Framed (if t.stack.isEmpty then t.push "html".toList [] else t) ∧
      (if t.stack.isEmpty then t.push "html".toList [] else t).stack ≠ [] := by
  split
  · rename_i empty
    rw [List.isEmpty_iff] at empty
    refine ⟨framed.push [] (fun _ => rfl) fun body => ?_, List.cons_ne_nil _ _⟩
    rw [empty] at body
    exact absurd body not_hasBody_nil
  · rename_i filled
    exact ⟨framed, fun empty => filled (by rw [empty]; rfl)⟩

/-- An element that is implied is opened inside another and outside each body. -/
theorem Framed.push_inside (framed : Framed t) (filled : t.stack ≠ []) (bodiless : ¬ HasBody t.stack)
    (tag : Text) (attributes : Attributes) :
    Framed (t.push tag attributes) ∧ (t.push tag attributes).stack ≠ [] :=
  ⟨framed.push attributes (fun empty => absurd empty filled) fun body => absurd body bodiless,
    List.cons_ne_nil _ _⟩

/-- What `imply` leaves is framed, and an element is open unless the outermost one starts. -/
theorem Framed.imply (framed : Framed t) (tag : Text) :
    Framed (t.imply tag) ∧ (tag ≠ "html".toList → (t.imply tag).stack ≠ []) := by
  by_cases outermost : tag = "html".toList
  · rw [Growing.imply, if_pos outermost]
    exact ⟨framed, fun other => absurd outermost other⟩
  have rooted := framed.rooted
  rw [Growing.imply, if_neg outermost]
  generalize (if t.stack.isEmpty then t.push "html".toList [] else t) = u at rooted ⊢
  obtain ⟨framed, filled⟩ := rooted
  refine (fun both => ⟨both.1, fun _ => both.2⟩ : (Framed _ ∧ _ ≠ []) → _) ?_
  dsimp only
  split
  · exact ⟨framed, filled⟩
  split
  · rename_i short
    -- A head is implied only where the outermost element is the only one.
    have bodiless : ¬ HasBody u.stack :=
      not_hasBody_of_length_le_one framed.guarded (by simp at short; exact short.1)
    split
    · exact ⟨framed, filled⟩
    · exact framed.push_inside filled bodiless _ _
  split
  · exact ⟨framed, filled⟩
  split
  · exact ⟨framed, filled⟩
  · rename_i missing
    refine framed.push_inside filled (fun body => missing ?_) _ _
    rw [← isOpen_body_iff] at body
    rw [body, Bool.or_true, Bool.true_or]

/-- A start tag of the frame that is not ignored stands outside each body. -/
theorem not_hasBody_of_not_misplaced (framed : Framed t) (frame : isFrameTag tag = true)
    (placed : t.isMisplaced tag = false) : ¬ HasBody t.stack := by
  simp only [isFrameTag, Bool.or_eq_true, beq_iff_eq] at frame
  simp only [isMisplaced, Bool.or_eq_false_iff, Bool.and_eq_false_iff, beq_eq_false_iff_ne] at placed
  obtain ⟨⟨html, head⟩, body⟩ := placed
  rcases frame with (rfl | rfl) | rfl
  · have empty : t.stack = [] := by simpa using html
    rw [empty]
    exact not_hasBody_nil
  · have single : t.stack.length = 1 := by simpa using head
    exact not_hasBody_of_length_le_one framed.guarded single.le
  · rw [← isOpen_body_iff]
    simpa using body

theorem Framed.start (framed : Framed t) (lowered : Text.Lowered tag) (attributes : Attributes)
    (selfClosing : Bool) : Framed (t.start tag attributes selfClosing) := by
  obtain ⟨framed, filled⟩ := (framed.closeFor tag).imply tag
  rw [Growing.start]
  dsimp only
  generalize (t.closeFor tag).imply tag = u at framed filled ⊢
  split
  · -- A tag that is ignored may still close an element, but it opens none.
    have counted : Framed { u with ignored := u.ignored + 1 } :=
      ⟨framed.guarded, framed.settled, framed.outermost⟩
    split
    · exact counted.pop
    · exact counted
  · rename_i placed
    rw [Bool.not_eq_true] at placed
    have opened : Framed (u.push tag attributes) := by
      refine framed.push attributes (fun empty => ?_) fun body => ?_
      · by_contra other
        exact filled other empty
      · by_cases frame : isFrameTag tag = true
        · exact absurd body (not_hasBody_of_not_misplaced framed frame placed)
        · exact Text.ordinary_of_isFrameTag_eq_false lowered (Bool.eq_false_of_not_eq_true frame)
    split
    · exact opened.pop
    · exact opened

theorem Framed.stop (framed : Framed t) (tag : Text) : Framed (t.stop tag) := by
  rw [Growing.stop]
  split
  · exact ⟨framed.guarded, framed.settled, framed.outermost⟩
  split
  · exact framed
  · exact framed.popMany _

theorem Framed.write (framed : Framed t) (text : Text) : Framed (t.write text) := by
  have spaced := framed.addText (text.takeWhile Token.isTagBlank)
  rw [Growing.write]
  refine iteInduction (fun _ => ?_) fun _ => framed.addText text
  dsimp only
  split
  · exact spaced
  · refine Framed.addText (Framed.imply ?_ _).1 _
    split
    · exact spaced.closeFor _
    · exact spaced

/-- Each token leaves a framed tree. -/
theorem Framed.grow (framed : Framed t) {token : Token} (lowered : token.Lowered) :
    Framed (t.grow token) := by
  cases token with
  | text content => exact framed.write content
  | comment content =>
      refine framed.add (fun _ => ?_) ?_ fun _ tag same => ?_
      · simp [Frameless, Branch.tags]
      · simp [Settled]
      · cases same
  | opening tag attributes selfClosing =>
      exact framed.start (lowered tag rfl) attributes selfClosing
  | closing tag => exact framed.stop tag

theorem Framed.foldl (framed : Framed t) {tokens : List Token}
    (lowered : ∀ token ∈ tokens, token.Lowered) : Framed (tokens.foldl Growing.grow t) := by
  induction tokens generalizing t with
  | nil => exact framed
  | cons token rest ih =>
      rw [List.forall_mem_cons] at lowered
      exact ih (framed.grow lowered.1) lowered.2

theorem framed_empty : Framed {} :=
  ⟨trivial, by simp [Settled], fun _ member => absurd member List.not_mem_nil⟩

end Growing

/-- No body of a document has an element of the frame inside it. -/
theorem settled_ofText (text : Text) : Settled (ofText text) := by
  have framed := Growing.framed_empty.foldl (Token.lowered_ofText text)
  exact Branch.settled_reverse_iff.mpr (framed.popMany _).settled

/-- The elements at the outermost level of a document all have the name of the outermost element. -/
theorem tag?_of_mem_ofText {text tag : Text} {root : Branch} (member : root ∈ ofText text)
    (tagged : root.tag? = some tag) : tag = "html".toList := by
  have framed := Growing.framed_empty.foldl (Token.lowered_ofText text)
  exact (framed.popMany _).outermost root (List.mem_reverse.mp member) tag tagged

end Tree

end NestedStyles
