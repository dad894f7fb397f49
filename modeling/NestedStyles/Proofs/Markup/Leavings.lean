import NestedStyles.Proofs.Markup.ElementNames
import NestedStyles.Proofs.Markup.Walk
import NestedStyles.Proofs.Results

/-!
What branches leave among the nodes of their level: one after the other, the node of the branch, if it
has one, and the text after it. Where the node of a branch stands follows from how many nodes the branches
in front of it leave.
-/

set_option autoImplicit false

namespace NestedStyles

namespace Branch

/-- What is inside a branch, its text and the branches behind that. Only elements have a content. -/
def content : Branch → Markup.Parsed
  | element _ _ text children _ => ⟨text, children⟩
  | _ => { branches := [] }

def children (branch : Branch) : List Branch :=
  branch.content.branches

/-- Whether a branch becomes a node. Instructions and entities do not. -/
def isKept : Branch → Bool
  | element .. => true
  | comment .. => true
  | instruction .. => false
  | entity .. => false

/-- That a node is an element with the name of the branch in lower case and its attributes in their
order, or a comment with the content of the branch. -/
def Becomes : Branch → Node → Prop
  | element tag attributes _ _ _, .element name others _ =>
    name = Text.lower tag ∧ others = attributes
  | comment content _, .comment same => same = content
  | _, _ => False

/-- The texts that elements begin with and the texts behind branches, in document order. -/
def wording : List Branch → Text
  | [] => []
  | element _ _ text children tail :: rest => text ++ wording children ++ tail ++ wording rest
  | comment _ tail :: rest => tail ++ wording rest
  | instruction _ tail :: rest => tail ++ wording rest
  | entity _ tail :: rest => tail ++ wording rest

end Branch

namespace Node

/-- The contents of all texts of a forest, in document order. -/
def wording : List Node → Text
  | [] => []
  | text content :: rest => content ++ wording rest
  | comment _ :: rest => wording rest
  | element _ _ children :: rest => wording children ++ wording rest

theorem wording_append (front back : List Node) :
    wording (front ++ back) = wording front ++ wording back := by
  induction front with
  | nil => rw [List.nil_append, wording, List.nil_append]
  | cons node rest ih =>
      cases node <;> simp only [List.cons_append, wording, ih, List.append_assoc]

theorem wording_cons {node : Node} (other : node.text? = none) (rest : List Node) :
    wording (node :: rest) = wording node.children ++ wording rest := by
  cases node with
  | text content => cases other
  | comment content => simp only [wording, children, List.nil_append]
  | element tag attributes children => simp only [wording, Node.children]

theorem text?_eq_none_of_children_ne_nil {node : Node} (inhabited : node.children ≠ []) :
    node.text? = none := by
  cases node with
  | text content => exact absurd rfl inhabited
  | comment content => rfl
  | element tag attributes children => rfl

theorem wording_textNodes (text : Text) : wording (Branch.textNodes text) = text := by
  cases text with
  | nil => simp only [Branch.textNodes, wording]
  | cons c more => simp only [Branch.textNodes, wording, List.append_nil]

end Node

namespace Markup

theorem Parsed.toNodes_eq_ok_iff {parsed : Parsed} {nodes : List Node} : parsed.toNodes = .ok nodes ↔
    ∃ below, Branch.toNodes parsed.branches = .ok below ∧
      nodes = Branch.textNodes parsed.text ++ below := by
  rw [toNodes, bind_eq_ok_iff]
  refine exists_congr fun below => and_congr_right fun _ => ?_
  exact ⟨fun same => by cases same; rfl, fun same => by rw [same]; rfl⟩

end Markup

namespace Branch

variable {branch : Branch} {branches rest : List Branch} {nodes run : List Node} {node : Node}

/-- How many nodes a branch leaves among its siblings. -/
def width (branch : Branch) : Nat :=
  (if branch.isKept then 1 else 0) + (textNodes branch.tail).length

/-- How many nodes the branches in front of an index leave. -/
def offset (branches : List Branch) (index : Nat) : Nat :=
  ((branches.take index).map width).sum

/-- The nodes that a branch leaves among its siblings: its own, made of its content, and the text
after it. -/
inductive Leaves (branch : Branch) : List Node → Prop
  | own (node : Node) (kept : branch.isKept = true) (becomes : branch.Becomes node)
      (made : branch.content.toNodes = .ok node.children) :
      Leaves branch (node :: textNodes branch.tail)
  | dropped (lost : branch.isKept = false) : Leaves branch (textNodes branch.tail)

/-- Induction along branches: over those inside the first one and over the others. -/
theorem branches_induction {P : List Branch → Prop} (nil : P [])
    (cons : ∀ branch rest, P branch.children → P rest → P (branch :: rest)) :
    ∀ branches, P branches
  | [] => nil
  | element tag attributes text children tail :: rest =>
    cons (element tag attributes text children tail) rest (branches_induction nil cons children)
      (branches_induction nil cons rest)
  | comment content tail :: rest =>
    cons (comment content tail) rest nil (branches_induction nil cons rest)
  | instruction content tail :: rest =>
    cons (instruction content tail) rest nil (branches_induction nil cons rest)
  | entity name tail :: rest =>
    cons (entity name tail) rest nil (branches_induction nil cons rest)

theorem isKept_of_children_ne_nil (inhabited : branch.children ≠ []) : branch.isKept = true := by
  cases branch with
  | element tag attributes text children tail => rfl
  | comment content tail => rfl
  | instruction content tail => exact absurd rfl inhabited
  | entity name tail => exact absurd rfl inhabited

theorem text?_eq_none_of_becomes (becomes : branch.Becomes node) : node.text? = none := by
  cases node with
  | text content => cases branch <;> cases becomes
  | comment content => rfl
  | element tag attributes children => rfl

theorem eq_text_of_mem_textNodes {text : Text} (member : node ∈ textNodes text) :
    node = .text text ∧ text ≠ [] := by
  cases text with
  | nil => cases member
  | cons c more => exact ⟨List.mem_singleton.mp member, List.cons_ne_nil c more⟩

theorem length_of_leaves (leaves : Leaves branch run) : run.length = branch.width := by
  cases leaves with
  | own node kept becomes made =>
      rw [width, if_pos kept, List.length_cons]
      omega
  | dropped lost => rw [width, lost, if_neg Bool.false_ne_true, Nat.zero_add]

/-- Branches become nodes one after the other. -/
theorem exists_leaves_of_toNodes (made : toNodes (branch :: rest) = .ok nodes) :
    ∃ run others, Leaves branch run ∧ toNodes rest = .ok others ∧ nodes = run ++ others := by
  cases branch with
  | element tag attributes text children tail =>
      rw [toNodes] at made
      obtain ⟨name, named, made⟩ := bind_eq_ok_iff.mp made
      obtain ⟨below, inside, made⟩ := bind_eq_ok_iff.mp made
      obtain ⟨others, further, made⟩ := bind_eq_ok_iff.mp made
      cases made
      have filled : Markup.Parsed.toNodes ⟨text, children⟩ = .ok (textNodes text ++ below) :=
        Markup.Parsed.toNodes_eq_ok_iff.mpr ⟨below, inside, rfl⟩
      exact ⟨_, others, .own (.element name attributes (textNodes text ++ below)) rfl
        ⟨elementName_eq_ok named, rfl⟩ filled, further, rfl⟩
  | comment content tail =>
      rw [toNodes] at made
      obtain ⟨others, further, made⟩ := bind_eq_ok_iff.mp made
      cases made
      have empty : Markup.Parsed.toNodes { branches := [] } = .ok [] :=
        Markup.Parsed.toNodes_eq_ok_iff.mpr ⟨[], by rw [toNodes], rfl⟩
      exact ⟨_, others, .own (.comment content) rfl rfl empty, further, rfl⟩
  | instruction content tail =>
      rw [toNodes] at made
      obtain ⟨others, further, made⟩ := bind_eq_ok_iff.mp made
      cases made
      exact ⟨_, others, .dropped rfl, further, rfl⟩
  | entity name tail =>
      rw [toNodes] at made
      obtain ⟨others, further, made⟩ := bind_eq_ok_iff.mp made
      cases made
      exact ⟨_, others, .dropped rfl, further, rfl⟩

theorem eq_nil_of_toNodes_nil (made : toNodes [] = .ok nodes) : nodes = [] := by
  rw [toNodes] at made
  cases made
  rfl

@[simp] theorem offset_zero (branches : List Branch) : offset branches 0 = 0 := by
  rw [offset, List.take_zero, List.map_nil, List.sum_nil]

theorem offset_cons_succ (branch : Branch) (rest : List Branch) (index : Nat) :
    offset (branch :: rest) (index + 1) = branch.width + offset rest index := by
  rw [offset, List.take_succ_cons, List.map_cons, List.sum_cons, offset]

/-- A branch that is kept takes up room, so offsets ascend behind it. -/
theorem offset_lt_offset {left right : Nat} (found : branches[left]? = some branch)
    (kept : branch.isKept = true) (before : left < right) :
    offset branches left < offset branches right := by
  induction branches generalizing left right with
  | nil => cases found
  | cons first rest ih =>
      cases right with
      | zero => omega
      | succ right =>
          rw [offset_cons_succ]
          cases left with
          | zero =>
              cases found
              rw [offset_zero, width, if_pos kept]
              omega
          | succ left =>
              have ascends := ih found (Nat.lt_of_succ_lt_succ before)
              rw [offset_cons_succ]
              omega

/-- The node of a branch stands behind what the branches in front of it leave. -/
theorem getElem?_offset (made : toNodes branches = .ok nodes) {index : Nat}
    (found : branches[index]? = some branch) (kept : branch.isKept = true) :
    ∃ node, nodes[offset branches index]? = some node ∧ branch.Becomes node ∧
      branch.content.toNodes = .ok node.children := by
  induction branches generalizing nodes index with
  | nil => cases found
  | cons first rest ih =>
      obtain ⟨run, others, leaves, further, rfl⟩ := exists_leaves_of_toNodes made
      cases index with
      | zero =>
          cases found
          cases leaves with
          | own node kept becomes inside => exact ⟨node, by rw [offset_zero]; rfl, becomes, inside⟩
          | dropped lost =>
              rw [kept] at lost
              cases lost
      | succ index =>
          have behind := length_of_leaves leaves
          rw [offset_cons_succ, List.getElem?_append_right (by omega), behind,
            Nat.add_sub_cancel_left]
          exact ih further found

/-- A node that is no text is the node of a branch. -/
theorem exists_offset_eq (made : toNodes branches = .ok nodes) {position : Nat}
    (found : nodes[position]? = some node) (other : node.text? = none) :
    ∃ index branch, branches[index]? = some branch ∧ branch.isKept = true ∧
      offset branches index = position := by
  induction branches generalizing nodes position with
  | nil =>
      rw [eq_nil_of_toNodes_nil made] at found
      cases found
  | cons first rest ih =>
      obtain ⟨run, others, leaves, further, rfl⟩ := exists_leaves_of_toNodes made
      have length := length_of_leaves leaves
      have untexted : ∀ text, node ∉ textNodes text := by
        intro text member
        rw [(eq_text_of_mem_textNodes member).1] at other
        cases other
      rw [List.getElem?_append] at found
      split at found
      · cases leaves with
        | dropped lost => exact absurd (List.mem_of_getElem? found) (untexted _)
        | own own kept becomes inside =>
            cases position with
            | zero => exact ⟨0, first, rfl, kept, offset_zero _⟩
            | succ position =>
                rw [List.getElem?_cons_succ] at found
                exact absurd (List.mem_of_getElem? found) (untexted _)
      · obtain ⟨index, branch, stands, kept, placed⟩ := ih further found
        refine ⟨index + 1, branch, stands, kept, ?_⟩
        rw [offset_cons_succ, placed]
        omega

/-- No branch leaves an empty text. -/
theorem ne_nil_of_mem_toNodes (made : toNodes branches = .ok nodes) {content : Text}
    (member : .text content ∈ nodes) : content ≠ [] := by
  induction branches generalizing nodes with
  | nil =>
      rw [eq_nil_of_toNodes_nil made] at member
      cases member
  | cons first rest ih =>
      obtain ⟨run, others, leaves, further, rfl⟩ := exists_leaves_of_toNodes made
      have tail : .text content ∈ textNodes first.tail → content ≠ [] := by
        intro among
        obtain ⟨same, inhabited⟩ := eq_text_of_mem_textNodes among
        cases same
        exact inhabited
      rcases List.mem_append.mp member with among | behind
      · cases leaves with
        | dropped lost => exact tail among
        | own node kept becomes inside =>
            rcases List.mem_cons.mp among with rfl | among
            · cases text?_eq_none_of_becomes becomes
            · exact tail among
      · exact ih further behind

/-- The nodes of branches are, one branch after the other, the node that is found at the offset of the
branch and the text after it, whatever stands in front of them all. -/
theorem eq_flatten_of_toNodes (made : toNodes branches = .ok nodes) (front : List Node) :
    nodes = (branches.mapIdx fun index branch =>
      (if branch.isKept then
        ((front ++ nodes)[front.length + offset branches index]?).toList else []) ++
          textNodes branch.tail).flatten := by
  induction branches generalizing nodes front with
  | nil => exact eq_nil_of_toNodes_nil made
  | cons first rest ih =>
      obtain ⟨run, others, leaves, further, rfl⟩ := exists_leaves_of_toNodes made
      have length := length_of_leaves leaves
      -- For the branches behind the first one, what that leaves is in front as well.
      have onward := ih further (front ++ run)
      rw [List.length_append, length, List.append_assoc] at onward
      rw [List.mapIdx_cons, List.flatten_cons]
      simp only [offset_cons_succ, ← Nat.add_assoc]
      rw [← onward, offset_zero, Nat.add_zero, List.getElem?_append_right (Nat.le_refl _),
        Nat.sub_self]
      congr 1
      cases leaves with
      | own node kept becomes inside => rw [if_pos kept]; rfl
      | dropped lost => rw [lost, if_neg Bool.false_ne_true]; rfl

theorem wording_cons (branch : Branch) (rest : List Branch) :
    wording (branch :: rest) =
      branch.content.text ++ wording branch.children ++ branch.tail ++ wording rest := by
  cases branch <;> simp [wording, content, children, tail]

theorem content_of_dropped {branch : Branch} (lost : branch.isKept = false) :
    branch.content = { branches := [] } := by
  cases branch with
  | element tag attributes text children tail => cases lost
  | comment content tail => rfl
  | instruction content tail => rfl
  | entity name tail => rfl

/-- No text is lost, and none moves. -/
theorem wording_of_toNodes {branches : List Branch} :
    ∀ {nodes : List Node}, toNodes branches = .ok nodes →
      Node.wording nodes = wording branches := by
  induction branches using branches_induction with
  | nil =>
      intro nodes made
      rw [eq_nil_of_toNodes_nil made, Node.wording, wording]
  | cons branch rest ihInside ihRest =>
      intro nodes made
      obtain ⟨run, others, leaves, further, rfl⟩ := exists_leaves_of_toNodes made
      rw [Node.wording_append, wording_cons, ihRest further]
      congr 1
      cases leaves with
      | own node kept becomes inside =>
          obtain ⟨below, turned, same⟩ := Markup.Parsed.toNodes_eq_ok_iff.mp inside
          rw [Node.wording_cons (text?_eq_none_of_becomes becomes), same, Node.wording_append,
            Node.wording_textNodes, Node.wording_textNodes, ihInside turned]
      | dropped lost =>
          rw [Node.wording_textNodes, children, content_of_dropped lost, wording]
          rfl

end Branch

end NestedStyles
