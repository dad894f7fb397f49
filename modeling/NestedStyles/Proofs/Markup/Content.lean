import NestedStyles.Proofs.Markup.Leavings

/-!
What becomes of the content of an element. The tree keeps each text with the branch in front of it,
or with the element that it begins; among the nodes it stands for itself. Nothing else changes but
the case of names, and that instructions and entities are dropped: each of the other branches has an
image among the nodes, in the same order and with the same parent, and each text is found where it was.
-/

set_option autoImplicit false

namespace NestedStyles

namespace Markup

namespace Parsed

/-- That a branch stands at a place and becomes a node. -/
def Keeps (parsed : Parsed) (place : Place) : Prop :=
  ∃ branch, Place.at? Branch.children parsed.branches place = some branch ∧ branch.isKept = true

/-- The nodes of a content as siblings: its text, and for one branch after the other its own node,
unless it is dropped, and right behind that the text after it. -/
def arranged (parsed : Parsed) (own : Nat → Option Node) : List Node :=
  Branch.textNodes parsed.text ++ (parsed.branches.mapIdx fun index branch =>
    (if branch.isKept then (own index).toList else []) ++ Branch.textNodes branch.tail).flatten

end Parsed

/-- What it means that nodes hold all that a content has, with an `image` among them for each place
of a branch that becomes a node. -/
structure KeepsContent (parsed : Parsed) (nodes : List Node) (image : Place → Place) : Prop where
  /-- Elements keep their names, but for the case, and their attributes, and comments their
  content. -/
  own : ∀ place branch, Place.at? Branch.children parsed.branches place = some branch →
    branch.isKept = true →
      ∃ node, Place.at? Node.children nodes (image place) = some node ∧ branch.Becomes node
  /-- Every other node is a text. -/
  only : ∀ target node, Place.at? Node.children nodes target = some node → node.text? = none →
    ∃ place, parsed.Keeps place ∧ image place = target
  /-- Document order stays, so no two places share an image. -/
  order : ∀ left right, parsed.Keeps left → parsed.Keeps right →
    (image left < image right ↔ left < right)
  /-- The parent stays the parent. -/
  parent : ∀ place, parsed.Keeps place → place.dropLast ≠ [] →
    parsed.Keeps place.dropLast ∧ image place.dropLast = (image place).dropLast
  /-- What has no parent gets none. -/
  depth : ∀ place, (image place).length = place.length
  /-- At the outermost level each text is in front of the first branch or behind its own. -/
  outermost : nodes = parsed.arranged fun index => Place.at? Node.children nodes (image [index])
  /-- So it is inside every branch. -/
  inside : ∀ place branch node, Place.at? Branch.children parsed.branches place = some branch →
    branch.isKept = true → Place.at? Node.children nodes (image place) = some node →
      node.children = branch.content.arranged fun index =>
        Place.at? Node.children nodes (image (place ++ [index]))
  /-- No text is empty. -/
  filled : ∀ target content, Place.at? Node.children nodes target = some (.text content) →
    content ≠ []
  /-- All texts together are the same. -/
  wording : Node.wording nodes = parsed.text ++ Branch.wording parsed.branches

namespace Parsed

variable {parsed : Parsed} {nodes : List Node} {node : Node} {branch : Branch}

/-- Where the node of a branch stands among the nodes of its level. -/
def spot (parsed : Parsed) (index : Nat) : Nat :=
  (Branch.textNodes parsed.text).length + Branch.offset parsed.branches index

/-- The content of the branch at an index. -/
def below (parsed : Parsed) (index : Nat) : Parsed :=
  parsed.branches[index]?.elim { branches := [] } Branch.content

/-- Where the node of the branch at a place stands. -/
def image (parsed : Parsed) : Place → Place :=
  Place.lead spot below parsed

theorem below_of_getElem? {index : Nat} (found : parsed.branches[index]? = some branch) :
    parsed.below index = branch.content := by
  rw [below, found, Option.elim_some]

theorem getElem?_spot (made : parsed.toNodes = .ok nodes) {index : Nat}
    (found : parsed.branches[index]? = some branch) (kept : branch.isKept = true) :
    ∃ node, nodes[parsed.spot index]? = some node ∧ branch.Becomes node ∧
      branch.content.toNodes = .ok node.children := by
  obtain ⟨below, turned, rfl⟩ := toNodes_eq_ok_iff.mp made
  obtain ⟨node, stands, becomes, inside⟩ := Branch.getElem?_offset turned found kept
  refine ⟨node, ?_, becomes, inside⟩
  rw [spot, List.getElem?_append_right (Nat.le_add_right _ _), Nat.add_sub_cancel_left, stands]

/-- A node that is no text is the node of a branch and has the nodes of its content. -/
theorem exists_spot_eq (made : parsed.toNodes = .ok nodes) {position : Nat}
    (found : nodes[position]? = some node) (other : node.text? = none) :
    ∃ index branch, parsed.branches[index]? = some branch ∧ branch.isKept = true ∧
      parsed.spot index = position ∧ branch.content.toNodes = .ok node.children := by
  obtain ⟨below, turned, rfl⟩ := toNodes_eq_ok_iff.mp made
  rw [List.getElem?_append] at found
  split at found
  · rw [(Branch.eq_text_of_mem_textNodes (List.mem_of_getElem? found)).1] at other
    cases other
  · obtain ⟨index, branch, root, kept, placed⟩ := Branch.exists_offset_eq turned found other
    obtain ⟨same, stands, -, inside⟩ := Branch.getElem?_offset turned root kept
    rw [placed, found] at stands
    cases stands
    refine ⟨index, branch, root, kept, ?_, inside⟩
    rw [spot, placed]
    omega

theorem ne_nil_of_mem (made : parsed.toNodes = .ok nodes) {content : Text}
    (member : .text content ∈ nodes) : content ≠ [] := by
  obtain ⟨below, turned, rfl⟩ := toNodes_eq_ok_iff.mp made
  rcases List.mem_append.mp member with front | behind
  · obtain ⟨same, inhabited⟩ := Branch.eq_text_of_mem_textNodes front
    cases same
    exact inhabited
  · exact Branch.ne_nil_of_mem_toNodes turned behind

theorem eq_arranged (made : parsed.toNodes = .ok nodes) :
    nodes = parsed.arranged fun index => nodes[parsed.spot index]? := by
  obtain ⟨below, turned, rfl⟩ := toNodes_eq_ok_iff.mp made
  have siblings := Branch.eq_flatten_of_toNodes turned (Branch.textNodes parsed.text)
  exact congrArg (Branch.textNodes parsed.text ++ ·) siblings

/-- The way to a branch that is kept leads through branches that are kept. -/
theorem keeps_cons_iff {index : Nat} {rest : Place} : parsed.Keeps (index :: rest) ↔
    ∃ branch, parsed.branches[index]? = some branch ∧ branch.isKept = true ∧
      (rest = [] ∨ branch.content.Keeps rest) := by
  constructor
  · rintro ⟨found, stands, kept⟩
    by_cases last : rest = []
    · subst last
      rw [Place.at?_singleton] at stands
      exact ⟨found, stands, kept, Or.inl rfl⟩
    · rw [Place.at?_cons_of_ne_nil _ last] at stands
      obtain ⟨branch, root, inside⟩ := Option.bind_eq_some_iff.mp stands
      have rootKept := Branch.isKept_of_children_ne_nil (Place.forest_ne_nil_of_at? _ inside)
      exact ⟨branch, root, rootKept, Or.inr ⟨found, inside, kept⟩⟩
  · rintro ⟨branch, root, kept, rfl | ⟨found, inside, keptInside⟩⟩
    · exact ⟨branch, by rw [Place.at?_singleton, root], kept⟩
    · refine ⟨found, ?_, keptInside⟩
      rw [Place.at?_cons_of_ne_nil _ (Place.ne_nil_of_at? _ inside), root]
      exact inside

/-- That a place is that of a content or of a branch in it that is kept. -/
def OnTheWay (parsed : Parsed) (place : Place) : Prop :=
  place = [] ∨ parsed.Keeps place

theorem onTheWay_cons_iff {index : Nat} {rest : Place} : parsed.OnTheWay (index :: rest) ↔
    ∃ branch, parsed.branches[index]? = some branch ∧ branch.isKept = true ∧
      branch.content.OnTheWay rest := by
  rw [OnTheWay, keeps_cons_iff]
  simp only [reduceCtorEq, false_or, OnTheWay]

theorem ascends_spot : Place.Ascends spot below OnTheWay where
  step := by
    intro parsed index rest onTheWay
    obtain ⟨branch, root, -, within⟩ := onTheWay_cons_iff.mp onTheWay
    rw [below_of_getElem? root]
    exact within
  spots := by
    intro parsed index rest other others onLeft _ before
    obtain ⟨branch, root, kept, -⟩ := onTheWay_cons_iff.mp onLeft
    exact Nat.add_lt_add_left (Branch.offset_lt_offset root kept before) _

/-- What stands at the image of a place is made of the branch at the place. -/
theorem at?_image (place : Place) :
    ∀ {parsed : Parsed} {nodes : List Node}, parsed.toNodes = .ok nodes →
      Place.at? Branch.children parsed.branches place = some branch → branch.isKept = true →
        ∃ node, Place.at? Node.children nodes (parsed.image place) = some node ∧
          branch.Becomes node ∧ branch.content.toNodes = .ok node.children := by
  induction place with
  | nil =>
      intro parsed nodes _ stands
      exact absurd rfl (Place.ne_nil_of_at? _ stands)
  | cons index rest ih =>
      intro parsed nodes made stands kept
      obtain ⟨root, found, rootKept, -⟩ := keeps_cons_iff.mp ⟨branch, stands, kept⟩
      obtain ⟨node, imaged, becomes, inside⟩ := getElem?_spot made found rootKept
      rw [image, Place.lead_cons, below_of_getElem? found]
      by_cases last : rest = []
      · subst last
        rw [Place.at?_singleton, found] at stands
        cases stands
        exact ⟨node, by rw [Place.lead_nil, Place.at?_singleton, imaged], becomes, inside⟩
      · rw [Place.at?_cons_of_ne_nil _ last, found, Option.bind_some] at stands
        have deeper : Place.lead spot below root.content rest ≠ [] :=
          mt (Place.lead_eq_nil_iff spot below).mp last
        rw [Place.at?_cons_of_ne_nil _ deeper, imaged, Option.bind_some]
        exact ih inside stands kept

/-- A node that is no text stands at the image of a place. -/
theorem exists_image_eq (target : Place) :
    ∀ {parsed : Parsed} {nodes : List Node}, parsed.toNodes = .ok nodes →
      Place.at? Node.children nodes target = some node → node.text? = none →
        ∃ place, parsed.Keeps place ∧ parsed.image place = target := by
  induction target with
  | nil =>
      intro parsed nodes _ stands
      exact absurd rfl (Place.ne_nil_of_at? _ stands)
  | cons position rest ih =>
      intro parsed nodes made stands other
      by_cases last : rest = []
      · subst last
        rw [Place.at?_singleton] at stands
        obtain ⟨index, branch, root, kept, placed, -⟩ := exists_spot_eq made stands other
        refine ⟨[index], keeps_cons_iff.mpr ⟨branch, root, kept, Or.inl rfl⟩, ?_⟩
        rw [image, Place.lead_cons, placed, Place.lead_nil]
      · rw [Place.at?_cons_of_ne_nil _ last] at stands
        obtain ⟨above, found, below⟩ := Option.bind_eq_some_iff.mp stands
        have inhabited := Place.forest_ne_nil_of_at? _ below
        obtain ⟨index, branch, root, kept, placed, inside⟩ :=
          exists_spot_eq made found (Node.text?_eq_none_of_children_ne_nil inhabited)
        obtain ⟨place, deeper, imaged⟩ := ih inside below other
        refine ⟨index :: place, keeps_cons_iff.mpr ⟨branch, root, kept, Or.inr deeper⟩, ?_⟩
        rw [image, Place.lead_cons, placed, below_of_getElem? root, ← imaged, image]

theorem foldl_below (place : Place) :
    ∀ {parsed : Parsed}, Place.at? Branch.children parsed.branches place = some branch →
      place.foldl below parsed = branch.content := by
  induction place with
  | nil =>
      intro parsed stands
      exact absurd rfl (Place.ne_nil_of_at? _ stands)
  | cons index rest ih =>
      intro parsed stands
      rw [List.foldl_cons]
      by_cases last : rest = []
      · subst last
        rw [Place.at?_singleton] at stands
        rw [List.foldl_nil, below_of_getElem? stands]
      · rw [Place.at?_cons_of_ne_nil _ last] at stands
        obtain ⟨root, found, inside⟩ := Option.bind_eq_some_iff.mp stands
        rw [below_of_getElem? found]
        exact ih inside

/-- A branch inside another has its image inside the image of that. -/
theorem image_concat {place : Place}
    (stands : Place.at? Branch.children parsed.branches place = some branch) (index : Nat) :
    parsed.image (place ++ [index]) = parsed.image place ++ [branch.content.spot index] := by
  rw [image, Place.lead_concat, foldl_below place stands]

theorem at?_image_concat {place : Place}
    (stands : Place.at? Branch.children parsed.branches place = some branch)
    (imaged : Place.at? Node.children nodes (parsed.image place) = some node) (index : Nat) :
    Place.at? Node.children nodes (parsed.image (place ++ [index])) =
      node.children[branch.content.spot index]? := by
  rw [image_concat stands, Place.at?_concat _ (Place.ne_nil_of_at? _ imaged), imaged,
    Option.bind_some]

theorem keeps_dropLast {place : Place} (keeps : parsed.Keeps place)
    (parent : place.dropLast ≠ []) : parsed.Keeps place.dropLast := by
  obtain ⟨branch, stands, -⟩ := keeps
  have inhabited := Place.ne_nil_of_at? _ stands
  rw [← List.dropLast_append_getLast inhabited, Place.at?_concat _ parent] at stands
  obtain ⟨above, found, inside⟩ := Option.bind_eq_some_iff.mp stands
  exact ⟨above, found, Branch.isKept_of_children_ne_nil
    (List.ne_nil_of_mem (List.mem_of_getElem? inside))⟩

/-- No text is empty, wherever it stands. -/
theorem ne_nil_of_at? (made : parsed.toNodes = .ok nodes) {target : Place} {content : Text}
    (stands : Place.at? Node.children nodes target = some (.text content)) : content ≠ [] := by
  have inhabited := Place.ne_nil_of_at? _ stands
  rw [← List.dropLast_append_getLast inhabited] at stands
  by_cases outermost : target.dropLast = []
  · rw [outermost, List.nil_append, Place.at?_singleton] at stands
    exact ne_nil_of_mem made (List.mem_of_getElem? stands)
  · rw [Place.at?_concat _ outermost] at stands
    obtain ⟨above, found, inside⟩ := Option.bind_eq_some_iff.mp stands
    have member := List.mem_of_getElem? inside
    -- What has a text inside is the image of a branch, and made of the content of that.
    obtain ⟨place, ⟨branch, placed, kept⟩, imaged⟩ := exists_image_eq _ made found
      (Node.text?_eq_none_of_children_ne_nil (List.ne_nil_of_mem member))
    obtain ⟨same, again, -, turned⟩ := at?_image place made placed kept
    rw [imaged, found] at again
    cases again
    exact ne_nil_of_mem turned member

/-- All that a content has is kept by the nodes that are made of it. -/
theorem keepsContent_of_toNodes (made : parsed.toNodes = .ok nodes) :
    KeepsContent parsed nodes parsed.image where
  own := by
    intro place branch stands kept
    obtain ⟨node, imaged, becomes, -⟩ := at?_image place made stands kept
    exact ⟨node, imaged, becomes⟩
  only := fun target node stands other => exists_image_eq target made stands other
  order := fun left right keptLeft keptRight =>
    ascends_spot.lead_lt_iff left parsed right (Or.inr keptLeft) (Or.inr keptRight)
  parent := fun place keeps parent =>
    ⟨keeps_dropLast keeps parent, Place.lead_dropLast spot below place parsed⟩
  depth := fun place => Place.length_lead spot below place parsed
  outermost := eq_arranged made
  inside := by
    intro place branch node stands kept imaged
    obtain ⟨same, again, -, turned⟩ := at?_image place made stands kept
    rw [imaged] at again
    cases again
    simp only [at?_image_concat stands imaged]
    exact eq_arranged turned
  filled := fun target content stands => ne_nil_of_at? made stands
  wording := by
    obtain ⟨below, turned, rfl⟩ := toNodes_eq_ok_iff.mp made
    rw [Node.wording_append, Node.wording_textNodes, Branch.wording_of_toNodes turned]

end Parsed

/-- If all elements may have their names, a content becomes nodes that keep all of it but
instructions and entities: elements and comments in their order and with their parents, and every
text behind the node it followed or, where that is dropped, where it was. By `read_eq`, reading makes
the nodes of whatever it has parsed in this way. -/
theorem exists_keepsContent (parsed : Parsed)
    (named : ∀ tag ∈ Branch.tags parsed.branches, tag.all Branch.isNameChar = true) :
    ∃ nodes image, parsed.toNodes = .ok nodes ∧ KeepsContent parsed nodes image := by
  cases Branch.turns parsed.branches with
  | nodes below _ turned =>
      have made := Parsed.toNodes_eq_ok_iff.mpr ⟨below, turned, rfl⟩
      exact ⟨_, parsed.image, made, Parsed.keepsContent_of_toNodes made⟩
  | fault tag misnamed refused =>
      have bad := List.find?_some misnamed
      rw [named tag (List.mem_of_find?_eq_some misnamed)] at bad
      cases bad

/-- A content with a text in front of an instruction, and with one behind each kind of branch. -/
def mixed : Parsed where
  text := "a".toList
  branches := [.instruction "php".toList "b".toList, .comment "c".toList [],
    .element "aÉ".toList [("id".toList, "d".toList), ("class".toList, "e".toList)] []
      [.entity "nbsp".toList "f".toList, .comment [] "g".toList,
        .element "br".toList [] [] [] []] "h".toList]

def mixedNodes : List Node :=
  [.text "a".toList, .text "b".toList, .comment "c".toList,
    .element "aé".toList [("id".toList, "d".toList), ("class".toList, "e".toList)]
      [.text "f".toList, .comment [], .text "g".toList, .element "br".toList [] []],
    .text "h".toList]

theorem exists_keepsContent_mixed :
    (∀ tag ∈ Branch.tags mixed.branches, tag.all Branch.isNameChar = true) ∧
      mixed.toNodes = .ok mixedNodes ∧ ∃ image, KeepsContent mixed mixedNodes image := by
  have named : ∀ tag ∈ Branch.tags mixed.branches, tag.all Branch.isNameChar = true := by
    simp only [mixed, Branch.tags]
    decide +kernel
  have turned : mixed.toNodes = .ok mixedNodes := by
    cbv
  refine ⟨named, turned, ?_⟩
  obtain ⟨nodes, image, made, keeps⟩ := exists_keepsContent mixed named
  rw [turned] at made
  cases made
  exact ⟨image, keeps⟩

end Markup

end NestedStyles
