import NestedStyles.CommandLine.Romanized
import NestedStyles.Proofs.Stylesheet.Heading
import NestedStyles.Proofs.Stylesheet.Slugs

/-!
When the selector made from a label is one. It is always a dot with characters for class names behind it,
but there may be none, and they may begin with a digit. Of the label only the first letter or digit that
it spells counts for that.
-/

set_option autoImplicit false

namespace NestedStyles

namespace Selector

def isNameChar (c : Char) : Bool :=
  c.isAlphanum || c == '-' || c == '_'

/-- A class name that a selector may have: not empty, and with no digit in front, nor behind a hyphen in
front. -/
structure IsName (name : Text) : Prop where
  filled : name ≠ []
  plain : ∀ c ∈ name, isNameChar c = true
  starts : ∀ c rest, name = c :: rest → c.isDigit = false
  signed : ∀ c rest, name = '-' :: c :: rest → c.isDigit = false

def startsName : Text → Bool
  | [] => false
  | c :: rest => !c.isDigit && !(c == '-' && rest.head?.any Char.isDigit)

theorem isName_iff (name : Text) :
    IsName name ↔ (∀ c ∈ name, isNameChar c = true) ∧ startsName name = true := by
  constructor
  · rintro ⟨filled, plain, starts, signed⟩
    refine ⟨plain, ?_⟩
    obtain ⟨c, rest, rfl⟩ := List.exists_cons_of_ne_nil filled
    have behind : (c == '-' && rest.head?.any Char.isDigit) = false := by
      rw [Bool.and_eq_false_imp]
      intro hyphen
      rw [beq_iff_eq.mp hyphen] at signed
      cases rest with
      | nil => rfl
      | cons d more => exact signed d more rfl
    rw [startsName, starts c rest rfl, behind]
    rfl
  · rintro ⟨plain, start⟩
    cases name with
    | nil => cases start
    | cons c rest =>
        rw [startsName, Bool.and_eq_true, Bool.not_eq_true', Bool.not_eq_true'] at start
        refine ⟨List.cons_ne_nil _ _, plain, ?_, ?_⟩
        · rintro d more ⟨⟩
          exact start.1
        · rintro d more ⟨⟩
          exact start.2

instance (name : Text) : Decidable (IsName name) :=
  decidable_of_iff (name.all isNameChar = true ∧ startsName name = true) (by
    rw [isName_iff, List.all_eq_true])

theorem startsName_cons_of_ne {c : Char} (other : c ≠ '-') (rest : Text) :
    startsName (c :: rest) = !c.isDigit := by
  rw [startsName, beq_false_of_ne other, Bool.false_and, Bool.not_false, Bool.and_true]

/-- No more than two characters count for the start of a name, and the second only behind a hyphen. So
of what follows an opening only the first character counts, if that is no hyphen. -/
theorem startsName_take {opening slug : Text} (solid : ∀ c ∈ slug.head?, c ≠ '-') (length : Nat)
    (ending : Text) :
    startsName ((opening ++ slug).take (length + 1) ++ ending) =
      startsName ((opening ++ slug.head?.toList).take (length + 1) ++ ending) := by
  cases slug with
  | nil => rfl
  | cons c rest =>
      rcases opening with _ | ⟨first, _ | ⟨second, more⟩⟩
      · have other : c ≠ '-' := solid c rfl
        exact (startsName_cons_of_ne other _).trans (startsName_cons_of_ne other _).symm
      · cases length <;> rfl
      · cases length <;> rfl

/-- Settings under which labels become class names, with an opening and an ending of characters for class
names. -/
structure NamesPlainly (settings : Settings) (opening ending : Text) (length : Int) : Prop where
  on : settings.namesFromComments.isOn = true
  cuts : settings.maxNameLength.whole? = some length
  positive : 1 ≤ length
  separates : settings.naming.separator = .text ['-'] ∨ settings.naming.separator = .text ['_']
  opens : settings.naming.opening = .text opening
  ends : settings.naming.ending = .text ending
  plainOpening : ∀ c ∈ opening, isNameChar c = true
  plainEnding : ∀ c ∈ ending, isNameChar c = true

theorem cutBy_of_whole? {value : Value} {length : Int} (whole : value.whole? = some length)
    (positive : 1 ≤ length) (text : Text) :
    cutBy value text = .ok (text.take (length.toNat - 1 + 1)) := by
  have cuts : cut length text = text.take (length.toNat - 1 + 1) := by
    have same : length.toNat - 1 + 1 = length.toNat := by omega
    rw [cut, if_pos (by omega), same]
  cases value with
  | int n =>
      cases whole
      exact congrArg Except.ok cuts
  | bool on =>
      cases whole
      exact congrArg Except.ok cuts
  | _ => cases whole

theorem isNameChar_of_isAllowed {c : Char} (allowed : Slug.isAllowed c = true) :
    isNameChar c = true := by
  rw [Slug.isAllowed] at allowed
  rw [isNameChar, allowed, Bool.true_or]

section Naming

variable [Romanization] {separator : Text} (lowercase : Bool) (label : Text)

theorem isNameChar_of_mem_ofText (separates : separator = ['-'] ∨ separator = ['_']) :
    ∀ c ∈ Slug.ofText lowercase separator label, isNameChar c = true := by
  intro c member
  rcases separates with rfl | rfl
  · exact isNameChar_of_isAllowed (Slug.isAllowed_of_mem_hyphenated member)
  · rw [Slug.ofText, if_neg (by decide), Text.replace_singleton, List.mem_map] at member
    obtain ⟨d, within, rfl⟩ := member
    split
    · rfl
    · exact isNameChar_of_isAllowed (Slug.isAllowed_of_mem_hyphenated within)

theorem ne_hyphen_of_mem_initial? {c : Char} (first : c ∈ Slug.initial? lowercase label) :
    c ≠ '-' := by
  rintro rfl
  cases List.find?_some first

/-- With either separator the slug begins with a letter or a digit of the label. -/
theorem head?_ofText (separates : separator = ['-'] ∨ separator = ['_']) :
    (Slug.ofText lowercase separator label).head? = Slug.initial? lowercase label := by
  rcases separates with rfl | rfl
  · exact Slug.head?_hyphenated lowercase label
  · rw [Slug.ofText, if_neg (by decide), Text.replace_singleton, List.head?_map,
      Slug.head?_hyphenated]
    cases initial : Slug.initial? lowercase label with
    | none => rfl
    | some c => rw [Option.map_some, if_neg (ne_hyphen_of_mem_initial? lowercase label initial)]

/-- The name that a label gives: opening and slug, cut, and the ending behind them. -/
theorem className_of_namesPlainly {settings : Settings} {opening ending : Text} {length : Int}
    (plainly : NamesPlainly settings opening ending length) (label : Text) :
    ∃ separator, (separator = ['-'] ∨ separator = ['_']) ∧
      className settings label = .ok
        ((opening ++ Slug.ofText settings.naming.lowercase.isOn separator label).take
          (length.toNat - 1 + 1) ++ ending) := by
  obtain ⟨-, cuts, positive, separates, opens, ends, -, -⟩ := plainly
  rcases separates with hyphen | underscore
  · refine ⟨['-'], Or.inl rfl, ?_⟩
    rw [className, hyphen, opens, ends]
    simp only [textOf, Value.text?, cutBy_of_whole? cuts positive, bind, Except.bind]
    rfl
  · refine ⟨['_'], Or.inr rfl, ?_⟩
    rw [className, underscore, opens, ends]
    simp only [textOf, Value.text?, cutBy_of_whole? cuts positive, bind, Except.bind]
    rfl

/-- A labelled element gets a dot and characters for class names, and these are a class name exactly if
the opening, the first letter or digit that the label spells, and the ending are. It is so however texts
are spelled in ASCII. -/
theorem ofSubject_labelled {settings : Settings} {opening ending : Text} {length : Int}
    (plainly : NamesPlainly settings opening ending length) {subject : Subject}
    (labelled : subject.label ≠ []) (number : Int) :
    ∃ name, ofSubject settings number subject = .ok ('.' :: name) ∧
      (∀ c ∈ name, isNameChar c = true) ∧
      (IsName name ↔ IsName ((opening ++
        (Slug.initial? settings.naming.lowercase.isOn subject.label).toList).take length.toNat ++
          ending)) := by
  obtain ⟨separator, separates, named⟩ := className_of_namesPlainly plainly subject.label
  have initial := head?_ofText settings.naming.lowercase.isOn subject.label separates
  have slugged := isNameChar_of_mem_ofText settings.naming.lowercase.isOn subject.label separates
  generalize Slug.ofText settings.naming.lowercase.isOn separator subject.label = slug
    at initial slugged named
  have solid : ∀ c ∈ slug.head?, c ≠ '-' := by
    intro c first
    rw [initial] at first
    exact ne_hyphen_of_mem_initial? _ _ first
  have count : length.toNat - 1 + 1 = length.toNat := by
    have positive := plainly.positive
    omega
  -- Whatever of the slug stays, the name has only characters of its three parts.
  have plain : ∀ more : Text, (∀ c ∈ more, isNameChar c = true) →
      ∀ c ∈ (opening ++ more).take (length.toNat - 1 + 1) ++ ending, isNameChar c = true := by
    intro more good c member
    rcases List.mem_append.mp member with front | back
    · rcases List.mem_append.mp (List.mem_of_mem_take front) with first | second
      · exact plainly.plainOpening c first
      · exact good c second
    · exact plainly.plainEnding c back
  have first : ∀ c ∈ slug.head?.toList, isNameChar c = true :=
    fun c member => slugged c (List.mem_of_mem_head? (Option.mem_toList.mp member))
  have unlabelled : (!subject.label.isEmpty && settings.namesFromComments.isOn) = true := by
    rw [plainly.on, Bool.and_true, Bool.not_eq_true', List.isEmpty_eq_false_iff]
    exact labelled
  refine ⟨_, ?_, plain slug slugged, ?_⟩
  · rw [ofSubject, if_pos unlabelled, named]
    rfl
  · rw [← initial, ← count, isName_iff, isName_iff, startsName_take solid]
    exact and_congr_left fun _ => ⟨fun _ => plain _ first, fun _ => plain slug slugged⟩

end Naming

/-- Settings that name elements by their labels, the rest as it is by default. -/
def labelling : Settings :=
  { namesFromComments := .bool true }

/-- A box behind a comment that is a line of equals signs. -/
def ruled : Subject where
  tag := "div".toList
  label := "=====".toList

theorem ofSubject_labelled_ruled :
    ∃ name, ofSubject labelling 0 ruled = .ok ('.' :: name) ∧ ¬ IsName name := by
  have plainly : NamesPlainly labelling [] [] 50 :=
    ⟨rfl, rfl, by decide, Or.inl rfl, rfl, rfl, List.forall_mem_nil _, List.forall_mem_nil _⟩
  have labelled : ruled.label ≠ [] := by decide
  obtain ⟨name, selected, -, proper⟩ := ofSubject_labelled plainly labelled 0
  exact ⟨name, selected, mt proper.mp (by decide)⟩

end Selector

end NestedStyles
