import NestedStyles.Proofs.Settings.Typed
import NestedStyles.Stylesheet.Selector

/-!
What stands in front of the braces of a rule. Settings of the expected types give every element a
selector, and the title in a header is the label of the element, its selector or a generic tag.
-/

set_option autoImplicit false

namespace NestedStyles

namespace Selector

theorem exists_textOf {value : Value} (text : value.text?.isSome = true)
    (fault : Value → NamingFault) : ∃ result, textOf fault value = .ok result := by
  obtain ⟨content, given⟩ := Option.isSome_iff_exists.mp text
  exact ⟨content, by rw [textOf, given]⟩

theorem exists_cutBy {length : Value} (whole : length.whole?.isSome = true) (text : Text) :
    ∃ result, cutBy length text = .ok result := by
  cases length with
  | int n => exact ⟨cut n text, rfl⟩
  | bool on => exact ⟨cut (if on then 1 else 0) text, rfl⟩
  | _ => cases whole

/-- What stands in front of the selector of an element. -/
def headerOf (settings : Settings) (subject : Subject) : Text :=
  if settings.printComments.isOn then header subject else []

/-- What a header calls an element. -/
def title (subject : Subject) : Text :=
  if subject.label.isEmpty then subject.tag else subject.label

theorem header_eq (subject : Subject) :
    header subject =
      "/* ".toList ++ title subject ++ " -> ".toList ++ Text.ofInt subject.depth ++ " */".toList :=
  rfl

variable [Romanization]

theorem exists_className {settings : Settings} (typed : settings.WellTyped) (label : Text) :
    ∃ name, className settings label = .ok name := by
  obtain ⟨separator, separates⟩ := exists_textOf typed.naming.separator .separator
  obtain ⟨opening, opens⟩ := exists_textOf typed.naming.opening .opening
  obtain ⟨ending, ends⟩ := exists_textOf typed.naming.ending .ending
  obtain ⟨name, cuts⟩ := exists_cutBy typed.maxNameLength
    (opening ++ Slug.ofText settings.naming.lowercase.isOn separator label)
  refine ⟨name ++ ending, ?_⟩
  simp only [className, separates, opens, ends, cuts, bind, Except.bind]
  rfl

/-- Under settings of the expected types every element has a selector. -/
theorem exists_ofSubject {settings : Settings} (typed : settings.WellTyped) (number : Int)
    (subject : Subject) : ∃ selector, ofSubject settings number subject = .ok selector := by
  rw [ofSubject]
  split
  · obtain ⟨name, named⟩ := exists_className typed subject.label
    rw [named]
    exact ⟨'.' :: name, rfl⟩
  · split
    · exact ⟨_, rfl⟩
    · exact ⟨_, rfl⟩

/-- The title of an element without a label is generic or the selector of the element. -/
theorem tag_mem_or_eq {settings : Settings} {number : Int} {subject : Subject} {selector : Text}
    (unlabelled : subject.label.isEmpty = true)
    (selected : ofSubject settings number subject = .ok selector) :
    subject.tag ∈ genericTags ∨ subject.tag = selector := by
  rw [ofSubject, unlabelled] at selected
  by_cases generic : genericTags.contains subject.tag = true
  · exact Or.inl (List.contains_iff_mem.mp generic)
  · rw [if_neg generic] at selected
    cases selected
    exact Or.inr rfl

theorem headed_of_ofSubject {settings : Settings} {number : Int} {subject : Subject}
    {selector : Text} (selected : ofSubject settings number subject = .ok selector) :
    headed settings number subject = .ok (headerOf settings subject ++ selector) := by
  rw [headed, selected]
  rfl

end Selector

end NestedStyles
