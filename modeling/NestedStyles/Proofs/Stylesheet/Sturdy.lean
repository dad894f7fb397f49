import NestedStyles.Proofs.Stylesheet.Tidying

/-!
Class lists that outlast being laid out: whatever blanks are written in them, tidying the statement brings
the list back. A class breaks where blanks may come between two of its characters, unless a colon stands
there, and two classes join where the blanks between them may be lost.
-/

set_option autoImplicit false

namespace NestedStyles

open Text Weave

namespace Apply

/-- Whether a character may stand in a class, given what follows it: it does not end the statement and
begins no line comment. -/
def staysInClass (c : Char) (ahead : Text) : Bool :=
  !isBlank c && !endsStatement c && !(c == '/' && ahead.head? == some '/')

/-- Whether a space keeps two classes apart, given the text before it in reverse and that behind it. -/
def keepsApart (before ahead : Text) : Bool :=
  holdsBehind before && ahead.head?.any fun c => !isBlank c && holdsBefore c

/-- Whether a character follows the one before it without a break that tidying does not mend. -/
def staysJoined (before : Text) (c : Char) (ahead : Text) : Bool :=
  before.head? == some ' ' || before.head? == some ':' ||
    tightBehind before && tightBefore before c ahead

/-- Whether the rest of a class list outlasts being laid out, given the text before it in reverse. -/
def sturdyFrom : Text → Text → Bool
  | _, [] => true
  | before, c :: rest =>
    (if c == ' ' then keepsApart before rest
      else staysInClass c rest && staysJoined before c (rest ++ [';'])) && sturdyFrom (c :: before) rest

/-- Whether a class list outlasts being laid out. -/
def sturdy (classes : Text) : Bool :=
  sturdyFrom keyword.reverse (' ' :: classes)

theorem staysInClass_iff (c : Char) (ahead : Text) : staysInClass c ahead = true ↔
    isBlank c = false ∧ endsStatement c = false ∧ ¬ (c = '/' ∧ ahead.head? = some '/') := by
  simp [staysInClass, and_assoc, not_and_or, -not_and]

/-- A space is followed by a character that keeps it, and any other character stays where it is. -/
theorem sturdyFrom_cons {before rest : Text} {c : Char} (strong : sturdyFrom before (c :: rest) = true) :
    sturdyFrom (c :: before) rest = true ∧
      (c = ' ' ∧ keepsApart before rest = true ∨
        staysInClass c rest = true ∧ staysJoined before c (rest ++ [';']) = true) := by
  rw [sturdyFrom, Bool.and_eq_true] at strong
  refine ⟨strong.2, ?_⟩
  by_cases space : c = ' '
  · subst space
    exact Or.inl ⟨rfl, strong.1⟩
  · have other := strong.1
    rw [beq_eq_false_iff_ne.mpr space, if_neg Bool.false_ne_true, Bool.and_eq_true] at other
    exact Or.inr other

/-- Nothing in a class list ends the statement. -/
theorem endsStatement_of_sturdyFrom {before classes : Text}
    (strong : sturdyFrom before classes = true) : ∀ c ∈ classes, endsStatement c = false := by
  induction classes generalizing before with
  | nil => exact fun c member => absurd member List.not_mem_nil
  | cons c rest ih =>
      obtain ⟨behind, here⟩ := sturdyFrom_cons strong
      intro d member
      rcases List.mem_cons.mp member with rfl | member
      · rcases here with ⟨rfl, -⟩ | ⟨stays, -⟩
        · rfl
        · exact ((staysInClass_iff _ _).mp stays).2.1
      · exact ih behind d member

/-- No line comment begins in a class list. -/
theorem not_comment_infix_of_sturdyFrom {before classes : Text}
    (strong : sturdyFrom before classes = true) : ¬ ['/', '/'] <:+: classes := by
  induction classes generalizing before with
  | nil => simp
  | cons c rest ih =>
      obtain ⟨behind, here⟩ := sturdyFrom_cons strong
      rw [List.infix_cons_iff]
      rintro (⟨more, starts⟩ | inner)
      · obtain ⟨rfl, rfl⟩ := List.cons.inj starts
        rcases here with ⟨space, -⟩ | ⟨stays, -⟩
        · cases space
        · exact ((staysInClass_iff _ _).mp stays).2.2 ⟨rfl, rfl⟩
      · exact ih behind inner

section Woven

variable {stitch : Stitch} {rest : List Stitch} {c : Char} {more : Text}

theorem tightBefore_append (before : Text) (c : Char) (front : Text) {d : Char} (ahead : Text) :
    tightBefore before c (front ++ d :: ahead) = tightBefore before c (front ++ [d]) := by
  cases front <;> rfl

theorem not_holdsBehind_colon {before : Text} (last : before.head? = some ':') :
    ¬ holdsBehind before = true := by
  obtain ⟨rest, rfl⟩ := List.head?_eq_some_iff.mp last
  exact Bool.false_ne_true

theorem eq_nil_of_source {stitches : List Stitch} (empty : source stitches = []) : stitches = [] := by
  cases stitches with
  | nil => rfl
  | cons stitch rest =>
      rw [source_cons] at empty
      simp at empty

/-- A character that is kept apart stands behind a single space. -/
theorem exists_of_keepsApart {before gap : Text} (apart : keepsApart before more = true)
    (blank : Blank gap) (reads : gap ++ c :: source rest = more ++ [';']) :
    gap = [] ∧ holdsBehind before = true ∧ holdsBefore c = true ∧
      ∃ others, more = c :: others ∧ source rest = others ++ [';'] := by
  rw [keepsApart, Bool.and_eq_true] at apart
  obtain ⟨holds, ahead⟩ := apart
  cases more with
  | nil => cases ahead
  | cons d others =>
      have ahead : (!isBlank d && holdsBefore d) = true := ahead
      rw [Bool.and_eq_true, Bool.not_eq_true'] at ahead
      cases gap with
      | nil =>
          obtain ⟨rfl, further⟩ := List.cons.inj reads
          exact ⟨rfl, holds, ahead.2, others, rfl, further⟩
      | cons b gap =>
          obtain ⟨rfl, -⟩ := List.cons.inj reads
          rw [blank b List.mem_cons_self] at ahead
          cases ahead.1

/-- A character that stays joined to the one before it is loosened from itself, or mended. -/
theorem loose_of_staysJoined {before ahead : Text} {behind : Char}
    (fits : Fits before stitch (source rest ++ ahead)) (gap : stitch.read = [])
    (last : before.head? = some behind) (solid : behind ≠ ' ') (reads : source rest = more ++ [';'])
    (joined : staysJoined before stitch.char (more ++ [';']) = true) : Loose behind stitch := by
  refine ⟨fits.written, fits.solid, Or.inr ⟨gap, ?_⟩⟩
  rw [staysJoined, last, Bool.or_eq_true, Bool.or_eq_true, Bool.and_eq_true, beq_iff_eq,
    beq_iff_eq] at joined
  rcases joined with (space | colon) | ⟨tight, alone⟩
  · exact absurd (Option.some.inj space) solid
  · exact Or.inr (Or.inl (Option.some.inj colon))
  · refine Or.inl (fits.joins gap tight ?_)
    rw [reads, List.append_assoc, List.singleton_append, tightBefore_append]
    exact alone

/-- A space that keeps two classes apart is brought back. -/
theorem loose_of_space {before ahead : Text} {behind : Char}
    (fits : Fits before stitch (source rest ++ ahead)) (space : stitch.read = [' '])
    (last : before.head? = some behind) (behindHolds : holdsBehind before = true)
    (holds : holdsBefore stitch.char = true) (stays : staysInClass stitch.char more = true) :
    Loose behind stitch := by
  refine ⟨fits.written, fits.solid, Or.inl ⟨space, ?_, ?_, ?_⟩⟩
  · exact fits.keeps (space ▸ List.cons_ne_nil _ _) behindHolds holds
  · rintro rfl
    exact not_holdsBehind_colon last behindHolds
  · intro ends
    have closed := ((staysInClass_iff _ _).mp stays).2.1
    rw [ends] at closed
    cases closed

/-- What laying out may do to a sturdy class list, tidying undoes. -/
theorem loosened_of_woven {stitches : List Stitch} :
    ∀ {before classes ahead : Text} {behind : Char}, sturdyFrom before classes = true →
      before.head? = some behind → behind ≠ ' ' → Woven before stitches ahead →
        source stitches = classes ++ [';'] → Loosened behind stitches := by
  induction stitches with
  | nil => exact fun _ _ _ _ _ => trivial
  | cons stitch rest ih =>
      intro before classes ahead behind strong last solidBehind woven reads
      obtain ⟨fits, woven⟩ := woven
      have solid : stitch.char ≠ ' ' := by
        intro space
        have solid := fits.solid
        rw [space] at solid
        cases solid
      rw [source_cons] at reads
      cases gap : stitch.read with
      | nil =>
          rw [gap] at reads woven
          cases classes with
          | nil =>
              obtain ⟨ends, empty⟩ := List.cons.inj reads
              rw [eq_nil_of_source empty]
              exact ⟨⟨fits.written, fits.solid, Or.inr ⟨gap, Or.inr (Or.inr ends)⟩⟩, trivial⟩
          | cons c others =>
              obtain ⟨rfl, further⟩ := List.cons.inj reads
              obtain ⟨strong, ⟨space, -⟩ | ⟨-, joined⟩⟩ := sturdyFrom_cons strong
              · exact absurd space solid
              exact ⟨loose_of_staysJoined fits gap last solidBehind further joined,
                ih strong rfl solid woven further⟩
      | cons b blanks =>
          have blank := fits.read
          rw [gap] at reads woven blank
          cases classes with
          | nil =>
              obtain ⟨rfl, -⟩ := List.cons.inj reads
              have clear := blank ';' List.mem_cons_self
              cases clear
          | cons c others =>
              obtain ⟨rfl, further⟩ := List.cons.inj reads
              obtain ⟨strong, ⟨rfl, apart⟩ | ⟨stays, -⟩⟩ := sturdyFrom_cons strong
              · obtain ⟨rfl, behindHolds, holds, classes, rfl, others⟩ :=
                  exists_of_keepsApart apart (fun d member => blank d (List.mem_cons_of_mem _ member))
                    further
                obtain ⟨strong, ⟨space, -⟩ | ⟨stays, -⟩⟩ := sturdyFrom_cons strong
                · exact absurd space solid
                exact ⟨loose_of_space fits gap last behindHolds holds stays,
                  ih strong rfl solid woven others⟩
              · have clear := ((staysInClass_iff _ _).mp stays).1
                rw [blank b List.mem_cons_self] at clear
                cases clear

end Woven

section Far

variable {before : Text}

theorem holdsBehind_append (nonempty : before ≠ []) (far : Text) :
    holdsBehind (before ++ far) = holdsBehind before := by
  cases before with
  | nil => exact absurd rfl nonempty
  | cons c before => rfl

theorem tightBehind_append (long : 2 ≤ before.length) (far : Text) :
    tightBehind (before ++ far) = tightBehind before := by
  match before, long with
  | c :: d :: before, _ =>
      by_cases comment : c = '/' ∧ d = '*'
      · obtain ⟨rfl, rfl⟩ := comment
        rfl
      · have other {rest : Text} : tightBehind (c :: d :: rest) =
            !";:,\x7b\x7d\"'".toList.contains c := by
          rw [tightBehind]
          rintro more rfl same
          exact comment ⟨rfl, (List.cons.inj same).1⟩
        rw [List.cons_append, List.cons_append, other, other]

theorem tightBefore_far (long : 4 ≤ before.length) (far : Text) (c : Char) (ahead : Text) :
    tightBefore (before ++ far) c ahead = tightBefore before c ahead := by
  rw [tightBefore, tightBefore, List.take_append_of_le_length long]

/-- Only the last few characters before a class list count. -/
theorem sturdyFrom_append (classes far : Text) (long : 4 ≤ before.length) :
    sturdyFrom (before ++ far) classes = sturdyFrom before classes := by
  induction classes generalizing before with
  | nil => rfl
  | cons c rest ih =>
      have nonempty : before ≠ [] := List.ne_nil_of_length_pos (by omega)
      have longer : 4 ≤ (c :: before).length := by
        rw [List.length_cons]
        omega
      have behind := ih longer
      rw [List.cons_append] at behind
      rw [sturdyFrom, sturdyFrom, keepsApart, keepsApart, staysJoined, staysJoined,
        holdsBehind_append nonempty, tightBehind_append (by omega), tightBefore_far long,
        List.head?_append_of_ne_nil _ nonempty, behind]

end Far

/-- The keyword does not break. -/
theorem sturdyFrom_statement {classes : Text} (strong : sturdy classes = true) (far : Text) :
    sturdyFrom ('@' :: far) ("apply".toList ++ ' ' :: classes) = true := by
  have behind : sturdyFrom ("ylppa@".toList ++ far) (' ' :: classes) = true := by
    rw [sturdyFrom_append _ _ (by decide)]
    exact strong
  exact behind

end Apply

end NestedStyles
