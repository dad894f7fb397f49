import NestedStyles.Proofs.Text.Words

/-!
Comments that are cleaned of their own marks. The marks are removed in one pass, and what stood on the two
sides of one may make another. So a cleaned comment is free of marks, and stays as it is when it is cleaned
again, exactly if that one pass left none; and only a mark that is wedged between characters of marks can
leave one.
-/

set_option autoImplicit false

namespace NestedStyles

namespace Text

def commentMarks : List Text := ["<!--".toList, "-->".toList]

def markChars : Text := "<!->".toList

/-- A text with the mark of a comment in it. -/
def Marked (text : Text) : Prop :=
  ∃ mark ∈ commentMarks, mark <:+: text

/-- A text with a mark in it that stands directly between two characters of marks. -/
def Wedged (text : Text) : Prop :=
  ∃ front c mark d back, text = front ++ c :: (mark ++ d :: back) ∧ mark ∈ commentMarks ∧
    c ∈ markChars ∧ d ∈ markChars

instance (text : Text) : Decidable (Marked text) :=
  inferInstanceAs (Decidable (∃ mark ∈ commentMarks, mark <:+: text))

section Marks

variable {mark text : Text}

theorem solid_of_mem_commentMarks : ∀ mark ∈ commentMarks, Solid mark ∧ mark ≠ [] := by
  have all : (commentMarks.all fun mark => mark.all (fun c => !isBlank c) && !mark.isEmpty) =
      true := by decide
  intro mark member
  simpa [Solid] using List.all_eq_true.mp all mark member

theorem markChars_of_mem_commentMarks : ∀ mark ∈ commentMarks, mark ⊆ markChars := by
  decide

theorem withoutCommentMarks_append (member : mark ∈ commentMarks) (rest : Text) :
    withoutCommentMarks (mark ++ rest) = withoutCommentMarks rest := by
  simp only [commentMarks, List.mem_cons, List.not_mem_nil, or_false] at member
  rcases member with rfl | rfl
  · exact withoutCommentMarks.eq_1 rest
  · exact withoutCommentMarks.eq_2 rest

theorem withoutCommentMarks_cons {c : Char} {rest : Text}
    (plain : ∀ mark ∈ commentMarks, ¬ mark <+: c :: rest) :
    withoutCommentMarks (c :: rest) = c :: withoutCommentMarks rest := by
  refine withoutCommentMarks.eq_3 c rest ?_ ?_
  · rintro back rfl rfl
    exact plain "<!--".toList List.mem_cons_self ⟨back, rfl⟩
  · rintro back rfl rfl
    exact plain "-->".toList (List.mem_cons_of_mem _ List.mem_cons_self) ⟨back, rfl⟩

/-- Along a text as its marks are removed: from behind a mark, and from behind a character where no mark
stands. -/
theorem commentMarks_induction {motive : Text → Prop} (nil : motive [])
    (mark : ∀ mark ∈ commentMarks, ∀ rest, motive rest → motive (mark ++ rest))
    (other : ∀ c rest, (∀ mark ∈ commentMarks, ¬ mark <+: c :: rest) → motive rest →
      motive (c :: rest)) (text : Text) : motive text := by
  induction text using withoutCommentMarks.induct with
  | case1 rest ih => exact mark "<!--".toList List.mem_cons_self rest ih
  | case2 rest ih =>
      exact mark "-->".toList (List.mem_cons_of_mem _ List.mem_cons_self) rest ih
  | case3 c rest notOpening notClosing ih =>
      refine other c rest ?_ ih
      simp only [commentMarks, List.forall_mem_cons]
      refine ⟨?_, ?_, fun mark member => absurd member List.not_mem_nil⟩
      · rintro ⟨back, same⟩
        obtain ⟨rfl, rfl⟩ := List.cons.inj same
        exact notOpening back rfl rfl
      · rintro ⟨back, same⟩
        obtain ⟨rfl, rfl⟩ := List.cons.inj same
        exact notClosing back rfl rfl
  | case4 => exact nil

theorem marked_cons_iff {c : Char} {rest : Text} :
    Marked (c :: rest) ↔ (∃ mark ∈ commentMarks, mark <+: c :: rest) ∨ Marked rest := by
  simp only [Marked, List.infix_cons_iff, and_or_left, exists_or]

theorem not_marked_nil : ¬ Marked [] := by
  decide

/-- A text without marks stays. -/
theorem withoutCommentMarks_eq_self (free : ¬ Marked text) : withoutCommentMarks text = text := by
  induction text using commentMarks_induction with
  | nil => rfl
  | mark mark member rest ih => exact absurd ⟨mark, member, (List.prefix_append _ _).isInfix⟩ free
  | other c rest plain ih =>
      rw [withoutCommentMarks_cons plain, ih fun inside => free (marked_cons_iff.mpr (.inr inside))]

/-- Removing marks makes no text longer, and a text with marks shorter. -/
theorem length_withoutCommentMarks (text : Text) :
    (withoutCommentMarks text).length ≤ text.length ∧
      (Marked text → (withoutCommentMarks text).length < text.length) := by
  induction text using commentMarks_induction with
  | nil => exact ⟨le_rfl, fun marked => absurd marked not_marked_nil⟩
  | mark mark member rest ih =>
      have filled := List.length_pos_of_ne_nil (solid_of_mem_commentMarks mark member).2
      rw [withoutCommentMarks_append member, List.length_append]
      exact ⟨by omega, fun _ => by omega⟩
  | other c rest plain ih =>
      rw [withoutCommentMarks_cons plain, List.length_cons, List.length_cons, marked_cons_iff]
      refine ⟨Nat.succ_le_succ ih.1, ?_⟩
      rintro (⟨mark, member, here⟩ | inside)
      · exact absurd here (plain mark member)
      · exact Nat.succ_lt_succ (ih.2 inside)

end Marks

section Wedges

variable {text : Text}

theorem Wedged.append {back : Text} (wedged : Wedged back) (front : Text) :
    Wedged (front ++ back) := by
  obtain ⟨before, c, mark, d, behind, rfl, rest⟩ := wedged
  exact ⟨front ++ before, c, mark, d, behind, (List.append_assoc _ _ _).symm, rest⟩

/-- What begins with a character of marks once marks are removed did so before. -/
theorem markChars_of_mem_head? {d : Char} (first : d ∈ (withoutCommentMarks text).head?)
    (among : d ∈ markChars) : ∃ e ∈ text.head?, e ∈ markChars := by
  induction text using commentMarks_induction with
  | nil => cases first
  | mark mark member rest ih =>
      obtain ⟨c, others, rfl⟩ :=
        List.exists_cons_of_ne_nil (solid_of_mem_commentMarks mark member).2
      exact ⟨c, rfl, markChars_of_mem_commentMarks _ member List.mem_cons_self⟩
  | other c rest plain ih =>
      rw [withoutCommentMarks_cons plain] at first
      cases first
      exact ⟨d, rfl, among⟩

/-- Behind a character of marks, more of them follow once marks are removed only if they did before, or if
one of the removed marks was wedged between them. -/
theorem prefix_or_wedged (text : Text) : ∀ part c, part ⊆ markChars → c ∈ markChars →
    part <+: withoutCommentMarks text → part <+: text ∨ Wedged (c :: text) := by
  induction text using commentMarks_induction with
  | nil => exact fun part c _ _ front => .inl front
  | mark mark member rest ih =>
      intro part c within among front
      rw [withoutCommentMarks_append member] at front
      cases part with
      | nil => exact .inl List.nil_prefix
      | cons d part =>
          have first : d ∈ (withoutCommentMarks rest).head? := by
            obtain ⟨others, same⟩ := front
            rw [← same]
            rfl
          -- The mark that is removed here stands between the character in front and this one.
          obtain ⟨e, begins, amongToo⟩ := markChars_of_mem_head? first (within List.mem_cons_self)
          obtain ⟨back, rfl⟩ := List.head?_eq_some_iff.mp begins
          exact .inr ⟨[], c, mark, e, back, rfl, member, among, amongToo⟩
  | other x rest plain ih =>
      intro part c within among front
      rw [withoutCommentMarks_cons plain] at front
      cases part with
      | nil => exact .inl List.nil_prefix
      | cons d part =>
          obtain ⟨rfl, behind⟩ := List.cons_prefix_cons.mp front
          obtain ⟨here, within⟩ := List.cons_subset.mp within
          rcases ih part d within here behind with stays | wedged
          · exact .inl (List.cons_prefix_cons.mpr ⟨rfl, stays⟩)
          · exact .inr (wedged.append [c])

/-- A mark is left only where a removed one was wedged between its characters. -/
theorem wedged_of_marked (marked : Marked (withoutCommentMarks text)) : Wedged text := by
  induction text using commentMarks_induction with
  | nil => exact absurd marked not_marked_nil
  | mark mark member rest ih =>
      rw [withoutCommentMarks_append member] at marked
      exact (ih marked).append mark
  | other c rest plain ih =>
      rw [withoutCommentMarks_cons plain, marked_cons_iff] at marked
      rcases marked with ⟨mark, member, front⟩ | inside
      · obtain ⟨d, part, rfl⟩ :=
          List.exists_cons_of_ne_nil (solid_of_mem_commentMarks mark member).2
        obtain ⟨rfl, behind⟩ := List.cons_prefix_cons.mp front
        obtain ⟨here, within⟩ := List.cons_subset.mp (markChars_of_mem_commentMarks _ member)
        rcases prefix_or_wedged rest part d within here behind with stays | wedged
        · exact absurd (List.cons_prefix_cons.mpr ⟨rfl, stays⟩) (plain _ member)
        · exact wedged
      · exact (ih inside).append [c]

end Wedges

section Cleaning

variable {text cleaned : Text}

/-- Cleaning neither makes nor parts a mark. -/
theorem marked_clean?_iff (result : clean? text = some cleaned) : Marked cleaned ↔ Marked text := by
  refine exists_congr fun mark => and_congr_right fun member => ?_
  obtain ⟨solid, filled⟩ := solid_of_mem_commentMarks mark member
  exact infix_clean?_iff solid filled result

theorem length_squeezeFrom_le (test : Char → Bool) (mark : Char) (text : Text) :
    ∀ after, (squeezeFrom test mark after text).length ≤ text.length := by
  induction text with
  | nil => exact fun _ => le_rfl
  | cons c rest ih =>
      intro after
      rw [squeezeFrom]
      split
      · split
        · exact (ih true).trans (Nat.le_succ _)
        · exact Nat.succ_le_succ (ih true)
      · exact Nat.succ_le_succ (ih false)

theorem length_clean?_le (result : clean? text = some cleaned) : cleaned.length ≤ text.length := by
  have trimmed := trim_infix isBlank (collapse text)
  rw [← trim_of_clean? result]
  exact trimmed.length_le.trans (length_squeezeFrom_le isBlank ' ' text false)

/-- A cleaned comment holds a mark exactly if one is left once the marks were removed, and this can only
be where a mark was wedged. If it holds one, it does not stay as it is when it is cleaned again. -/
theorem cleanComment?_marked_iff (result : cleanComment? text = some cleaned) :
    (Marked cleaned ↔ Marked (withoutCommentMarks text)) ∧ (Marked cleaned → Wedged text) ∧
      (cleanComment? cleaned = some cleaned ↔ ¬ Marked cleaned) := by
  have same := marked_clean?_iff result
  refine ⟨same, fun marked => wedged_of_marked (same.mp marked), ?_⟩
  constructor
  · intro stays marked
    have shorter := (length_withoutCommentMarks cleaned).2 marked
    exact absurd (length_clean?_le stays) (Nat.not_le.mpr shorter)
  · intro free
    rw [cleanComment?, withoutCommentMarks_eq_self free]
    exact clean?_of_tidy (tidy_of_clean? result)

/-- A comment with an opening mark inside another. -/
def wedgedComment : Text := "Card <!<!---- x".toList

theorem cleanComment?_wedgedComment :
    cleanComment? wedgedComment = some "Card <!-- x".toList ∧ Marked "Card <!-- x".toList ∧
      Wedged wedgedComment ∧
      cleanComment? "Card <!-- x".toList ≠ some "Card <!-- x".toList := by
  have result : cleanComment? wedgedComment = some "Card <!-- x".toList := by cbv
  have marked : Marked "Card <!-- x".toList := by decide
  obtain ⟨-, wedged, stays⟩ := cleanComment?_marked_iff result
  exact ⟨result, marked, wedged marked, fun same => stays.mp same marked⟩

end Cleaning

end Text

end NestedStyles
