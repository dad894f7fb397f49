import NestedStyles.Proofs.Stylesheet.Settled

/-!
A class list comes back however its statement was respaced: the spaces between the classes may have
become any blanks, and blanks may have been put behind colons and in front of the semicolon. The text
around the statement is tidied as if it stood there without the statement.
-/

set_option autoImplicit false

namespace NestedStyles

open Text Weave

namespace Apply

/-- A class as it stands in a class list: a word that no statement ends with, and no colon at its end,
where a blank would be lost. -/
structure IsClass (name : Text) : Prop where
  filled : name ≠ []
  solid : ∀ c ∈ name, isBlank c = false
  inner : ∀ c ∈ name, endsStatement c = false
  ends : name.getLast? ≠ some ':'

instance (name : Text) : Decidable (IsClass name) :=
  decidable_of_iff (name ≠ [] ∧ name.all (fun c => !isBlank c && !endsStatement c) = true ∧
      name.getLast? ≠ some ':') (by
    simp only [List.all_eq_true, Bool.and_eq_true, Bool.not_eq_true', forall_and]
    exact ⟨fun ⟨filled, ⟨solid, inner⟩, ends⟩ => ⟨filled, solid, inner, ends⟩,
      fun ⟨filled, solid, inner, ends⟩ => ⟨filled, ⟨solid, inner⟩, ends⟩⟩)

/-- That blanks were put behind colons of a word. -/
inductive Opened : Text → Text → Prop
  | nil : Opened [] []
  | colon {name written gap : Text} (blank : Blank gap) (behind : Opened name written) :
      Opened (':' :: name) (':' :: (gap ++ written))
  | char {c : Char} {name written : Text} (behind : Opened name written) :
      Opened (c :: name) (c :: written)

/-- What the classes of a statement and its semicolon may be respaced to. -/
inductive Respaced : List Text → Text → Prop
  | semicolon {gap : Text} (blank : Blank gap) : Respaced [] (gap ++ [';'])
  | name {gap name written rest : Text} {classes : List Text} (blank : Blank gap) (apart : gap ≠ [])
      (opened : Opened name written) (behind : Respaced classes rest) :
      Respaced (name :: classes) (gap ++ (written ++ rest))

/-- What stands behind the last semicolon or brace of a text. -/
def lastStretch (text : Text) : Text :=
  (text.reverse.takeWhile fun c => !endsStatement c).reverse

theorem Opened.refl (name : Text) : Opened name name := by
  induction name with
  | nil => exact .nil
  | cons c name ih => exact .char ih

section Respaced

variable {name written : Text} {classes : List Text} {more : List Stitch}

/-- A word that was opened is loosened, if what follows it is. -/
theorem Opened.exists_stitches (opened : Opened name written)
    (continues : ∀ last, last ≠ ':' → Loosened last more) :
    ∀ (behind : Char) (gap : Text), (∀ c ∈ name, isBlank c = false) → Blank gap →
      (gap = [] ∨ behind = ':') → name.getLast?.getD behind ≠ ':' →
      ∃ stitches, Loosened behind stitches ∧ source stitches = name ++ source more ∧
        result stitches = gap ++ (written ++ result more) := by
  induction opened with
  | nil =>
      intro behind gap _ _ tight last
      rcases tight with rfl | colon
      · exact ⟨more, continues behind last, rfl, rfl⟩
      · exact absurd colon last
  | @colon name written inner blank _ ih =>
      intro behind gap solid outer tight last
      rw [List.forall_mem_cons] at solid
      rw [List.getLast?_cons, Option.getD_some] at last
      obtain ⟨stitches, loosened, reads, writes⟩ := ih ':' inner solid.2 blank (Or.inr rfl) last
      refine ⟨⟨[], gap, ':'⟩ :: stitches, ⟨⟨outer, solid.1, ?_⟩, loosened⟩, ?_, ?_⟩
      · exact Or.inr ⟨rfl, tight.imp_right Or.inl⟩
      · rw [source_cons, reads]
        rfl
      · rw [result_cons, writes]
        simp
  | @char c name written _ ih =>
      intro behind gap solid outer tight last
      rw [List.forall_mem_cons] at solid
      rw [List.getLast?_cons, Option.getD_some] at last
      obtain ⟨stitches, loosened, reads, writes⟩ := ih c [] solid.2 blank_nil (Or.inl rfl) last
      refine ⟨⟨[], gap, c⟩ :: stitches, ⟨⟨outer, solid.1, ?_⟩, loosened⟩, ?_, ?_⟩
      · exact Or.inr ⟨rfl, tight.imp_right Or.inl⟩
      · rw [source_cons, reads]
        rfl
      · rw [result_cons, writes]
        rfl

/-- The first character of a class stands behind the space that was respaced. -/
theorem exists_stitches_name {c : Char} {gap inner rest written : Text} (proper : IsClass (c :: rest))
    (apart : gap ≠ []) (blank : Blank gap) (spaced : Blank inner) (tight : inner = [] ∨ c = ':')
    (opened : Opened rest written) (continues : ∀ last, last ≠ ':' → Loosened last more) :
    ∃ stitches, (∀ behind, behind ≠ ':' → Loosened behind stitches) ∧
      source stitches = ' ' :: c :: (rest ++ source more) ∧
      result stitches = gap ++ c :: (inner ++ (written ++ result more)) := by
  have solid := proper.solid
  rw [List.forall_mem_cons] at solid
  have last : rest.getLast?.getD c ≠ ':' := by
    intro colon
    refine proper.ends ?_
    rw [List.getLast?_cons, colon]
  have closed : c ≠ ';' := by
    rintro rfl
    have inside := proper.inner ';' List.mem_cons_self
    cases inside
  obtain ⟨stitches, loosened, reads, writes⟩ :=
    opened.exists_stitches continues c inner solid.2 spaced tight last
  refine ⟨⟨[' '], gap, c⟩ :: stitches, ?_, ?_, ?_⟩
  · intro behind colon
    exact ⟨⟨blank, solid.1, Or.inl ⟨rfl, apart, colon, closed⟩⟩, loosened⟩
  · rw [source_cons, reads]
    rfl
  · rw [result_cons, writes]

/-- A respaced class list is loosened from one with single spaces. -/
theorem Respaced.exists_stitches (respaced : Respaced classes written)
    (proper : ∀ name ∈ classes, IsClass name) :
    ∃ stitches, (∀ behind, behind ≠ ':' → Loosened behind stitches) ∧
      source stitches = classes.flatMap (' ' :: ·) ++ [';'] ∧ result stitches = written := by
  induction respaced with
  | @semicolon gap blank =>
      refine ⟨[⟨[], gap, ';'⟩], ?_, rfl, by rw [result_cons]; rfl⟩
      exact fun behind _ => ⟨⟨blank, rfl, Or.inr ⟨rfl, Or.inr (Or.inr rfl)⟩⟩, trivial⟩
  | @name gap name written rest classes blank apart opened _ ih =>
      rw [List.forall_mem_cons] at proper
      obtain ⟨more, continues, reads, writes⟩ := ih proper.2
      rw [List.flatMap_cons, List.append_assoc, List.cons_append, ← reads, ← writes]
      cases opened with
      | nil => exact absurd rfl proper.1.filled
      | @colon name written inner spaced behind =>
          obtain ⟨stitches, loosened, reads, writes⟩ :=
            exists_stitches_name proper.1 apart blank spaced (Or.inr rfl) behind continues
          exact ⟨stitches, loosened, reads, by rw [writes]; simp⟩
      | char behind =>
          obtain ⟨stitches, loosened, reads, writes⟩ :=
            exists_stitches_name proper.1 apart blank blank_nil (Or.inl rfl) behind continues
          exact ⟨stitches, loosened, reads, writes⟩

theorem flatMap_space (some : classes ≠ []) :
    classes.flatMap (' ' :: ·) = ' ' :: join [' '] classes := by
  induction classes with
  | nil => exact absurd rfl some
  | cons name rest ih =>
      cases rest with
      | nil => simp
      | cons next rest =>
          rw [List.flatMap_cons, ih (List.cons_ne_nil next rest), join_cons_cons, List.append_assoc]
          rfl

/-- A respaced statement is tidied to one with single spaces, whatever follows it. -/
theorem tidyAll_keyword_append (some : classes ≠ []) (proper : ∀ name ∈ classes, IsClass name)
    (respaced : Respaced classes written) (after : Text) :
    tidyAll (keyword ++ written ++ after) = Raw.apply (join [' '] classes) ++ tidyAll after := by
  obtain ⟨stitches, loosened, reads, rfl⟩ := respaced.exists_stitches proper
  rw [flatMap_space some] at reads
  have solid : ∀ c ∈ "apply".toList, isBlank c = false := fun c member => (plain_word c member).1
  obtain ⟨others, whole, ahead, writes⟩ :=
    Loosened.append_word solid '@' (loosened 'y' (by decide))
  rw [reads] at ahead
  have closed : ∀ c ∈ join [' '] classes, endsStatement c = false := by
    intro c member
    have among : c ∈ classes.flatMap (' ' :: ·) := by
      rw [flatMap_space some]
      exact List.mem_cons_of_mem _ member
    obtain ⟨name, named, inside⟩ := List.mem_flatMap.mp among
    rcases List.mem_cons.mp inside with rfl | inside
    · rfl
    · exact (proper name named).inner c inside
  have tidied := tidyAll_statement whole ahead closed after
  rwa [writes] at tidied

end Respaced

section Around

variable {before : Text}

theorem exists_append_lastStretch (text : Text) :
    ∃ above, text = above ++ lastStretch text ∧ Begun above ∧ Stretch (lastStretch text) := by
  refine ⟨(text.reverse.dropWhile fun c => !endsStatement c).reverse, ?_, ?_, ?_⟩
  · rw [lastStretch, ← List.reverse_append, List.takeWhile_append_dropWhile, List.reverse_reverse]
  · intro c last
    have stops := List.head?_dropWhile_not (fun c => !endsStatement c) text.reverse
    rw [List.getLast?_reverse, Option.mem_def] at last
    rw [last] at stops
    simpa using stops
  · intro c member
    simpa using List.mem_takeWhile_imp (List.mem_reverse.mp member)

/-- Where no keyword stands, none comes about in front of another one. -/
theorem tidyAll_append_of_quiet (quiet : ¬ keyword <:+: lastStretch before) (rest : Text) :
    tidyAll (before ++ '@' :: rest) = tidyAll before ++ tidyAll ('@' :: rest) := by
  obtain ⟨above, split, begun, inner⟩ := exists_append_lastStretch before
  generalize lastStretch before = stretch at quiet split inner
  subst split
  rw [List.append_assoc, tidyAll_append begun, tidyAll_append begun, tidyAll_of_stretch inner,
    List.append_assoc, tidyAll_append_of_none]
  rintro back filled ⟨front, rfl⟩
  rw [Option.eq_none_iff_forall_ne_some]
  intro st found
  obtain ⟨b, inside, tail, -, -, split, -⟩ := statement?_eq_some_iff.mp found
  have starts : keyword <+: back ++ '@' :: rest := ⟨_, split.symm⟩
  obtain ⟨c, back, rfl⟩ := List.exists_cons_of_ne_nil filled
  rw [keyword_eq_cons, List.cons_append] at starts
  obtain ⟨rfl, word⟩ := List.cons_prefix_cons.mp starts
  -- The at sign behind ends no keyword.
  have short : "apply".toList <+: back := prefix_of_prefix_append_cons (by decide) word
  have early : keyword <+: '@' :: back := by
    rw [keyword_eq_cons]
    exact List.cons_prefix_cons.mpr ⟨rfl, short⟩
  exact quiet (early.isInfix.trans (List.suffix_append front ('@' :: back)).isInfix)

end Around

/-- A respaced statement comes back with single spaces, and the text on both sides is tidied on its own,
if no keyword stands between the statement and the semicolon or brace in front of it. -/
theorem tidyAll_respaced {classes : List Text} {before written after : Text} (some : classes ≠ [])
    (proper : ∀ name ∈ classes, IsClass name) (respaced : Respaced classes written)
    (quiet : ¬ keyword <:+: lastStretch before) :
    tidyAll (before ++ (keyword ++ written) ++ after) =
      tidyAll before ++ Raw.apply (join [' '] classes) ++ tidyAll after := by
  have split : before ++ (keyword ++ written) ++ after =
      before ++ '@' :: ("apply".toList ++ written ++ after) := by
    rw [List.append_assoc]
    rfl
  have tidied := tidyAll_keyword_append some proper respaced after
  rw [split, tidyAll_append_of_quiet quiet, List.append_assoc (tidyAll before), ← tidied]
  rfl

/-- A class with a variant, and one that reads like the keyword. -/
theorem respaced_variant :
    Respaced ["md:p-1".toList, "@apply".toList] "\n  md: p-1\t@apply ;".toList := by
  have space : Blank [' '] := by decide
  have tab : Blank ['\t'] := by decide
  have indented : Blank "\n  ".toList := by decide
  have opened : Opened "md:p-1".toList ('m' :: 'd' :: ':' :: ([' '] ++ "p-1".toList)) :=
    .char (.char (.colon space (Opened.refl _)))
  have last : Respaced ["@apply".toList] (['\t'] ++ ("@apply".toList ++ ([' '] ++ [';']))) :=
    .name tab (by decide) (Opened.refl _) (.semicolon space)
  exact Respaced.name indented (by decide) opened last

theorem tidyAll_respaced_variant :
    tidyAll "p: q;x \x7b@apply\n  md: p-1\t@apply ;@apply  z;\x7d".toList =
      tidyAll "p: q;x \x7b".toList ++ Raw.apply "md:p-1 @apply".toList ++
        tidyAll "@apply  z;\x7d".toList := by
  have quiet : ¬ keyword <:+: lastStretch "p: q;x \x7b".toList := by decide
  exact tidyAll_respaced (by decide) (by decide) respaced_variant quiet

end Apply

end NestedStyles
