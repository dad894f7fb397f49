import Mathlib.Data.List.Infix
import NestedStyles.Proofs.Stylesheet.Scanning
import NestedStyles.Proofs.Stylesheet.Tidying
import NestedStyles.Proofs.Text.Lines

/-!
Tidying goes stretch by stretch. The semicolons and braces of a text cut it into stretches, no statement
reaches from one stretch into the next, and of each stretch at most one statement is tidied: the one that
begins with the first keyword that has a blank behind it, and only if a semicolon ends the stretch.
-/

set_option autoImplicit false

namespace NestedStyles

open Text Weave

namespace Apply

/-- A text without semicolons and braces. -/
def Stretch (text : Text) : Prop :=
  ∀ c ∈ text, endsStatement c = false

/-- That the keyword stands in a text with a blank behind it. -/
def Opens (text : Text) : Prop :=
  ∃ front b back, text = front ++ (keyword ++ b :: back) ∧ isBlank b = true

/-- That a text ends where a stretch may begin. -/
def Begun (text : Text) : Prop :=
  ∀ c ∈ text.getLast?, endsStatement c = true

instance (text : Text) : Decidable (Stretch text) :=
  decidable_of_iff (text.all (fun c => !endsStatement c) = true) (by simp [Stretch])

instance (text : Text) : Decidable (Begun text) :=
  decidable_of_iff (text.getLast?.all endsStatement = true)
    (by unfold Begun; cases text.getLast? <;> simp)

section Stretch

variable {text front back : Text} {c : Char}

theorem solid_keyword : ∀ c ∈ keyword, isBlank c = false ∧ endsStatement c = false := by
  have all : (keyword.all fun c => !isBlank c && !endsStatement c) = true := by decide
  intro c member
  simpa using List.all_eq_true.mp all c member

theorem stretch_keyword : Stretch keyword :=
  fun c member => (solid_keyword c member).2

theorem stretch_append : Stretch (front ++ back) ↔ Stretch front ∧ Stretch back := by
  simp only [Stretch, List.mem_append, or_imp, forall_and]

theorem stretch_cons : Stretch (c :: text) ↔ endsStatement c = false ∧ Stretch text := by
  simp only [Stretch, List.forall_mem_cons]

/-- Where a stretch goes on behind another text, its end is the end of both. -/
theorem eq_of_append_cons {below : Text} {d : Char} (stretch : Stretch text)
    (split : text ++ [c] = front ++ d :: below) (stops : endsStatement d = true) :
    front = text ∧ d = c ∧ below = [] := by
  rcases List.append_eq_append_iff.mp split with ⟨more, rfl, behind⟩ | ⟨more, rfl, behind⟩
  · cases more with
    | nil =>
        obtain ⟨rfl, rfl⟩ := List.cons.inj behind
        exact ⟨List.append_nil _, rfl, rfl⟩
    | cons e more => simp at behind
  · cases more with
    | nil =>
        obtain ⟨rfl, rfl⟩ := List.cons.inj behind
        exact ⟨(List.append_nil _).symm, rfl, rfl⟩
    | cons e more =>
        rw [List.cons_append] at behind
        have here : endsStatement e = false :=
          stretch e (List.mem_append_right _ List.mem_cons_self)
        rw [(List.cons.inj behind).1, here] at stops
        cases stops

/-- From stretch to stretch, up to one that nothing ends. -/
theorem stretch_induction {motive : Text → Prop} (last : ∀ text, Stretch text → motive text)
    (cut : ∀ stretch c rest, Stretch stretch → endsStatement c = true → motive rest →
      motive (stretch ++ c :: rest)) (text : Text) : motive text :=
  Text.piece_induction endsStatement last cut text

end Stretch

section Statement

variable {text statement above below rest : Text} {c : Char}

/-- A statement is the keyword, a blank, a stretch and its semicolon. -/
theorem statement?_eq_some_iff : statement? text = some statement ↔
    ∃ b inside tail, isBlank b = true ∧ Stretch inside ∧
      text = keyword ++ b :: (inside ++ ';' :: tail) ∧
      statement = keyword ++ b :: (inside ++ [';']) := by
  constructor
  · intro found
    rw [statement?] at found
    split at found
    · rename_i c rest after
      split at found
      · rename_i blank
        split at found
        · rename_i tail stops
          cases found
          have whole : rest = rest.takeWhile (fun c => !endsStatement c) ++ ';' :: tail := by
            rw [← stops, List.takeWhile_append_dropWhile]
          refine ⟨c, rest.takeWhile fun c => !endsStatement c, tail, blank, ?_, ?_, ?_⟩
          · intro d member
            simpa using List.mem_takeWhile_imp member
          · rw [← whole, Scan.eq_append_of_after? after]
          · rw [List.append_assoc, List.cons_append]
        · cases found
      · cases found
    · cases found
  · rintro ⟨b, inside, tail, blank, stretch, rfl, rfl⟩
    exact statement?_eq blank stretch tail

/-- A statement ends with its semicolon, and the text goes on behind it. -/
theorem exists_of_statement? (found : statement? text = some statement) :
    ∃ body tail, statement = '@' :: (body ++ [';']) ∧ text = statement ++ tail ∧ ';' ∉ body := by
  obtain ⟨b, inside, tail, blank, stretch, rfl, rfl⟩ := statement?_eq_some_iff.mp found
  refine ⟨"apply".toList ++ b :: inside, tail, ?_, ?_, ?_⟩
  · rw [List.append_assoc, List.cons_append]
    rfl
  · simp
  · rw [List.mem_append, List.mem_cons, not_or, not_or]
    refine ⟨by decide, ?_, ?_⟩
    · rintro rfl
      cases blank
    · intro member
      cases stretch ';' member

@[simp] theorem tidyAll_nil : tidyAll [] = [] := rfl

theorem tidyAll_cons_of_none (none : statement? (c :: rest) = none) :
    tidyAll (c :: rest) = c :: tidyAll rest := by
  rw [tidyAll, tidyFrom, none]
  rfl

theorem tidyAll_append_of_some {tail : Text} (found : statement? (statement ++ tail) = some statement) :
    tidyAll (statement ++ tail) = tidy statement ++ tidyAll tail := by
  obtain ⟨body, other, shape, -, -⟩ := exists_of_statement? found
  subst shape
  rw [List.cons_append] at found ⊢
  rw [tidyAll, tidyFrom, found]
  dsimp only
  rw [tidyFrom_eq_drop]
  simp

/-- Tidying goes from character to character, and from statement to statement. -/
theorem tidyAll_induction {motive : Text → Prop} (nil : motive [])
    (char : ∀ c rest, statement? (c :: rest) = none → motive rest → motive (c :: rest))
    (statement : ∀ statement tail, statement? (statement ++ tail) = some statement → motive tail →
      motive (statement ++ tail)) (text : Text) : motive text := by
  induction length : text.length using Nat.strong_induction_on generalizing text with
  | h length ih =>
      cases text with
      | nil => exact nil
      | cons c rest =>
          cases found : statement? (c :: rest) with
          | none =>
              refine char c rest found (ih rest.length ?_ rest rfl)
              rw [← length, List.length_cons]
              omega
          | some st =>
              obtain ⟨body, tail, shape, split, -⟩ := exists_of_statement? found
              rw [split] at found length ⊢
              refine statement st tail found (ih tail.length ?_ tail rfl)
              rw [← length, shape, List.length_append, List.length_cons]
              omega

/-- Where no statement begins, tidying goes on behind. -/
theorem tidyAll_append_of_none {front : Text}
    (none : ∀ back, back ≠ [] → back <:+ front → statement? (back ++ text) = none) :
    tidyAll (front ++ text) = front ++ tidyAll text := by
  induction front with
  | nil => rfl
  | cons c front ih =>
      have here := none (c :: front) (List.cons_ne_nil c front) List.suffix_rfl
      rw [List.cons_append] at here ⊢
      rw [tidyAll_cons_of_none here, ih fun back filled suffix =>
        none back filled (suffix.trans (List.suffix_cons c front)), List.cons_append]

/-- A statement ends before the next semicolon or brace, or with it. -/
theorem statement?_append_cons (ends : endsStatement c = true) (above below : Text) :
    statement? (above ++ c :: below) = statement? (above ++ [c]) := by
  apply Option.ext
  intro st
  rw [statement?_eq_some_iff, statement?_eq_some_iff]
  constructor
  · rintro ⟨b, inside, tail, blank, stretch, split, rfl⟩
    -- What ends the statement stands in `above`, or it is the character itself.
    have whole : (keyword ++ b :: inside) ++ ';' :: tail = above ++ c :: below := by
      rw [split, List.append_assoc, List.cons_append]
    rcases List.append_eq_append_iff.mp whole with ⟨more, rfl, behind⟩ | ⟨more, same, behind⟩
    · cases more with
      | nil =>
          obtain ⟨rfl, rfl⟩ := List.cons.inj behind
          exact ⟨b, inside, [], blank, stretch, by simp, rfl⟩
      | cons d more =>
          rw [List.cons_append] at behind
          obtain ⟨rfl, -⟩ := List.cons.inj behind
          exact ⟨b, inside, more ++ [c], blank, stretch, by simp, rfl⟩
    · cases more with
      | nil =>
          obtain ⟨rfl, rfl⟩ := List.cons.inj behind
          rw [List.append_nil] at same
          exact ⟨b, inside, [], blank, stretch, by simp [← same], rfl⟩
      | cons d more =>
          rw [List.cons_append] at behind
          obtain ⟨rfl, -⟩ := List.cons.inj behind
          have free : Stretch (keyword ++ b :: inside) :=
            stretch_append.mpr ⟨stretch_keyword,
              stretch_cons.mpr ⟨endsStatement_of_blank blank, stretch⟩⟩
          have inner := free c (same ▸ List.mem_append_right _ List.mem_cons_self)
          rw [ends] at inner
          cases inner
  · rintro ⟨b, inside, tail, blank, stretch, split, rfl⟩
    refine ⟨b, inside, tail ++ below, blank, stretch, ?_, rfl⟩
    have longer : above ++ c :: below = (above ++ [c]) ++ below := by simp
    rw [longer, split]
    simp

/-- What follows a semicolon or a brace is tidied on its own. -/
theorem tidyAll_append_cons (ends : endsStatement c = true) (above below : Text) :
    tidyAll (above ++ c :: below) = tidyAll (above ++ [c]) ++ tidyAll below := by
  generalize whole : above ++ [c] = text
  induction text using tidyAll_induction generalizing above with
  | nil => simp at whole
  | char d rest none ih =>
      have other : statement? (above ++ c :: below) = Option.none := by
        rw [statement?_append_cons ends, whole, none]
      rw [tidyAll_cons_of_none none]
      cases above with
      | nil =>
          obtain ⟨rfl, rfl⟩ := List.cons.inj whole
          exact tidyAll_cons_of_none other
      | cons e above =>
          rw [List.cons_append] at whole other ⊢
          obtain ⟨rfl, behind⟩ := List.cons.inj whole
          rw [tidyAll_cons_of_none other, ih above behind, List.cons_append]
  | statement st tail found ih =>
      have same : statement? (above ++ c :: below) = some st := by
        rw [statement?_append_cons ends, whole, found]
      rw [tidyAll_append_of_some found]
      rcases List.eq_nil_or_concat' tail with rfl | ⟨more, d, rfl⟩
      · rw [List.append_nil] at whole
        have split : above ++ c :: below = st ++ below := by
          rw [← whole, List.append_assoc, List.singleton_append]
        rw [split] at same ⊢
        rw [tidyAll_append_of_some same, tidyAll_nil, List.append_nil]
      · rw [← List.append_assoc] at whole
        obtain ⟨rfl, last⟩ := List.append_inj' whole rfl
        obtain ⟨rfl, -⟩ := List.cons.inj last
        rw [List.append_assoc] at same ⊢
        rw [tidyAll_append_of_some same, ih more rfl, List.append_assoc]

/-- What stands in front of a stretch is tidied on its own. -/
theorem tidyAll_append (begun : Begun above) (below : Text) :
    tidyAll (above ++ below) = tidyAll above ++ tidyAll below := by
  rcases List.eq_nil_or_concat' above with rfl | ⟨front, c, rfl⟩
  · rfl
  · have ends : endsStatement c = true := begun c (by simp)
    rw [List.append_assoc, List.singleton_append, tidyAll_append_cons ends]

end Statement

section Opens

variable {front stretch inside below : Text} {b c : Char}

/-- What is tidied of a stretch begins with a keyword and a blank, and a semicolon ends the stretch. -/
theorem opens_of_statement? {back st : Text} (inner : Stretch stretch)
    (suffix : back <:+ stretch ++ [c]) (found : statement? back = some st) :
    c = ';' ∧ Opens stretch := by
  obtain ⟨before, split⟩ := suffix
  obtain ⟨b, inside, tail, blank, -, rfl, -⟩ := statement?_eq_some_iff.mp found
  have whole : stretch ++ [c] = (before ++ (keyword ++ b :: inside)) ++ ';' :: tail := by
    rw [← split]
    simp
  obtain ⟨same, semicolon, -⟩ := eq_of_append_cons inner whole rfl
  exact ⟨semicolon.symm, before, b, inside, same.symm, blank⟩

theorem tidyAll_eq_self {text : Text}
    (none : ∀ back, back ≠ [] → back <:+ text → statement? back = none) : tidyAll text = text := by
  have whole : tidyAll (text ++ []) = text ++ tidyAll [] := by
    apply tidyAll_append_of_none
    intro back filled suffix
    rw [List.append_nil, none back filled suffix]
  rwa [List.append_nil, tidyAll_nil, List.append_nil] at whole

/-- A stretch that nothing ends stays. -/
theorem tidyAll_of_stretch (inner : Stretch stretch) : tidyAll stretch = stretch := by
  apply tidyAll_eq_self
  intro back _ suffix
  rw [Option.eq_none_iff_forall_ne_some]
  intro st found
  obtain ⟨b, inside, tail, -, -, rfl, -⟩ := statement?_eq_some_iff.mp found
  have semicolon := inner ';' (suffix.subset (by simp))
  cases semicolon

/-- A stretch stays if a brace ends it or no statement begins in it. -/
theorem tidyAll_concat_of_not_opens (inner : Stretch stretch)
    (plain : c ≠ ';' ∨ ¬ Opens stretch) : tidyAll (stretch ++ [c]) = stretch ++ [c] := by
  apply tidyAll_eq_self
  intro back _ suffix
  rw [Option.eq_none_iff_forall_ne_some]
  intro st found
  obtain ⟨semicolon, opens⟩ := opens_of_statement? inner suffix found
  rcases plain with other | closed
  · exact other semicolon
  · exact closed opens

/-- Between other stretches, too. -/
theorem tidyAll_stretch {above : Text} (begun : Begun above) (inner : Stretch stretch)
    (ended : ∀ c ∈ below.head?, endsStatement c = true)
    (plain : below.head? ≠ some ';' ∨ ¬ Opens stretch) :
    tidyAll (above ++ (stretch ++ below)) = tidyAll above ++ (stretch ++ tidyAll below) := by
  rw [tidyAll_append begun]
  cases below with
  | nil => rw [List.append_nil, tidyAll_of_stretch inner, tidyAll_nil, List.append_nil]
  | cons c below =>
      have ends : endsStatement c = true := ended c rfl
      have alone : tidyAll (c :: below) = c :: tidyAll below := by
        refine tidyAll_cons_of_not_keyword (not_keyword_prefix_of_ne ?_ below)
        rintro rfl
        cases ends
      have plain : c ≠ ';' ∨ ¬ Opens stretch :=
        plain.imp_left fun other same => other (congrArg some same)
      rw [tidyAll_append_cons ends, tidyAll_concat_of_not_opens inner plain, alone,
        List.append_assoc, List.singleton_append]

/-- The keyword alone does not begin a statement. -/
theorem not_opens_keyword : ¬ Opens keyword := by
  rintro ⟨front, b, back, split, -⟩
  have long := congrArg List.length split
  rw [List.length_append, List.length_append, List.length_cons] at long
  omega

/-- Where statements begin, one is the first. -/
theorem exists_first_of_opens {text : Text} (opens : Opens text) :
    ∃ front b back, text = front ++ (keyword ++ b :: back) ∧ isBlank b = true ∧
      ¬ Opens (front ++ keyword) := by
  induction text with
  | nil =>
      obtain ⟨front, b, back, split, -⟩ := opens
      simp at split
  | cons c text ih =>
      by_cases here : ∃ b back, c :: text = keyword ++ b :: back ∧ isBlank b = true
      · obtain ⟨b, back, split, blank⟩ := here
        exact ⟨[], b, back, split, blank, not_opens_keyword⟩
      · obtain ⟨front, b, back, split, blank⟩ := opens
        cases front with
        | nil => exact absurd ⟨b, back, split, blank⟩ here
        | cons d front =>
            obtain ⟨rfl, further⟩ := List.cons.inj split
            obtain ⟨front, b, back, rfl, blank, first⟩ := ih ⟨front, b, back, further, blank⟩
            refine ⟨c :: front, b, back, rfl, blank, ?_⟩
            rintro ⟨before, d, behind, split, other⟩
            cases before with
            | nil =>
                refine here ⟨d, behind ++ b :: back, ?_, other⟩
                rw [List.nil_append] at split
                rw [← List.append_assoc, ← List.cons_append, ← List.cons_append, split]
                simp
            | cons e before => exact first ⟨before, d, behind, (List.cons.inj split).2, other⟩

/-- The first statement that begins in a stretch takes in the rest of it. -/
theorem tidyAll_of_first (first : ¬ Opens (front ++ keyword)) (blank : isBlank b = true)
    (inner : Stretch inside) :
    tidyAll (front ++ (keyword ++ b :: (inside ++ [';']))) =
      front ++ tidy (keyword ++ b :: (inside ++ [';'])) := by
  have found : statement? (keyword ++ b :: (inside ++ [';']) ++ []) =
      some (keyword ++ b :: (inside ++ [';'])) := by
    rw [List.append_nil]
    exact statement?_eq blank inner []
  have tidied := tidyAll_append_of_some found
  rw [List.append_nil, tidyAll_nil, List.append_nil] at tidied
  rw [tidyAll_append_of_none, tidied]
  rintro back filled ⟨before, rfl⟩
  rw [Option.eq_none_iff_forall_ne_some]
  intro st other
  obtain ⟨d, more, tail, blank, -, split, -⟩ := statement?_eq_some_iff.mp other
  -- The blank behind this earlier keyword stands in front of the end of the next one.
  have early : keyword ++ [d] <+: back ++ keyword := by
    refine List.prefix_of_prefix_length_le ⟨more ++ ';' :: tail, ?_⟩
      ⟨b :: (inside ++ [';']), rfl⟩ ?_
    · rw [List.append_assoc, List.append_assoc, split]
      rfl
    · have long : 0 < back.length := List.length_pos_iff.mpr filled
      simp only [List.length_append, List.length_singleton]
      omega
  obtain ⟨rest, same⟩ := early
  refine first ⟨before, d, rest, ?_, blank⟩
  rw [List.append_assoc, ← same, List.append_assoc, List.singleton_append]

end Opens

end Apply

end NestedStyles
