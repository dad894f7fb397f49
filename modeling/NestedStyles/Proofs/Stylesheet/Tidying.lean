import NestedStyles.Proofs.Stylesheet.Statements
import NestedStyles.Proofs.Text.Weaving

/-!
Tidying brings back an `@apply` statement that was respaced, as long as its classes were not cut or
joined: a space may have become several blanks, and blanks may have been put behind colons and in front
of the semicolon. Around statements tidying changes nothing.
-/

set_option autoImplicit false

namespace NestedStyles

open Text Weave

namespace Apply

/-- Whether tidying puts the blanks in front of a character right, given the character before them. -/
structure Loose (behind : Char) (stitch : Stitch) : Prop where
  blank : Blank stitch.written
  solid : isBlank stitch.char = false
  spacing : stitch.read = [' '] ∧ stitch.written ≠ [] ∧ behind ≠ ':' ∧ stitch.char ≠ ';' ∨
    stitch.read = [] ∧ (stitch.written = [] ∨ behind = ':' ∨ stitch.char = ';')

/-- Whether tidying puts all blanks right. -/
def Loosened : Char → List Stitch → Prop
  | _, [] => True
  | behind, stitch :: rest => Loose behind stitch ∧ Loosened stitch.char rest

section Passes

variable {gap rest : Text} {c : Char}

theorem colon_beq_of_blank {c : Char} (blank : isBlank c = true) : (c == ':') = false := by
  rw [beq_eq_false_iff_ne]
  rintro rfl
  cases blank

/-- Blanks are taken away behind a colon only. -/
theorem tightenFrom_append (after : Bool) (blank : Blank gap) (solid : isBlank c = false) :
    tightenFrom after (gap ++ c :: rest) =
      (if after then [] else gap) ++ c :: tightenFrom (c == ':') rest := by
  induction gap with
  | nil =>
      rw [List.nil_append, tightenFrom, solid, Bool.and_false, if_neg Bool.false_ne_true]
      cases after <;> rfl
  | cons b gap ih =>
      have inner := ih fun d member => blank d (List.mem_cons_of_mem b member)
      have here : isBlank b = true := blank b List.mem_cons_self
      rw [List.cons_append, tightenFrom, here, Bool.and_true]
      cases after with
      | true => exact inner
      | false =>
          rw [colon_beq_of_blank here]
          exact congrArg (b :: ·) inner

/-- A run of blanks becomes one space. -/
theorem squeezeFrom_append (after : Bool) (blank : Blank gap) (solid : isBlank c = false) :
    squeezeFrom isBlank ' ' after (gap ++ c :: rest) =
      (if after || gap.isEmpty then [] else [' ']) ++ c :: squeezeFrom isBlank ' ' false rest := by
  induction gap generalizing after with
  | nil =>
      rw [List.nil_append, squeezeFrom, solid, if_neg Bool.false_ne_true]
      cases after <;> rfl
  | cons b gap ih =>
      have inner := ih true fun d member => blank d (List.mem_cons_of_mem b member)
      have here : isBlank b = true := blank b List.mem_cons_self
      rw [List.cons_append, squeezeFrom, here, if_pos rfl]
      cases after with
      | true => exact inner
      | false => exact congrArg (' ' :: ·) inner

/-- A space is taken away in front of a semicolon only. -/
theorem substitute_append (solid : isBlank c = false) (space : gap = [] ∨ gap = [' ']) :
    substitute [' ', ';'] [';'] 0 (gap ++ c :: rest) =
      (if c = ';' then [] else gap) ++ c :: substitute [' ', ';'] [';'] 0 rest := by
  have other : [' ', ';'].isPrefixOf (c :: rest) = false := by
    have unlike : c ≠ ' ' := by
      rintro rfl
      cases solid
    simp [List.isPrefixOf, Ne.symm unlike]
  have alone : substitute [' ', ';'] [';'] 0 (c :: rest) =
      c :: substitute [' ', ';'] [';'] 0 rest := by
    rw [substitute, other, if_neg Bool.false_ne_true]
  rcases space with rfl | rfl
  · rw [List.nil_append, alone]
    split <;> rfl
  · rw [List.singleton_append, substitute]
    by_cases ends : c = ';'
    · subst ends
      rfl
    · have none : [' ', ';'].isPrefixOf (' ' :: c :: rest) = false := by
        simp [List.isPrefixOf, Ne.symm ends]
      rw [none, if_neg Bool.false_ne_true, if_neg ends, alone]
      rfl

end Passes

/-- The blanks that tidying leaves in front of a character are those that were read. -/
theorem Loose.restored {behind : Char} {stitch : Stitch} (loose : Loose behind stitch) :
    (if stitch.char = ';' then []
      else if false || (if behind == ':' then [] else stitch.written).isEmpty then [] else [' ']) =
      stitch.read := by
  rcases loose.spacing with ⟨space, wide, tight, inner⟩ | ⟨none, narrow | colon | ends⟩
  · have spaced : stitch.written.isEmpty = false := by
      rw [← Bool.not_eq_true, List.isEmpty_iff]
      exact wide
    rw [space, if_neg inner, beq_eq_false_iff_ne.mpr tight, if_neg Bool.false_ne_true, spaced]
    rfl
  · rw [none, narrow]
    split
    · rfl
    · split <;> rfl
  · rw [none, colon]
    split <;> rfl
  · rw [none, if_pos ends]

/-- Tidying brings back what was read. -/
theorem tidy_result {behind : Char} {stitches : List Stitch} (loosened : Loosened behind stitches) :
    replace [' ', ';'] [';'] (collapse (tightenFrom (behind == ':') (result stitches))) =
      source stitches := by
  rw [collapse, squeeze, replace]
  induction stitches generalizing behind with
  | nil => rfl
  | cons stitch rest ih =>
      obtain ⟨loose, loosened⟩ := loosened
      have blank : Blank (if behind == ':' then [] else stitch.written) := by
        split
        · exact blank_nil
        · exact loose.blank
      have space (none : Bool) : (if none then [] else [' ']) = [] ∨
          (if none then [] else [' ']) = [' '] := by
        cases none with
        | true => exact Or.inl rfl
        | false => exact Or.inr rfl
      rw [result_cons, source_cons, tightenFrom_append _ loose.blank loose.solid,
        squeezeFrom_append _ blank loose.solid, substitute_append loose.solid (space _), loose.restored,
        ih loosened]

section Statement

variable {behind : Char} {stitches : List Stitch}

theorem Loosened.forall_loose (loosened : Loosened behind stitches) :
    ∀ stitch ∈ stitches, ∃ behind, Loose behind stitch := by
  induction stitches generalizing behind with
  | nil => exact fun stitch member => absurd member List.not_mem_nil
  | cons first rest ih =>
      intro stitch member
      rcases List.mem_cons.mp member with rfl | member
      · exact ⟨behind, loosened.1⟩
      · exact ih loosened.2 stitch member

theorem Loosened.blank (loosened : Loosened behind stitches) :
    ∀ stitch ∈ stitches, Blank stitch.written := by
  intro stitch member
  obtain ⟨_, loose⟩ := loosened.forall_loose stitch member
  exact loose.blank

theorem mem_side {gap other : Stitch → Text} {c : Char}
    (blank : ∀ stitch ∈ stitches, Blank (gap stitch)) (member : c ∈ side gap stitches) :
    isBlank c = true ∨ c ∈ side other stitches := by
  obtain ⟨stitch, among, inside⟩ := List.mem_flatMap.mp member
  rcases List.mem_append.mp inside with spacing | char
  · exact Or.inl (blank stitch among c spacing)
  · exact Or.inr (List.mem_flatMap.mpr ⟨stitch, among, List.mem_append_right _ char⟩)

/-- The one text ends as the other does, and has no other characters but for blanks. -/
theorem exists_inside {gap other : Stitch → Text} {body : Text} {d : Char}
    (blank : ∀ stitch ∈ stitches, Blank (gap stitch)) (ends : side other stitches = body ++ [d]) :
    ∃ inside, side gap stitches = inside ++ [d] ∧ ∀ c ∈ inside, isBlank c = true ∨ c ∈ body := by
  rcases List.eq_nil_or_concat' stitches with rfl | ⟨front, last, rfl⟩
  · have empty : [] = body ++ [d] := ends
    exact absurd empty (by simp)
  · rw [side_append, side_cons, ← List.append_assoc] at ends
    obtain ⟨same, ends⟩ := List.append_inj' ends rfl
    obtain ⟨rfl, -⟩ := List.cons.inj ends
    refine ⟨side gap front ++ gap last, ?_, ?_⟩
    · rw [side_append, side_cons, ← List.append_assoc]
      rfl
    · intro c member
      rcases List.mem_append.mp member with inner | spacing
      · have among : isBlank c = true ∨ c ∈ side other front :=
          mem_side (fun stitch among => blank stitch (List.mem_append_left _ among)) inner
        exact among.imp_right fun read => same ▸ List.mem_append_left _ read
      · exact Or.inl (blank last (List.mem_append_right _ List.mem_cons_self) c spacing)

/-- Where no blanks may come, none have. -/
theorem Loosened.head {c : Char} {more : Text} (loosened : Loosened behind stitches)
    (reads : source stitches = c :: more) (solid : isBlank c = false) (tight : behind ≠ ':')
    (inner : c ≠ ';') :
    ∃ rest, Loosened c rest ∧ source rest = more ∧ result stitches = c :: result rest := by
  cases stitches with
  | nil => cases reads
  | cons stitch rest =>
      rw [source_cons] at reads
      rcases loosened.1.spacing with ⟨space, -⟩ | ⟨none, given⟩
      · rw [space] at reads
        obtain ⟨rfl, -⟩ := List.cons.inj reads
        cases solid
      · rw [none] at reads
        obtain ⟨rfl, rfl⟩ := List.cons.inj reads
        rcases given with none | colon | ends
        · refine ⟨rest, loosened.2, rfl, ?_⟩
          rw [result_cons, none]
          rfl
        · exact absurd colon tight
        · exact absurd ends inner

/-- Where a blank was read, one is written. -/
theorem Loosened.space {more : Text} (loosened : Loosened behind stitches)
    (reads : source stitches = ' ' :: more) :
    ∃ b written, isBlank b = true ∧ result stitches = b :: written := by
  cases stitches with
  | nil => cases reads
  | cons stitch rest =>
      rw [source_cons] at reads
      rcases loosened.1.spacing with ⟨-, wide, -⟩ | ⟨none, -⟩
      · obtain ⟨b, gap, split⟩ := List.exists_cons_of_ne_nil wide
        refine ⟨b, gap ++ stitch.char :: result rest, ?_, ?_⟩
        · exact loosened.1.blank b (split ▸ List.mem_cons_self)
        · rw [result_cons, split]
          rfl
      · rw [none] at reads
        obtain ⟨space, -⟩ := List.cons.inj reads
        have solid := loosened.1.solid
        rw [space] at solid
        cases solid

theorem endsStatement_of_blank {c : Char} (blank : isBlank c = true) : endsStatement c = false := by
  rw [endsStatement, Bool.or_eq_false_iff, Bool.or_eq_false_iff, beq_eq_false_iff_ne,
    beq_eq_false_iff_ne, beq_eq_false_iff_ne]
  refine ⟨⟨?_, ?_⟩, ?_⟩
  all_goals
    rintro rfl
    cases blank

/-- A text starts with a statement if a blank follows the keyword and a semicolon comes before all
braces. -/
theorem statement?_eq {b : Char} {inside : Text} (blank : isBlank b = true)
    (closed : ∀ c ∈ inside, endsStatement c = false) (tail : Text) :
    statement? (keyword ++ b :: (inside ++ ';' :: tail)) = some (keyword ++ b :: (inside ++ [';'])) := by
  have passed : (inside ++ ';' :: tail).dropWhile (fun c => !endsStatement c) = ';' :: tail := by
    rw [List.dropWhile_append_of_pos fun c member => by rw [closed c member]; rfl]
    rfl
  have taken : (inside ++ ';' :: tail).takeWhile (fun c => !endsStatement c) = inside := by
    rw [List.takeWhile_append_of_pos fun c member => by rw [closed c member]; rfl]
    exact List.append_nil inside
  rw [statement?, Text.after?_append]
  dsimp only
  rw [blank, if_pos rfl, passed, taken]
  simp

/-- A word is written as it was read. -/
theorem Loosened.word {word more : Text} (loosened : Loosened behind stitches)
    (reads : source stitches = word ++ more) (tight : behind ≠ ':')
    (plain : ∀ c ∈ word, isBlank c = false ∧ c ≠ ':' ∧ c ≠ ';') :
    ∃ last rest, Loosened last rest ∧ source rest = more ∧ result stitches = word ++ result rest := by
  induction word generalizing behind stitches with
  | nil => exact ⟨behind, stitches, loosened, reads, rfl⟩
  | cons c word ih =>
      rw [List.forall_mem_cons] at plain
      obtain ⟨rest, loosened, reads, written⟩ :=
        loosened.head reads plain.1.1 tight plain.1.2.2
      obtain ⟨last, others, loosened, reads, further⟩ := ih loosened reads plain.1.2.1 plain.2
      exact ⟨last, others, loosened, reads, by rw [written, further, List.cons_append]⟩

theorem tidyFrom_eq_drop (skip : Nat) (text : Text) : tidyFrom skip text = tidyAll (text.drop skip) := by
  induction skip generalizing text with
  | zero => rfl
  | succ skip ih =>
      cases text with
      | nil => rfl
      | cons c rest => exact ih rest

theorem keyword_eq_cons : keyword = '@' :: "apply".toList := by decide

/-- The word of a statement is one word. -/
theorem plain_word : ∀ c ∈ "apply".toList, isBlank c = false ∧ c ≠ ':' ∧ c ≠ ';' := by
  have letters : "apply".toList = ['a', 'p', 'p', 'l', 'y'] := by decide
  intro c member
  simp only [letters, List.mem_cons, List.not_mem_nil, or_false] at member
  rcases member with rfl | rfl | rfl | rfl | rfl <;> exact ⟨rfl, by decide, by decide⟩

/-- A loosened statement is read as one, whatever follows it. -/
theorem statement?_result {classes : Text} (loosened : Loosened '@' stitches)
    (reads : source stitches = "apply".toList ++ ' ' :: (classes ++ [';']))
    (closed : ∀ c ∈ classes, endsStatement c = false) (tail : Text) :
    statement? ('@' :: (result stitches ++ tail)) = some ('@' :: result stitches) := by
  obtain ⟨last, rest, loosened, ahead, written⟩ :=
    loosened.word reads (by decide) plain_word
  obtain ⟨b, others, blank, begins⟩ := loosened.space ahead
  have ahead : source rest = (' ' :: classes) ++ [';'] := ahead
  obtain ⟨inside, ends, among⟩ : ∃ inside, result rest = inside ++ [';'] ∧
      ∀ c ∈ inside, isBlank c = true ∨ c ∈ ' ' :: classes :=
    exists_inside loosened.blank ahead
  have first : ∃ inner, inside = b :: inner := by
    rw [ends] at begins
    cases inside with
    | nil =>
        obtain ⟨rfl, -⟩ := List.cons.inj begins
        cases blank
    | cons c inner =>
        obtain ⟨rfl, -⟩ := List.cons.inj begins
        exact ⟨inner, rfl⟩
  obtain ⟨inner, rfl⟩ := first
  have free : ∀ c ∈ inner, endsStatement c = false := by
    intro c member
    rcases among c (List.mem_cons_of_mem b member) with space | read
    · exact endsStatement_of_blank space
    · rcases List.mem_cons.mp read with rfl | read
      · rfl
      · exact closed c read
  have text : '@' :: result stitches = keyword ++ b :: (inner ++ [';']) := by
    rw [written, ends]
    rfl
  have whole : '@' :: (result stitches ++ tail) = keyword ++ b :: (inner ++ ';' :: tail) := by
    rw [← List.cons_append, text]
    simp
  rw [whole, text]
  exact statement?_eq blank free tail

/-- A loosened statement is brought back, whatever follows it. -/
theorem tidyAll_statement {classes : Text} (loosened : Loosened '@' stitches)
    (reads : source stitches = "apply".toList ++ ' ' :: (classes ++ [';']))
    (closed : ∀ c ∈ classes, endsStatement c = false) (tail : Text) :
    tidyAll ('@' :: (result stitches ++ tail)) = Raw.apply classes ++ tidyAll tail := by
  have tidied : tidy ('@' :: result stitches) = Raw.apply classes := by
    have whole : Loosened ' ' (⟨[], [], '@'⟩ :: stitches) :=
      ⟨⟨blank_nil, by decide, Or.inr ⟨rfl, Or.inl rfl⟩⟩, loosened⟩
    have restored := tidy_result whole
    rw [source_cons, reads] at restored
    exact restored
  rw [tidyAll, tidyFrom, statement?_result loosened reads closed]
  dsimp only
  rw [tidied, tidyFrom_eq_drop]
  simp

end Statement

section Around

/-- Where no keyword stands, tidying goes on behind the character. -/
theorem tidyAll_cons_of_not_keyword {c : Char} {rest : Text} (other : ¬ keyword <+: c :: rest) :
    tidyAll (c :: rest) = c :: tidyAll rest := by
  have none : Text.after? keyword (c :: rest) = none := by
    rw [Text.after?, if_neg]
    exact fun starts => other (List.isPrefixOf_iff_prefix.mp starts)
  have none : statement? (c :: rest) = Option.none := by
    rw [statement?, none]
  rw [tidyAll, tidyFrom, none]
  rfl

theorem not_keyword_prefix_of_ne {c : Char} (other : c ≠ '@') (rest : Text) :
    ¬ keyword <+: c :: rest := by
  intro starts
  have same : '@' = c := (List.cons_prefix_cons.mp starts).1
  exact other same.symm

theorem tidyAll_append_of_blank {gap : Text} (blank : Blank gap) (text : Text) :
    tidyAll (gap ++ text) = gap ++ tidyAll text := by
  induction gap with
  | nil => rfl
  | cons b gap ih =>
      have other : b ≠ '@' := by
        rintro rfl
        have clear := blank '@' List.mem_cons_self
        cases clear
      rw [List.cons_append, tidyAll_cons_of_not_keyword (not_keyword_prefix_of_ne other _),
        ih fun c member => blank c (List.mem_cons_of_mem b member)]
      rfl

theorem exists_statement?_eq {text statement : Text} (found : statement? text = some statement) :
    ∃ more, statement = '@' :: more := by
  rw [statement?] at found
  split at found
  · split at found
    · split at found
      · cases found
        exact ⟨_, rfl⟩
      · cases found
    · cases found
  · cases found

/-- An at sign stays where it is. -/
theorem exists_tidyAll_cons (rest : Text) : ∃ more, tidyAll ('@' :: rest) = '@' :: more := by
  rw [tidyAll, tidyFrom]
  split
  · rename_i statement found
    obtain ⟨more, rfl⟩ := exists_statement?_eq found
    exact ⟨_, rfl⟩
  · exact ⟨_, rfl⟩

/-- What tidying puts at the beginning of a text was there before, up to the first at sign. -/
theorem prefix_of_prefix_tidyAll {needle : Text} (absent : '@' ∉ needle) :
    ∀ {text : Text}, needle <+: tidyAll text → needle <+: text := by
  induction needle with
  | nil => exact fun _ => List.nil_prefix
  | cons c needle ih =>
      intro text starts
      rw [List.mem_cons, not_or] at absent
      cases text with
      | nil => exact starts
      | cons d rest =>
          by_cases sign : d = '@'
          · subst sign
            obtain ⟨more, same⟩ := exists_tidyAll_cons rest
            rw [same] at starts
            exact absurd (List.cons_prefix_cons.mp starts).1.symm absent.1
          · rw [tidyAll_cons_of_not_keyword (not_keyword_prefix_of_ne sign rest)] at starts
            obtain ⟨same, starts⟩ := List.cons_prefix_cons.mp starts
            exact List.cons_prefix_cons.mpr ⟨same, ih absent.2 starts⟩

end Around

end Apply

end NestedStyles
