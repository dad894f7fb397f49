import NestedStyles.Proofs.Stylesheet.Marks
import NestedStyles.Proofs.Stylesheet.Stretches

/-!
Tidying the `@apply` statements of a text and then separating its marks leaves every mark alone on
its line, and what stood below a mark still stands below it. Only a statement that takes in a mark can
break this: it is written on one line, with the mark and with all that follows up to its semicolon.
-/

set_option autoImplicit false

namespace NestedStyles

open Text

/-- A word stands in front of a character that is not in it, or behind it. -/
theorem append_cons_eq_append {α : Type} {c : α} {above below front word rest : List α}
    (foreign : c ∉ word) (split : above ++ c :: below = front ++ (word ++ rest)) :
    (∃ more, above = front ++ (word ++ more) ∧ rest = more ++ c :: below) ∨
      ∃ more, front = above ++ c :: more ∧ below = more ++ (word ++ rest) := by
  rcases List.append_eq_append_iff.mp split with ⟨more, front_eq, behind⟩ | ⟨gap, rfl, inside⟩
  · cases more with
    | cons d more =>
        obtain ⟨rfl, further⟩ := List.cons.inj behind
        exact Or.inr ⟨more, front_eq, further⟩
    | nil =>
        rw [List.append_nil] at front_eq
        cases word with
        | nil => exact Or.inl ⟨[], by simp [front_eq], behind.symm⟩
        | cons d word => exact absurd ((List.cons.inj behind).1 ▸ List.mem_cons_self) foreign
  · rcases List.append_eq_append_iff.mp inside with ⟨more, rfl, behind⟩ | ⟨more, rfl, behind⟩
    · exact Or.inl ⟨more, rfl, behind⟩
    · cases more with
      | nil => exact Or.inl ⟨[], by simp, behind.symm⟩
      | cons d more =>
          rw [(List.cons.inj behind).1] at foreign
          exact absurd (List.mem_append_right _ List.mem_cons_self) foreign

namespace Apply

section Passes

variable {mark rest : Text}

theorem exists_tightenFrom_append (front back : Text) :
    ∀ after, ∃ above flag, tightenFrom after (front ++ back) = above ++ tightenFrom flag back := by
  induction front with
  | nil => exact fun after => ⟨[], after, rfl⟩
  | cons c front ih =>
      intro after
      rw [List.cons_append, tightenFrom]
      split
      · exact ih true
      · obtain ⟨above, flag, same⟩ := ih (c == ':')
        exact ⟨c :: above, flag, by rw [same]; rfl⟩

theorem exists_squeezeFrom_append (front back : Text) :
    ∀ after, ∃ above flag, squeezeFrom isBlank ' ' after (front ++ back) =
      above ++ squeezeFrom isBlank ' ' flag back := by
  induction front with
  | nil => exact fun after => ⟨[], after, rfl⟩
  | cons c front ih =>
      intro after
      rw [List.cons_append, squeezeFrom]
      split
      · obtain ⟨above, flag, same⟩ := ih true
        split
        · exact ⟨above, flag, same⟩
        · exact ⟨' ' :: above, flag, by rw [same]; rfl⟩
      · obtain ⟨above, flag, same⟩ := ih false
        exact ⟨c :: above, flag, by rw [same]; rfl⟩

theorem head?_of_isPrefixOf {c : Char} {text : Text}
    (starts : [' ', ';'].isPrefixOf (c :: text) = true) : text.head? = some ';' := by
  cases text with
  | nil => simp at starts
  | cons d text =>
      simp only [List.isPrefixOf_cons_cons, Bool.and_eq_true, beq_iff_eq] at starts
      rw [List.head?_cons, starts.2.1]

/-- Spaces in front of semicolons are found on one side of any other character. -/
theorem exists_substitute_append (front : Text) {back : Text} (other : ∀ c ∈ back.head?, c ≠ ';') :
    ∀ skip ≤ front.length, ∃ above, substitute [' ', ';'] [';'] skip (front ++ back) =
      above ++ substitute [' ', ';'] [';'] 0 back := by
  induction front with
  | nil =>
      intro skip none
      rw [Nat.le_zero.mp none]
      exact ⟨[], rfl⟩
  | cons c front ih =>
      intro skip inside
      rw [List.length_cons] at inside
      cases skip with
      | succ skip => exact ih skip (Nat.le_of_succ_le_succ inside)
      | zero =>
          rw [List.cons_append, substitute]
          split
          · rename_i starts
            have more : 1 ≤ front.length := by
              rw [Nat.one_le_iff_ne_zero]
              intro empty
              rw [List.length_eq_zero_iff.mp empty] at starts
              exact other ';' (head?_of_isPrefixOf starts) rfl
            obtain ⟨above, same⟩ := ih 1 more
            exact ⟨';' :: above, by rw [List.length_cons, List.length_singleton, same]; rfl⟩
          · obtain ⟨above, same⟩ := ih 0 (Nat.zero_le _)
            exact ⟨c :: above, by rw [same]; rfl⟩

theorem exists_substitute_concat (front : Text) :
    ∀ skip ≤ front.length, ∃ above, substitute [' ', ';'] [';'] skip (front ++ [';']) =
      above ++ [';'] := by
  induction front with
  | nil =>
      intro skip none
      rw [Nat.le_zero.mp none]
      exact ⟨[], rfl⟩
  | cons c front ih =>
      intro skip inside
      rw [List.length_cons] at inside
      cases skip with
      | succ skip => exact ih skip (Nat.le_of_succ_le_succ inside)
      | zero =>
          rw [List.cons_append, substitute]
          split
          · cases front with
            | nil => exact ⟨[], rfl⟩
            | cons d front =>
                obtain ⟨above, same⟩ := ih 1 (Nat.succ_le_succ (Nat.zero_le _))
                exact ⟨';' :: above, by rw [List.length_cons, List.length_singleton, same]; rfl⟩
          · obtain ⟨above, same⟩ := ih 0 (Nat.zero_le _)
            exact ⟨c :: above, by rw [same]; rfl⟩

/-- Where no colon stands, no blanks are taken away. -/
theorem tightenFrom_word {word : Text} (colon : ':' ∉ word) (back : Text) :
    tightenFrom false (word ++ back) = word ++ tightenFrom false back := by
  induction word with
  | nil => rfl
  | cons c word ih =>
      rw [List.mem_cons, not_or] at colon
      rw [List.cons_append, tightenFrom, Bool.false_and, if_neg Bool.false_ne_true,
        beq_eq_false_iff_ne.mpr (Ne.symm colon.1), ih colon.2]
      rfl

theorem tightenFrom_mark (marked : Region.MarkAt mark rest) (flag : Bool) (back : Text) :
    tightenFrom flag (mark ++ back) = mark ++ tightenFrom false back := by
  have colon : ':' ∉ mark := marked.not_mem (by decide) (by decide) rfl
  obtain ⟨word, rfl, -⟩ := marked.exists_comment
  have solid : isBlank '/' = false := by decide
  rw [List.cons_append, tightenFrom, solid, Bool.and_false, if_neg Bool.false_ne_true]
  exact congrArg ('/' :: ·)
    (tightenFrom_word (fun inside => colon (List.mem_cons_of_mem _ inside)) back)

theorem squeezeFrom_solid {word : Text} (solid : ∀ c ∈ word, isBlank c = false) (back : Text) :
    squeezeFrom isBlank ' ' false (word ++ back) = word ++ squeezeFrom isBlank ' ' false back := by
  induction word with
  | nil => rfl
  | cons c word ih =>
      rw [List.forall_mem_cons] at solid
      rw [List.cons_append, squeezeFrom, solid.1, if_neg Bool.false_ne_true, ih solid.2]
      rfl

/-- The blanks of a mark are single spaces. -/
theorem squeezeFrom_mark (marked : Region.MarkAt mark rest) (flag : Bool) (back : Text) :
    squeezeFrom isBlank ' ' flag (mark ++ back) = mark ++ squeezeFrom isBlank ' ' false back := by
  cases marked with
  | closing => rfl
  | @opening digits _ numbered decimal whole =>
      have solid : ∀ c ∈ digits, isBlank c = false := by
        intro c member
        rw [← Bool.not_eq_true]
        intro blank
        have digit := decimal c member
        rw [isDigit_of_isBlank blank] at digit
        cases digit
      rw [List.append_assoc, List.append_assoc, ← squeezeFrom_solid solid]
      rfl

theorem substitute_word {word back : Text} (semicolon : ';' ∉ word)
    (other : ∀ c ∈ back.head?, c ≠ ';') :
    substitute [' ', ';'] [';'] 0 (word ++ back) = word ++ substitute [' ', ';'] [';'] 0 back := by
  induction word with
  | nil => rfl
  | cons c word ih =>
      rw [List.mem_cons, not_or] at semicolon
      have clear : ¬ [' ', ';'].isPrefixOf (c :: (word ++ back)) = true := by
        intro starts
        have next := head?_of_isPrefixOf starts
        cases word with
        | nil => exact other ';' next rfl
        | cons d word =>
            cases next
            exact semicolon.2 List.mem_cons_self
      rw [List.cons_append, substitute, if_neg clear, ih semicolon.2]
      rfl

/-- Tidying keeps a mark that ends a line inside a statement. -/
theorem not_free_tidy (marked : Region.MarkAt mark rest) (front back : Text) :
    ¬ Region.Free (tidy (front ++ (mark ++ '\n' :: back))) := by
  have semicolon : ';' ∉ mark := marked.not_mem (by decide) (by decide) rfl
  obtain ⟨word, comment, -⟩ := marked.exists_comment
  obtain ⟨first, flag, tightened⟩ := exists_tightenFrom_append front (mark ++ '\n' :: back) false
  have line : tightenFrom false ('\n' :: back) = '\n' :: tightenFrom false back := rfl
  rw [tightenFrom_mark marked, line] at tightened
  obtain ⟨second, flag, squeezed⟩ :=
    exists_squeezeFrom_append first (mark ++ '\n' :: tightenFrom false back) false
  have space : squeezeFrom isBlank ' ' false ('\n' :: tightenFrom false back) =
      ' ' :: squeezeFrom isBlank ' ' true (tightenFrom false back) := rfl
  rw [squeezeFrom_mark marked, space] at squeezed
  generalize squeezeFrom isBlank ' ' true (tightenFrom false back) = tail at squeezed
  have slash : ∀ c ∈ (mark ++ ' ' :: tail).head?, c ≠ ';' := by
    rw [comment]
    rintro c ⟨⟩
    decide
  have blank : ∀ c ∈ (' ' :: tail).head?, c ≠ ';' := by
    rintro c ⟨⟩
    decide
  obtain ⟨third, replaced⟩ := exists_substitute_append second slash 0 (Nat.zero_le _)
  rw [substitute_word semicolon blank] at replaced
  have ends : ∀ c ∈ (substitute [' ', ';'] [';'] 0 (' ' :: tail)).head?, c.isDigit = false := by
    rw [substitute]
    split <;> rintro c ⟨⟩ <;> rfl
  intro free
  refine free third mark (substitute [' ', ';'] [';'] 0 (' ' :: tail)) ?_ (marked.behind ends)
  rw [tidy, replace, collapse, squeeze, tightened, squeezed, replaced]

/-- A tidied statement ends with its semicolon. -/
theorem exists_tidy_concat (body : Text) : ∃ inside, tidy (body ++ [';']) = inside ++ [';'] := by
  obtain ⟨first, flag, tightened⟩ := exists_tightenFrom_append body [';'] false
  obtain ⟨second, other, squeezed⟩ := exists_squeezeFrom_append first [';'] false
  have last : tightenFrom flag [';'] = [';'] := by cases flag <;> rfl
  have same : squeezeFrom isBlank ' ' other [';'] = [';'] := rfl
  obtain ⟨inside, replaced⟩ := exists_substitute_concat second 0 (Nat.zero_le _)
  refine ⟨inside, ?_⟩
  rw [tidy, replace, collapse, squeeze, tightened, last, squeezed, same, replaced]

end Passes

section Blanks

variable {c : Char}

theorem mem_of_mem_tightenFrom {text : Text} :
    ∀ {after}, c ∈ tightenFrom after text → c ∈ text := by
  induction text with
  | nil => exact fun member => member
  | cons d rest ih =>
      intro after member
      rw [tightenFrom] at member
      split at member
      · exact List.mem_cons_of_mem d (ih member)
      · rcases List.mem_cons.mp member with rfl | behind
        · exact List.mem_cons_self
        · exact List.mem_cons_of_mem d (ih behind)

theorem mem_of_mem_substitute {text : Text} :
    ∀ {skip}, c ∈ substitute [' ', ';'] [';'] skip text → c ∈ text := by
  induction text with
  | nil =>
      intro skip member
      cases skip <;> exact member
  | cons d rest ih =>
      intro skip member
      cases skip with
      | succ skip => exact List.mem_cons_of_mem d (ih member)
      | zero =>
          rw [substitute] at member
          split at member
          · rename_i starts
            rcases List.mem_cons.mp member with rfl | behind
            · exact List.mem_cons_of_mem d (List.mem_of_mem_head? (head?_of_isPrefixOf starts))
            · exact List.mem_cons_of_mem d (ih behind)
          · rcases List.mem_cons.mp member with rfl | behind
            · exact List.mem_cons_self
            · exact List.mem_cons_of_mem d (ih behind)

theorem mem_squeezeFrom {text : Text} :
    ∀ {after}, c ∈ squeezeFrom isBlank ' ' after text → c ∈ text ∨ c = ' ' := by
  induction text with
  | nil => exact fun member => Or.inl member
  | cons d rest ih =>
      intro after member
      have longer : c ∈ rest ∨ c = ' ' → c ∈ d :: rest ∨ c = ' ' :=
        Or.imp_left (List.mem_cons_of_mem d)
      rw [squeezeFrom] at member
      split at member
      · split at member
        · exact longer (ih member)
        · rcases List.mem_cons.mp member with rfl | behind
          · exact Or.inr rfl
          · exact longer (ih behind)
      · rcases List.mem_cons.mp member with rfl | behind
        · exact Or.inl List.mem_cons_self
        · exact longer (ih behind)

/-- Tidying adds no characters but spaces. -/
theorem mem_tidyAll {text : Text} : c ∈ tidyAll text → c ∈ text ∨ c = ' ' := by
  induction text using tidyAll_induction with
  | nil => exact fun member => Or.inl member
  | char d rest none ih =>
      rw [tidyAll_cons_of_none none]
      intro member
      rcases List.mem_cons.mp member with rfl | behind
      · exact Or.inl List.mem_cons_self
      · exact (ih behind).imp_left (List.mem_cons_of_mem d)
  | statement st tail found ih =>
      rw [tidyAll_append_of_some found]
      intro member
      rcases List.mem_append.mp member with inside | behind
      · rw [tidy, replace, collapse, squeeze] at inside
        refine (mem_squeezeFrom (mem_of_mem_substitute inside)).imp_left fun kept => ?_
        exact List.mem_append_left tail (mem_of_mem_tightenFrom kept)
      · exact (ih behind).imp_left (List.mem_append_right st)

end Blanks

section Marks

variable {text mark rest : Text}

/-- That no statement takes in a mark, or makes one. -/
def Unheld (text : Text) : Prop :=
  ∀ rest, rest <:+ text → ∀ statement, statement? rest = some statement →
    Region.Free (tidy statement)

theorem Unheld.suffix {tail : Text} (unheld : Unheld text) (suffix : tail <:+ text) : Unheld tail :=
  fun rest further => unheld rest (further.trans suffix)

/-- The first character of a text stays. -/
theorem head?_tidyAll (text : Text) : (tidyAll text).head? = text.head? := by
  cases text with
  | nil => rfl
  | cons c rest =>
      by_cases sign : c = '@'
      · subst sign
        obtain ⟨more, same⟩ := exists_tidyAll_cons rest
        rw [same]
        rfl
      · rw [tidyAll_cons_of_not_keyword (not_keyword_prefix_of_ne sign rest)]
        rfl

/-- Without an at sign there is nothing to tidy. -/
theorem tidyAll_word_append {word : Text} (sign : '@' ∉ word) (text : Text) :
    tidyAll (word ++ text) = word ++ tidyAll text := by
  induction word with
  | nil => rfl
  | cons c word ih =>
      rw [List.mem_cons, not_or] at sign
      rw [List.cons_append,
        tidyAll_cons_of_not_keyword (not_keyword_prefix_of_ne (Ne.symm sign.1) _), ih sign.2]
      rfl

theorem not_mem_mark (marked : Region.MarkAt mark rest) : '@' ∉ mark ∧ ';' ∉ mark :=
  ⟨marked.not_mem (by decide) (by decide) rfl, marked.not_mem (by decide) (by decide) rfl⟩

theorem tidyAll_mark_append (marked : Region.MarkAt mark rest) (text : Text) :
    tidyAll (mark ++ text) = mark ++ tidyAll text :=
  tidyAll_word_append (not_mem_mark marked).1 text

/-- A mark that ends its line is passed by, and what follows it is tidied on its own. -/
theorem exists_tidyAll_append_mark (marked : Region.MarkAt mark rest)
    (line : ∀ c ∈ rest.head?, c = '\n') :
    ∀ {front : Text}, text = front ++ (mark ++ rest) → Unheld text →
      ∃ above, tidyAll text = above ++ (mark ++ tidyAll rest) := by
  induction text using tidyAll_induction with
  | nil =>
      intro front split unheld
      obtain ⟨word, rfl, -⟩ := marked.exists_comment
      exact absurd split.symm (by simp)
  | char c tail none ih =>
      intro front split unheld
      cases front with
      | nil =>
          refine ⟨[], ?_⟩
          rw [split, List.nil_append, tidyAll_mark_append marked, List.nil_append]
      | cons d front =>
          obtain ⟨rfl, behind⟩ := List.cons.inj split
          obtain ⟨above, further⟩ := ih behind (unheld.suffix (List.suffix_cons _ _))
          exact ⟨c :: above, by rw [tidyAll_cons_of_none none, further]; rfl⟩
  | statement st tail found ih =>
      intro front split unheld
      obtain ⟨body, other, shape, whole, clear⟩ := exists_of_statement? found
      have free := unheld _ List.suffix_rfl st found
      have cut : ('@' :: body) ++ ';' :: tail = front ++ (mark ++ rest) := by
        rw [← split, shape]
        simp
      rcases append_cons_eq_append (not_mem_mark marked).2 cut with
        ⟨more, within, behind⟩ | ⟨more, rfl, behind⟩
      · -- The statement would take in the mark.
        cases more with
        | nil =>
            rw [behind] at line
            cases line ';' rfl
        | cons d more =>
            rw [behind] at line
            have new : d = '\n' := line d rfl
            rw [shape, ← List.cons_append, within, new, List.append_assoc, List.append_assoc,
              List.cons_append] at free
            exact absurd free (not_free_tidy marked front (more ++ [';']))
      · obtain ⟨above, further⟩ := ih behind (unheld.suffix (List.suffix_append st tail))
        exact ⟨tidy st ++ above, by rw [tidyAll_append_of_some found, further, List.append_assoc]⟩

/-- Tidying leaves every mark the last thing on its line. -/
theorem last_tidyAll : Region.Last text → Unheld text → Region.Last (tidyAll text) := by
  induction text using tidyAll_induction with
  | nil => exact fun last _ => last
  | char c tail none ih =>
      intro last unheld front mark rest split marked
      cases front with
      | nil =>
          have starts : mark <+: tidyAll (c :: tail) := ⟨rest, split.symm⟩
          obtain ⟨behind, whole⟩ := prefix_of_prefix_tidyAll (not_mem_mark marked).1 starts
          rw [← whole, tidyAll_mark_append marked, List.nil_append] at split
          have tidied : tidyAll behind = rest := List.append_cancel_left split
          have head : rest.head? = behind.head? := by rw [← tidied, head?_tidyAll]
          rw [head]
          exact last [] mark behind whole.symm (marked.congr head)
      | cons d front =>
          rw [tidyAll_cons_of_none none] at split
          exact ih (last.suffix (List.suffix_cons c tail)) (unheld.suffix (List.suffix_cons c tail))
            front mark rest (List.cons.inj split).2 marked
  | statement st tail found ih =>
      intro last unheld front mark rest split marked
      obtain ⟨body, other, shape, whole, clear⟩ := exists_of_statement? found
      have free := unheld _ List.suffix_rfl st found
      obtain ⟨inside, ends⟩ := exists_tidy_concat ('@' :: body)
      rw [List.cons_append, ← shape] at ends
      rw [tidyAll_append_of_some found, ends, List.append_assoc, List.singleton_append] at split
      rcases append_cons_eq_append (not_mem_mark marked).2 split with
        ⟨more, within, behind⟩ | ⟨more, rfl, behind⟩
      · -- The mark would stand in the tidied statement.
        rw [ends, within] at free
        refine absurd (marked.congr ?_) (free front mark (more ++ [';']) (by simp))
        rw [behind]
        cases more <;> rfl
      · exact ih (last.suffix (List.suffix_append st tail))
          (unheld.suffix (List.suffix_append st tail)) more mark rest behind marked

end Marks

end Apply

namespace Region

/-- Tidying the statements and separating the marks leaves every mark alone on its line, and all
that stood below the line of a mark below it, if no statement takes in a mark. -/
theorem alone_separate_tidyAll {text : Text} (last : Last text)
    (blanks : ∀ c ∈ text, isBlank c = true → c = '\n' ∨ isPadding c = true)
    (unheld : Apply.Unheld text) :
    Alone (separate (Apply.tidyAll text)) ∧
      ∀ front mark below, text = front ++ (mark ++ '\n' :: below) → MarkAt mark ('\n' :: below) →
        ∃ above, separate (Apply.tidyAll text) =
          above ++ (mark ++ '\n' :: separate (Apply.tidyAll below)) := by
  have tidied : ∀ c ∈ Apply.tidyAll text, isBlank c = true → c = '\n' ∨ isPadding c = true := by
    intro c member blank
    rcases Apply.mem_tidyAll member with kept | rfl
    · exact blanks c kept blank
    · exact Or.inr rfl
  refine ⟨alone_separate (Apply.last_tidyAll last unheld) tidied, ?_⟩
  intro front mark below split marked
  obtain ⟨before, passed⟩ := Apply.exists_tidyAll_append_mark marked (by simp) split unheld
  have line : Apply.tidyAll ('\n' :: below) = '\n' :: Apply.tidyAll below :=
    Apply.tidyAll_cons_of_not_keyword (Apply.not_keyword_prefix_of_ne (by decide) below)
  rw [passed] at tidied
  obtain ⟨above, ended⟩ := exists_separate_append_mark marked fun c member =>
    tidied c (List.mem_append_left _ member)
  refine ⟨above, ?_⟩
  rw [passed, line, ← List.append_assoc, separate_append_cons, ended, List.append_assoc]

/-- What stands behind the mark that a text begins with. -/
def behindMark? (text : Text) : Option Text :=
  match Text.after? "// #endregion".toList text, Text.after? "// #region STYLE #".toList text with
  | some rest, _ => some rest
  | none, some more => some (more.dropWhile Char.isDigit)
  | none, none => none

theorem behindMark?_append {mark rest : Text} (marked : MarkAt mark rest) :
    behindMark? (mark ++ rest) = some rest := by
  cases marked with
  | closing => rw [behindMark?, Text.after?_append]
  | @opening digits _ numbered decimal whole =>
      have other : Text.after? "// #endregion".toList
          ("// #region STYLE #".toList ++ digits ++ rest) = none := rfl
      have stops : rest.dropWhile Char.isDigit = rest := by
        cases rest with
        | nil => rfl
        | cons c rest => exact List.dropWhile_cons_of_neg (by simp [whole c rfl])
      rw [behindMark?, other, List.append_assoc, Text.after?_append]
      dsimp only
      rw [List.dropWhile_append_of_pos decimal, stops]

/-- Whether every mark of a text is the last thing on its line. -/
def isLast (text : Text) : Bool :=
  text.tails.all fun tail => (behindMark? tail).all fun rest => rest.head?.all (· == '\n')

def isFree (text : Text) : Bool :=
  text.tails.all fun tail => (behindMark? tail).isNone

theorem last_of_isLast {text : Text} (checked : isLast text = true) : Last text := by
  intro front mark rest split marked c first
  have here := List.all_eq_true.mp checked (mark ++ rest)
    ((List.mem_tails _ _).mpr ⟨front, split.symm⟩)
  rw [behindMark?_append marked, Option.all_some, Option.mem_def.mp first, Option.all_some] at here
  exact beq_iff_eq.mp here

theorem free_of_isFree {text : Text} (checked : isFree text = true) : Free text := by
  intro front mark rest split marked
  have here := List.all_eq_true.mp checked (mark ++ rest)
    ((List.mem_tails _ _).mpr ⟨front, split.symm⟩)
  rw [behindMark?_append marked] at here
  cases here

def isUnheld (text : Text) : Bool :=
  text.tails.all fun rest => (Apply.statement? rest).all fun statement =>
    isFree (Apply.tidy statement)

theorem unheld_of_isUnheld {text : Text} (checked : isUnheld text = true) : Apply.Unheld text := by
  intro rest suffix statement found
  have here := List.all_eq_true.mp checked rest ((List.mem_tails _ _).mpr suffix)
  rw [found, Option.all_some] at here
  exact free_of_isFree here

/-- A text as laying out leaves it: a mark was pulled up to the end of a line, and a class was taken
for a property. -/
def pulled : Text :=
  "// #region STYLE #1\n.a \x7b\n  @apply hover:  b\n    c; // #endregion\n  d: e;\n\x7d".toList

/-- The closing mark gets a line of its own, in front of what stood on the line below it. -/
theorem alone_separate_tidyAll_pulled :
    Alone (separate (Apply.tidyAll pulled)) ∧
      ∃ above, separate (Apply.tidyAll pulled) = above ++ ("// #endregion".toList ++
        '\n' :: separate (Apply.tidyAll "  d: e;\n\x7d".toList)) := by
  have last : Last pulled := last_of_isLast (by decide +kernel)
  have unheld : Apply.Unheld pulled := unheld_of_isUnheld (by decide +kernel)
  have spaces : (pulled.all fun c => !isBlank c || c == '\n' || isPadding c) = true := by
    decide +kernel
  have blanks : ∀ c ∈ pulled, isBlank c = true → c = '\n' ∨ isPadding c = true := by
    intro c member blank
    have here := List.all_eq_true.mp spaces c member
    simpa [blank] using here
  obtain ⟨alone, below⟩ := alone_separate_tidyAll last blanks unheld
  exact ⟨alone, below
    "// #region STYLE #1\n.a \x7b\n  @apply hover:  b\n    c; ".toList _ _ (by decide +kernel)
    (.closing _)⟩

/-- A statement without its semicolon takes in the mark, and what follows is lost behind it. -/
example : separate (Apply.tidyAll "@apply a\n// #endregion\nb;".toList) =
    "@apply a\n// #endregion b;".toList := by decide +kernel

end Region

end NestedStyles
