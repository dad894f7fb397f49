import NestedStyles.Proofs.Stylesheet.LayingPieces
import NestedStyles.Proofs.Stylesheet.Printing

/-!
Laying out keeps a stylesheet but for blanks. Every piece is laid out and what is written stays woven
with what is read, so the whole is; what becomes of the blanks is said by `Weave.Woven`.
-/

set_option autoImplicit false

namespace NestedStyles

open Text Weave

theorem Text.replace_self (c : Char) (text : Text) : Text.replace [c] [c] text = text := by
  rw [replace]
  induction text with
  | nil => rfl
  | cons d rest ih =>
      rw [substitute]
      split
      · rename_i front
        obtain ⟨more, same⟩ := List.isPrefixOf_iff_prefix.mp front
        rw [← (List.cons.inj same).1]
        exact congrArg (c :: ·) ih
      · rw [ih]

namespace Layout

/-- That a stylesheet has no variables, breaks its lines with line feeds only and does not end in the
middle of a piece. -/
structure Layable (text : Text) : Prop where
  dollar : '$' ∉ text
  breaks : ∀ c ∈ text, Scan.endsLineComment c = true → c = '\n'
  escapes : text.getLast? ≠ some '\\'
  names : text.getLast? ≠ some '@'

/-- A stylesheet that ends with a rule or a line has a whole piece at its end. -/
theorem layable_of_getLast? {text : Text}
    (plain : ∀ c ∈ ['$', '\r', '\u2028', '\u2029'], c ∉ text)
    (ends : ∀ c, text.getLast? = some c → c = '}' ∨ c = '\n') : Layable text := by
  simp only [List.forall_mem_cons] at plain
  refine ⟨plain.1, ?_, ?_, ?_⟩
  · intro c member breaks
    rw [Scan.endsLineComment, Bool.or_eq_true, Bool.or_eq_true, Bool.or_eq_true, beq_iff_eq,
      beq_iff_eq, beq_iff_eq, beq_iff_eq] at breaks
    rcases breaks with ((rfl | rfl) | line) | paragraph
    · rfl
    · exact absurd member plain.2.1
    · have same : c = '\u2028' := by rw [← Char.ofNat_toNat c, line]
      exact absurd (same ▸ member) plain.2.2.1
    · have same : c = '\u2029' := by rw [← Char.ofNat_toNat c, paragraph]
      exact absurd (same ▸ member) plain.2.2.2.1
  · intro last
    have other := ends _ last
    simp at other
  · intro last
    have other := ends _ last
    simp at other

section Piece

variable {whole gap more : Text} {start l : Layout} {c : Char}

theorem mem_whole_of_rest (owes : Owes whole start gap c more l) {d : Char} (member : d ∈ l.rest) :
    d ∈ whole := by
  rw [← owes.whole]
  exact List.mem_append_right _ member

theorem mem_whole (owes : Owes whole start gap c more l) : c ∈ whole := by
  rw [← owes.whole, owes.read]
  simp

theorem exists_ite {p : Prop} [Decidable p] {left right : Except LayoutFault Layout}
    {good : Layout → Prop} (pos : p → ∃ next, left = .ok next ∧ good next)
    (neg : ¬ p → ∃ next, right = .ok next ∧ good next) :
    ∃ next, (if p then left else right) = .ok next ∧ good next := by
  by_cases holds : p
  · rw [if_pos holds]
    exact pos holds
  · rw [if_neg holds]
    exact neg holds

/-- A piece that begins no larger one stands for itself, and a larger one is laid out with it. -/
theorem exists_piece {afterBlank : Bool} {previous : Text} (style : PageStyle)
    (layable : Layable whole) (meets : Meets whole start gap c more l)
    (behind : afterBlank = true ↔ gap ≠ []) (flat : l.insideMap = false) (plain : previous ≠ ['$'])
    (alone : (afterBlank || isQuote previous) = true → gap = [] → ¬ Gapped start.before.reverse →
      tightBehind start.before = false) :
    ∃ next, l.piece style afterBlank previous (c :: more) = .ok next ∧ Laid whole l next ∧
      (isQuote (c :: more) = true → next.Quoted) := by
  have owes := meets.toOwes
  have reason : gap ≠ [] → (afterBlank || isQuote previous) = true := by
    intro blanks
    rw [behind.mpr blanks, Bool.true_or]
  have only {d : Char} (same : c :: more = [d]) : c = d ∧ more = [] := List.cons.inj same
  by_cases quote : isQuote (c :: more) = true
  · have marks := quote
    rw [isQuote, Bool.or_eq_true, beq_iff_eq, beq_iff_eq] at marks
    rcases marks with mark | mark
    all_goals
      obtain ⟨rfl, rfl⟩ := only mark
      obtain ⟨next, made, laid, quoted⟩ :=
        exists_quotation style meets quote reason alone layable.escapes
      exact ⟨next, made, laid, fun _ => quoted⟩
  suffices ∃ next, l.piece style afterBlank previous (c :: more) = .ok next ∧ Laid whole l next by
    obtain ⟨next, made, laid⟩ := this
    exact ⟨next, made, laid, fun marks => absurd marks quote⟩
  rw [piece]
  refine exists_ite (fun opens => ?_) fun _ => ?_
  · obtain ⟨rfl, rfl⟩ := only opens.1
    exact ⟨_, rfl, laid_blockComment style meets opens.2⟩
  refine exists_ite (fun opens => ?_) fun _ => ?_
  · obtain ⟨rfl, rfl⟩ := only opens.1
    refine ⟨_, rfl, laid_lineComment style meets opens.2 fun d member => ?_⟩
    exact layable.breaks d (mem_whole_of_rest owes member)
  refine exists_ite (fun dollar => ?_) fun _ => ?_
  · obtain ⟨rfl, rfl⟩ := only dollar
    exact absurd (mem_whole owes) layable.dollar
  refine exists_ite (fun sign => ?_) fun _ => ?_
  · obtain ⟨rfl, rfl⟩ := only sign
    exact exists_atRule meets behind layable.escapes layable.names
  refine exists_ite (fun opens => ?_) fun _ => ?_
  · obtain ⟨rfl, rfl⟩ := only opens.1
    exact exists_enclosed meets behind layable.escapes _
  refine exists_ite (fun sign => ?_) fun _ => ?_
  · obtain ⟨rfl, rfl⟩ := only sign
    exact ⟨_, rfl, laid_openBrace style previous meets⟩
  refine exists_ite (fun sign => ?_) fun _ => ?_
  · obtain ⟨rfl, rfl⟩ := only sign
    exact ⟨_, rfl, laid_closeBrace style previous meets⟩
  refine exists_ite (fun sign => ?_) fun _ => ?_
  · obtain ⟨rfl, rfl⟩ := only sign
    exact ⟨_, rfl, laid_colon style meets⟩
  refine exists_ite (fun marks => absurd marks quote) fun _ => ?_
  refine exists_ite (fun sign => ?_) fun _ => ?_
  · obtain ⟨rfl, rfl⟩ := only sign
    exact ⟨_, rfl, laid_semicolon style meets⟩
  refine exists_ite (fun sign => ?_) fun _ => ?_
  · obtain ⟨rfl, rfl⟩ := only sign
    exact exists_openParen meets behind plain layable.escapes
  refine exists_ite (fun sign => ?_) fun _ => ?_
  · obtain ⟨rfl, rfl⟩ := only sign
    exact ⟨_, rfl, laid_closeParen meets flat⟩
  refine exists_ite (fun sign => ?_) fun _ => ?_
  · obtain ⟨rfl, rfl⟩ := only sign
    exact ⟨_, rfl, laid_comma style meets⟩
  refine exists_ite (fun joins => ?_) fun _ => ?_
  · rw [isCombinator, Bool.and_eq_true, Bool.and_eq_true, Bool.or_eq_true, Bool.or_eq_true,
      beq_iff_eq, beq_iff_eq, beq_iff_eq] at joins
    rcases joins.1.1 with (sign | sign) | sign
    all_goals
      obtain ⟨rfl, rfl⟩ := only sign
      exact ⟨_, rfl, laid_combinator meets (by decide)⟩
  refine exists_ite (fun sign => ?_) fun _ => ?_
  · obtain ⟨rfl, rfl⟩ := only sign
    exact ⟨_, rfl, laid_sign meets rfl⟩
  refine exists_ite (fun sign => ?_) fun _ => ?_
  · obtain ⟨rfl, rfl⟩ := only sign
    refine ⟨_, rfl, laid_spaceIf meets (fun _ => behind.mpr) ?_⟩
    exact fun blank empty _ _ _ => behind.mp blank empty
  refine exists_ite (fun sign => ?_) fun _ => ?_
  · obtain ⟨rfl, rfl⟩ := only sign
    exact ⟨_, rfl, laid_equals meets⟩
  refine exists_ite (fun sign => ?_) fun _ => ?_
  · obtain ⟨rfl, rfl⟩ := only sign.1
    exact ⟨_, rfl, laid_exclamation meets⟩
  · exact ⟨_, rfl, laid_plain meets reason alone⟩

end Piece

section Run

variable {whole : Text} {l : Layout}

/-- What holds between two pieces. -/
structure Settled (whole : Text) (l : Layout) : Prop where
  aligned : Aligned whole l
  flat : l.insideMap = false
  plain : l.last ≠ ['$']
  quoted : isQuote l.last = true → l.Quoted

theorem head?_any_isBlank (text : Text) :
    text.head?.any isBlank = true ↔ text.takeWhile isBlank ≠ [] := by
  cases text with
  | nil => simp
  | cons c rest =>
      cases blank : isBlank c <;> simp [blank]

/-- A step lays out one piece. -/
theorem exists_step (style : PageStyle) (layable : Layable whole) (settled : Settled whole l)
    {c : Char} {more rest : Text} (split : l.skipBlanks.rest = c :: (more ++ rest)) :
    ∃ next, ({ l.skipBlanks.advance (c :: more) rest with last := c :: more } : Layout).piece style
        (l.rest.head?.any isBlank) l.last (c :: more) = .ok next ∧
      Settled whole next ∧ next.rest.length < l.rest.length := by
  let read : Layout := { l.skipBlanks.advance (c :: more) rest with last := c :: more }
  have ahead : l.rest = l.rest.takeWhile isBlank ++ c :: (more ++ rest) := by
    have behind : l.rest.dropWhile isBlank = c :: (more ++ rest) := by
      rw [← split, skipBlanks_eq]
      rfl
    rw [← behind, List.takeWhile_append_dropWhile]
  have before : read.before =
      more.reverse ++ c :: ((l.rest.takeWhile isBlank).reverse ++ l.before) := by
    show (c :: more).reverse ++ l.skipBlanks.before = _
    rw [skipBlanks_eq]
    simp [advance]
  have shown : read.shown = l.shown := by
    show l.skipBlanks.shown = l.shown
    rw [skipBlanks_eq]
    rfl
  have meets : Meets whole l (l.rest.takeWhile isBlank) c more read :=
    settled.aligned.meets (blank_takeWhile l.rest) (solid_of_skipBlanks split) ahead before shown
  have flat : read.insideMap = false := by
    rw [← settled.flat, show read.insideMap = l.skipBlanks.insideMap from rfl, skipBlanks_eq]
    rfl
  have alone : (l.rest.head?.any isBlank || isQuote l.last) = true → l.rest.takeWhile isBlank = [] →
      ¬ Gapped l.before.reverse → tightBehind l.before = false := by
    intro reason empty closed
    have blank : l.rest.head?.any isBlank = false := by
      rw [← Bool.not_eq_true, head?_any_isBlank, not_not]
      exact empty
    rw [blank, Bool.false_or] at reason
    rcases settled.quoted reason with none | gapped | loose
    · rw [none] at ahead
      cases ahead
    · exact absurd gapped closed
    · exact loose
  obtain ⟨next, made, laid, quoted⟩ := exists_piece style layable meets
    (head?_any_isBlank l.rest) flat settled.plain alone
  have last : next.last = c :: more := laid.onward.last
  refine ⟨next, made, ⟨laid.aligned, laid.onward.insideMap.trans flat, ?_, ?_⟩, ?_⟩
  · rw [last]
    intro dollar
    obtain ⟨rfl, -⟩ := List.cons.inj dollar
    exact layable.dollar (mem_whole meets.toOwes)
  · rw [last]
    exact quoted
  · have shorter : next.rest.length ≤ rest.length := laid.onward.rest.length_le
    rw [ahead]
    simp only [List.length_append, List.length_cons]
    omega

/-- A bound on the characters that are still to be read is enough to read them all. -/
theorem exists_run (style : PageStyle) (layable : Layable whole) (bound : Nat) :
    ∀ l, Settled whole l → l.rest.length ≤ bound →
      ∃ done, run style bound l = .ok done ∧ Rewoven whole done.shown := by
  induction bound with
  | zero =>
      intro l settled short
      have empty : l.rest = [] := List.length_eq_zero_iff.mp (Nat.le_zero.mp short)
      refine ⟨l, rfl, ?_⟩
      rw [← settled.aligned.whole]
      exact settled.aligned.tracks.rewoven (empty ▸ blank_nil)
  | succ bound ih =>
      intro l settled short
      have step (c : Char) (more rest : Text) (split : l.skipBlanks.rest = c :: (more ++ rest)) :
          ∃ done, (do
            let next ← ({ l.skipBlanks.advance (c :: more) rest with last := c :: more } :
              Layout).piece style (l.rest.head?.any isBlank) l.skipBlanks.last (c :: more)
            run style bound next) = .ok done ∧ Rewoven whole done.shown := by
        obtain ⟨next, made, settled, shorter⟩ := exists_step style layable settled split
        obtain ⟨done, ran, finished⟩ := ih next settled (by omega)
        have last : l.skipBlanks.last = l.last := by
          rw [skipBlanks_eq]
          rfl
        rw [last, made]
        exact ⟨done, ran, finished⟩
      rw [run]
      dsimp only
      split
      · rename_i empty
        refine ⟨l.skipBlanks, rfl, ?_⟩
        rw [skipBlanks_eq] at empty ⊢
        rw [← settled.aligned.whole]
        exact settled.aligned.tracks.rewoven (List.dropWhile_eq_nil_iff.mp empty)
      · rename_i c rest split
        exact step '\\' [c] rest split
      · rename_i c rest _ split
        exact step c [] rest split

end Run

section Whole

theorem unifyBreaks_eq {text : Text} (even : '\r' ∉ text) : unifyBreaks text = text := by
  fun_induction unifyBreaks text with
  | case1 => rfl
  | case2 rest => exact absurd List.mem_cons_self even
  | case3 c rest _ ih =>
      rw [List.mem_cons, not_or] at even
      rw [if_neg (Ne.symm even.1), ih even.2]

theorem firstBreak?_getD {text : Text} (even : '\r' ∉ text) :
    (firstBreak? text).getD ['\n'] = ['\n'] := by
  fun_induction firstBreak? text with
  | case1 => rfl
  | case2 rest => exact absurd List.mem_cons_self even
  | case3 c rest _ breaks =>
      rw [List.mem_cons, not_or] at even
      rw [breaks.resolve_left (Ne.symm even.1)]
      rfl
  | case4 c rest _ _ ih =>
      rw [List.mem_cons, not_or] at even
      exact ih even.2

/-- A stylesheet is laid out, and what comes out is the stylesheet with other blanks. -/
theorem exists_ofText {style : PageStyle} (proper : style.Proper) {text : Text}
    (layable : Layable text) : ∃ out, ofText style text = .ok out ∧ Rewoven text out := by
  have even : '\r' ∉ text := by
    intro member
    have same := layable.breaks '\r' member (by decide)
    cases same
  have blank : Blank (text.takeWhile fun c => c == ' ' || c == '\t') := by
    intro c member
    have space := List.mem_takeWhile_imp member
    rw [Bool.or_eq_true, beq_iff_eq, beq_iff_eq] at space
    rcases space with rfl | rfl <;> decide
  have settled : Settled text { rest := text } :=
    ⟨⟨rfl, .start text⟩, rfl, (List.cons_ne_nil _ _).symm, fun quote => by cases quote⟩
  obtain ⟨done, ran, rewoven⟩ := exists_run style layable text.length _ settled le_rfl
  have written : Rewoven text done.page.plain := rewoven.respace (bare_shown done).symm
  obtain ⟨out, printed, rewoven⟩ := PageStyle.exists_text proper blank written
  refine ⟨out, ?_, rewoven⟩
  rw [ofText, unifyBreaks_eq even, firstBreak?_getD even, ran]
  show (do
    let laidOut ← style.text _ done.page
    return Text.replace ['\n'] ['\n'] laidOut) = _
  rw [printed]
  exact congrArg Except.ok (Text.replace_self '\n' out)

end Whole

end Layout

end NestedStyles
