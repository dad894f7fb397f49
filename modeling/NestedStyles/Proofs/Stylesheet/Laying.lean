import NestedStyles.Proofs.Stylesheet.Scanning
import NestedStyles.Proofs.Stylesheet.Shown

/-!
What laying out a stylesheet keeps of it. Whatever piece is read, what has been written differs from what
has been read in blanks alone, and blanks come and go only next to certain characters.
-/

set_option autoImplicit false

namespace NestedStyles

open Text Weave

namespace Layout

/-- That what has been read of a text and what has been written of it go together. -/
structure Aligned (whole : Text) (l : Layout) : Prop where
  whole : l.before.reverse ++ l.rest = whole
  tracks : Tracks l.before.reverse l.shown l.rest

/-- That a piece has been read behind blanks and is still to be written. -/
structure Owes (whole : Text) (start : Layout) (gap : Text) (c : Char) (more : Text) (l : Layout) :
    Prop where
  whole : l.before.reverse ++ l.rest = whole
  read : l.before.reverse = start.before.reverse ++ (gap ++ c :: more)
  blank : Blank gap
  solid : isBlank c = false
  tracks : Tracks start.before.reverse start.shown (gap ++ c :: (more ++ l.rest))

/-- That what has been written is spaced as the next piece asks for. -/
structure Fitting (start : Layout) (gap : Text) (c : Char) (ahead shown : Text) : Prop where
  same : bare shown = bare start.shown
  keeps : holdsBefore c = true → gap ≠ [] ∨ Gapped start.shown → Gapped shown
  joins : gap = [] → ¬ Gapped start.before.reverse → tightBehind start.before = true →
    tightBefore start.before c ahead = true → shown = start.shown

section Writing

variable {whole gap more : Text} {c : Char} {start l : Layout}

theorem Owes.write (owes : Owes whole start gap c more l)
    (fitting : Fitting start gap c (more ++ l.rest) l.shown) : Aligned whole (l.write (c :: more)) := by
  have joins := fitting.joins
  rw [← List.reverse_reverse start.before] at joins
  have tracks := owes.tracks.write owes.blank owes.solid fitting.same fitting.keeps
    (by simpa only [List.reverse_reverse] using joins)
  rw [← owes.read, ← shown_write] at tracks
  exact ⟨owes.whole, tracks⟩

/-- More of a piece is read. -/
theorem Owes.advance (owes : Owes whole start gap c more l) {piece rest : Text}
    (split : l.rest = piece ++ rest) : Owes whole start gap c (more ++ piece) (l.advance piece rest) := by
  have whole := owes.whole
  have tracks := owes.tracks
  rw [split] at whole tracks
  refine ⟨?_, ?_, owes.blank, owes.solid, ?_⟩
  · rw [← whole]
    simp [Layout.advance]
  · simp [Layout.advance, owes.read]
  · rw [List.append_assoc]
    exact tracks

theorem fitting_spaceIf (shown : l.shown = start.shown) {ahead : Text} {reason : Bool}
    (behind : holdsBefore c = true → gap ≠ [] → reason = true)
    (alone : reason = true → gap = [] → ¬ Gapped start.before.reverse →
      tightBehind start.before = true → tightBefore start.before c ahead = true → False) :
    Fitting start gap c ahead (l.spaceIf reason).shown := by
  cases reason with
  | true =>
      refine ⟨?_, fun _ _ => gapped_space l, ?_⟩
      · rw [← shown]
        exact (grown_space l).same
      · exact fun empty closed before after => (alone rfl empty closed before after).elim
  | false =>
      refine ⟨congrArg bare shown, ?_, fun _ _ _ _ => shown⟩
      rintro holds (blank | gapped)
      · cases behind holds blank
      · rw [← shown] at gapped
        exact gapped

/-- In front of some characters blanks are lost. -/
theorem fitting_of_eq {shown : Text} (same : shown = start.shown) (ahead : Text)
    (loose : holdsBefore c = false) : Fitting start gap c ahead shown := by
  refine ⟨congrArg bare same, ?_, fun _ _ _ _ => same⟩
  intro holds
  rw [loose] at holds
  cases holds

/-- In front of some others they come and go. -/
theorem fitting_of_bare {shown : Text} (same : bare shown = bare start.shown) (ahead : Text)
    (loose : holdsBefore c = false) (open' : ∀ before, tightBefore before c ahead = false) :
    Fitting start gap c ahead shown := by
  refine ⟨same, ?_, ?_⟩
  · intro holds
    rw [loose] at holds
    cases holds
  · intro _ _ _ tight
    rw [open'] at tight
    cases tight

end Writing

section Settling

variable {whole : Text} {l next : Layout}

theorem reverse_bare (text : Text) : (bare text).reverse = text.reverse.dropWhile isBlank := by
  rw [bare, dropTrailing, List.reverse_reverse]

/-- Behind a piece that is written, blanks are read and other blanks are written. -/
theorem Aligned.settle (aligned : Aligned whole l) {blanks : Text} (blank : Blank blanks)
    (split : l.rest = blanks ++ next.rest) (before : next.before = blanks.reverse ++ l.before)
    (same : bare next.shown = bare l.shown)
    (keeps : holdsBehind (l.before.dropWhile isBlank) = true → blanks ≠ [] ∨ Gapped l.shown →
      Gapped next.shown)
    (joins : ¬ Gapped l.before.reverse → tightBehind l.before = true → startsSolid l.rest = true →
      next.shown = l.shown) : Aligned whole next := by
  have reversed : (bare l.before.reverse).reverse = l.before.dropWhile isBlank := by
    rw [reverse_bare, List.reverse_reverse]
  have read : next.before.reverse = l.before.reverse ++ blanks := by
    rw [before, List.reverse_append, List.reverse_reverse]
  have respaced : Tracks l.before.reverse next.shown l.rest := by
    refine aligned.tracks.respace same ?_ ?_
    · rw [reversed]
      exact fun holds gapped => keeps holds (Or.inr gapped)
    · rw [List.reverse_reverse]
      exact joins
  rw [split] at respaced
  refine ⟨?_, ?_⟩
  · rw [read, List.append_assoc, ← split, aligned.whole]
  · rw [read]
    refine respaced.skip blank ?_
    by_cases none : blanks = []
    · exact Or.inl none
    · rw [reversed]
      cases holds : holdsBehind (l.before.dropWhile isBlank) with
      | false => exact Or.inr (Or.inr rfl)
      | true => exact Or.inr (Or.inl (keeps holds (Or.inl none)))

theorem skipBlanks_eq (l : Layout) :
    l.skipBlanks = l.advance (l.rest.takeWhile isBlank) (l.rest.dropWhile isBlank) := by
  rw [skipBlanks, List.span_eq_takeWhile_dropWhile]

theorem solid_of_skipBlanks {c : Char} {rest : Text} (split : l.skipBlanks.rest = c :: rest) :
    isBlank c = false := by
  have ahead : l.rest.dropWhile isBlank = c :: rest := by rw [← split, skipBlanks_eq]; rfl
  have head := List.head?_dropWhile_not isBlank l.rest
  rw [ahead] at head
  simpa using head

theorem keepBreaks_eq (style : PageStyle) (l : Layout) :
    l.keepBreaks style = { l.skipBlanks with
      page := l.page.newlines (keptBreaks style ((l.rest.takeWhile isBlank).count '\n')) } := by
  rw [keepBreaks, skipBlanks_eq]
  rfl

theorem before_keepBreaks (style : PageStyle) (l : Layout) :
    (l.keepBreaks style).before = (l.rest.takeWhile isBlank).reverse ++ l.before := by
  rw [keepBreaks_eq, skipBlanks_eq]
  rfl

theorem rest_keepBreaks (style : PageStyle) (l : Layout) :
    (l.keepBreaks style).rest = l.rest.dropWhile isBlank := by
  rw [keepBreaks_eq, skipBlanks_eq]
  rfl

theorem blank_takeWhile (text : Text) : Blank (text.takeWhile isBlank) :=
  fun _ member => List.mem_takeWhile_imp member

theorem takeWhile_of_startsSolid {text : Text} (solid : startsSolid text = true) :
    text.takeWhile isBlank = [] := by
  cases text with
  | nil => rfl
  | cons c rest =>
      have solid : isBlank c = false := by simpa [startsSolid] using solid
      exact List.takeWhile_cons_of_neg (by simp [solid])

theorem eq_nil_of_startsSolid {gap rest : Text} (blank : Blank gap)
    (solid : startsSolid (gap ++ rest) = true) : gap = [] := by
  cases gap with
  | nil => rfl
  | cons c gap =>
      have solid : isBlank c = false := by simpa [startsSolid] using solid
      rw [blank c List.mem_cons_self] at solid
      cases solid

/-- Blanks are passed over where they may be lost. -/
theorem Aligned.skipBlanks (aligned : Aligned whole l)
    (loose : holdsBehind (l.before.dropWhile isBlank) = false) : Aligned whole l.skipBlanks := by
  rw [skipBlanks_eq]
  refine aligned.settle (blank_takeWhile l.rest) List.takeWhile_append_dropWhile.symm rfl rfl ?_ ?_
  · intro holds
    rw [loose] at holds
    cases holds
  · exact fun _ _ _ => rfl

theorem grown_keepBreaks (style : PageStyle) (l : Layout) : Grown l (l.keepBreaks style) := by
  rw [keepBreaks_eq]
  have grown := grown_newlines (keptBreaks style ((l.rest.takeWhile isBlank).count '\n')) l
  exact ⟨grown.same, grown.gapped⟩

/-- Blanks are passed over, but for line breaks. -/
theorem Aligned.keepBreaks (aligned : Aligned whole l) (style : PageStyle)
    (keeps : holdsBehind (l.before.dropWhile isBlank) = true → l.rest.takeWhile isBlank ≠ [] →
      Gapped (l.keepBreaks style).shown) : Aligned whole (l.keepBreaks style) := by
  have grown := grown_keepBreaks style l
  refine aligned.settle (blank_takeWhile l.rest) ?_ (before_keepBreaks style l) grown.same ?_ ?_
  · rw [rest_keepBreaks, List.takeWhile_append_dropWhile]
  · rintro holds (blanks | gapped)
    · exact keeps holds blanks
    · exact grown.gapped gapped
  · intro _ _ solid
    have none : (l.rest.takeWhile isBlank).count '\n' = 0 := by
      rw [takeWhile_of_startsSolid solid]
      rfl
    rw [keepBreaks_eq, none, keptBreaks, Nat.zero_min]
    rfl

theorem gapped_keepBreaks {style : PageStyle} (break' : '\n' ∈ l.rest.takeWhile isBlank) :
    Gapped (l.keepBreaks style).shown := by
  have some : keptBreaks style ((l.rest.takeWhile isBlank).count '\n') ≠ 0 := by
    have count := List.count_pos_iff.mpr break'
    rw [keptBreaks]
    omega
  rw [keepBreaks_eq]
  exact gapped_newlines some l.skipBlanks

/-- Behind a brace, a semicolon, a comma or a colon anything may happen to blanks. -/
theorem Aligned.settleFree (aligned : Aligned whole l) {c : Char} {before : Text}
    (last : l.before = c :: before) (free : c ∈ ['{', '}', ';', ',', ':'])
    (passed : next.before = l.skipBlanks.before) (rest : next.rest = l.skipBlanks.rest)
    (same : bare next.shown = bare l.shown) : Aligned whole next := by
  rw [skipBlanks_eq] at passed rest
  have loose : holdsBehind (l.before.dropWhile isBlank) = false ∧ tightBehind l.before = false := by
    rw [last]
    simp only [List.mem_cons, List.not_mem_nil, or_false] at free
    rcases free with rfl | rfl | rfl | rfl | rfl <;> exact ⟨rfl, rfl⟩
  refine aligned.settle (blank_takeWhile l.rest) ?_ passed same ?_ ?_
  · rw [rest]
    exact List.takeWhile_append_dropWhile.symm
  · intro holds
    rw [loose.1] at holds
    cases holds
  · intro _ tight
    rw [loose.2] at tight
    cases tight

end Settling

end Layout

end NestedStyles
