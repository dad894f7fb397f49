import Mathlib.Data.List.Basic
import Mathlib.Data.List.TakeWhile
import NestedStyles.Text.Blank

/-!
Texts that differ in blanks alone, character by character.

A weave lists the characters that are not blank, each with the blanks in front of it in the one text and
in the other. Between some characters blanks are kept and between others none are added; which, is said
by `holds` and `tight`. `Tracks` is what is known while the second text is still being written: the first
text has been read up to some point, and the blanks at the ends of both may still grow.
-/

set_option autoImplicit false

namespace NestedStyles

namespace Text

def Blank (text : Text) : Prop :=
  ∀ c ∈ text, isBlank c = true

instance (text : Text) : Decidable (Blank text) :=
  decidable_of_iff (text.all isBlank = true) List.all_eq_true

theorem blank_nil : Blank [] := fun _ member => absurd member List.not_mem_nil

theorem Blank.append {front back : Text} (first : Blank front) (second : Blank back) :
    Blank (front ++ back) := by
  intro c member
  exact (List.mem_append.mp member).elim (first c) (second c)

theorem Blank.widen {front back more : Text} {d : Char} (blank : Blank (front ++ d :: back))
    (blanks : Blank more) : Blank (front ++ d :: (more ++ back)) := by
  intro c member
  simp only [List.mem_append, List.mem_cons] at member
  rcases member with inside | rfl | inside | inside
  · exact blank c (List.mem_append_left _ inside)
  · exact blank c (List.mem_append_right _ List.mem_cons_self)
  · exact blanks c inside
  · exact blank c (List.mem_append_right _ (List.mem_cons_of_mem _ inside))

def withoutBlanks (text : Text) : Text :=
  text.filter fun c => !isBlank c

theorem withoutBlanks_append (front back : Text) :
    withoutBlanks (front ++ back) = withoutBlanks front ++ withoutBlanks back :=
  List.filter_append front back

theorem withoutBlanks_cons {c : Char} (solid : isBlank c = false) (text : Text) :
    withoutBlanks (c :: text) = c :: withoutBlanks text :=
  List.filter_cons_of_pos (by rw [solid]; rfl)

theorem withoutBlanks_of_blank {gap : Text} (blank : Blank gap) : withoutBlanks gap = [] := by
  rw [withoutBlanks, List.filter_eq_nil_iff]
  intro c member
  rw [blank c member]
  exact Bool.false_ne_true

theorem isBlank_eq_false {c : Char} (low : 65 ≤ c.toNat) (high : c.toNat ≤ 122) :
    isBlank c = false := by
  simp only [isBlank, Bool.or_eq_false_iff, Bool.and_eq_false_iff, decide_eq_false_iff_not,
    beq_eq_false_iff_ne]
  omega

theorem isBlank_toLower (c : Char) : isBlank c.toLower = isBlank c := by
  unfold Char.toLower
  split
  · rename_i upper
    have low : 65 ≤ c.val.toNat := UInt32.le_iff_toNat_le.mp upper.1
    have high : c.val.toNat ≤ 90 := UInt32.le_iff_toNat_le.mp upper.2
    have code : (c.val + ('a'.val - 'A'.val)).toNat = c.val.toNat + 32 := by
      rw [UInt32.toNat_add, show ('a'.val - 'A'.val).toNat = 32 from rfl]
      omega
    rw [isBlank_eq_false low (show c.val.toNat ≤ 122 by omega)]
    refine isBlank_eq_false ?_ ?_
    · show 65 ≤ (c.val + ('a'.val - 'A'.val)).toNat
      omega
    · show (c.val + ('a'.val - 'A'.val)).toNat ≤ 122
      omega
  · rfl

/-- A text without the blanks at its end. -/
def bare (text : Text) : Text :=
  dropTrailing isBlank text

/-- A text that ends in a blank, or is empty. -/
def Gapped (text : Text) : Prop :=
  ∀ c, text.getLast? = some c → isBlank c = true

theorem exists_eq_bare_append (text : Text) : ∃ gap, Blank gap ∧ text = bare text ++ gap := by
  refine ⟨(text.reverse.takeWhile isBlank).reverse, ?_, ?_⟩
  · intro c member
    exact List.mem_takeWhile_imp (List.mem_reverse.mp member)
  · rw [bare, dropTrailing, ← List.reverse_append, List.takeWhile_append_dropWhile,
      List.reverse_reverse]

theorem bare_append {gap : Text} (blank : Blank gap) (text : Text) :
    bare (text ++ gap) = bare text := by
  rw [bare, bare, dropTrailing, dropTrailing, List.reverse_append,
    List.dropWhile_append_of_pos fun c member => blank c (List.mem_reverse.mp member)]

theorem isBlank_of_getLast?_bare {text : Text} {c : Char} (last : (bare text).getLast? = some c) :
    isBlank c = false := by
  rw [bare, dropTrailing, List.getLast?_reverse] at last
  have head := List.head?_dropWhile_not isBlank text.reverse
  rw [last] at head
  simpa using head

theorem bare_of_last {text : Text} {c : Char} (solid : isBlank c = false) :
    bare (text ++ [c]) = text ++ [c] := by
  rw [bare, dropTrailing, List.reverse_append, List.reverse_singleton, List.singleton_append,
    List.dropWhile_cons_of_neg (by simp [solid]), List.reverse_cons, List.reverse_reverse]

end Text

/-- A character, and the blanks in front of it in two texts. -/
structure Stitch where
  read : Text
  written : Text
  char : Char

namespace Weave

open Text

/-- A text of characters with the given blanks in front of them. -/
def side (gap : Stitch → Text) (stitches : List Stitch) : Text :=
  stitches.flatMap fun stitch => gap stitch ++ [stitch.char]

@[simp] theorem side_nil (gap : Stitch → Text) : side gap [] = [] := rfl

theorem side_cons (gap : Stitch → Text) (stitch : Stitch) (rest : List Stitch) :
    side gap (stitch :: rest) = gap stitch ++ stitch.char :: side gap rest := by
  rw [side, List.flatMap_cons, List.append_assoc]
  rfl

theorem side_append (gap : Stitch → Text) (front back : List Stitch) :
    side gap (front ++ back) = side gap front ++ side gap back :=
  List.flatMap_append

theorem withoutBlanks_side {gap : Stitch → Text} {stitches : List Stitch}
    (blank : ∀ stitch ∈ stitches, Blank (gap stitch))
    (solid : ∀ stitch ∈ stitches, isBlank stitch.char = false) :
    withoutBlanks (side gap stitches) = stitches.map Stitch.char := by
  induction stitches with
  | nil => rfl
  | cons stitch rest ih =>
      rw [List.forall_mem_cons] at blank solid
      rw [side_cons, withoutBlanks_append, withoutBlanks_of_blank blank.1,
        withoutBlanks_cons solid.1, ih blank.2 solid.2]
      rfl

/-- The text that was read. -/
def source (stitches : List Stitch) : Text :=
  side Stitch.read stitches

/-- The text that was written. -/
def result (stitches : List Stitch) : Text :=
  side Stitch.written stitches

theorem source_cons (stitch : Stitch) (rest : List Stitch) :
    source (stitch :: rest) = stitch.read ++ stitch.char :: source rest :=
  side_cons _ _ _

theorem result_cons (stitch : Stitch) (rest : List Stitch) :
    result (stitch :: rest) = stitch.written ++ stitch.char :: result rest :=
  side_cons _ _ _

theorem source_append (front back : List Stitch) :
    source (front ++ back) = source front ++ source back :=
  side_append _ _ _

theorem result_append (front back : List Stitch) :
    result (front ++ back) = result front ++ result back :=
  side_append _ _ _

/-- Whether blanks behind a text are kept, given the text in reverse. -/
def holdsBehind : Text → Bool
  | [] => false
  | c :: _ => !">+~=(;:,\x7b\x7d\"'".toList.contains c

/-- Whether blanks in front of a character are kept. -/
def holdsBefore (c : Char) : Bool :=
  !">+~=)];:,\x7b\x7d".toList.contains c

/-- Whether none are added behind a text, given the text in reverse. -/
def tightBehind : Text → Bool
  | [] => false
  | '/' :: '*' :: _ => false
  | c :: _ => !";:,\x7b\x7d\"'".toList.contains c

/-- Whether none are added in front of a character, given the text before it in reverse and the text
behind it. -/
def tightBefore (before : Text) (c : Char) (ahead : Text) : Bool :=
  !"!\x7b\x7d".toList.contains c &&
    !(c == '/' && (ahead.head? == some '/' || ahead.head? == some '*')) &&
    !(c == '(' && asciiLower (before.take 4) == "htiw".toList)

/-- What is asked of a stitch, given the text read before it in reverse and the text behind it. -/
structure Fits (before : Text) (stitch : Stitch) (ahead : Text) : Prop where
  read : Blank stitch.read
  written : Blank stitch.written
  solid : isBlank stitch.char = false
  keeps : stitch.read ≠ [] → holdsBehind before = true → holdsBefore stitch.char = true →
    stitch.written ≠ []
  joins : stitch.read = [] → tightBehind before = true →
    tightBefore before stitch.char ahead = true → stitch.written = []

/-- What is asked of all stitches. -/
def Woven : Text → List Stitch → Text → Prop
  | _, [], _ => True
  | before, stitch :: rest, ahead =>
    Fits before stitch (source rest ++ ahead) ∧
      Woven (stitch.char :: (stitch.read.reverse ++ before)) rest ahead

theorem woven_append {front back : List Stitch} {ahead : Text} :
    ∀ {before : Text}, Woven before (front ++ back) ahead ↔
      Woven before front (source back ++ ahead) ∧
        Woven ((source front).reverse ++ before) back ahead := by
  induction front with
  | nil => exact fun {before} => ⟨fun woven => ⟨trivial, woven⟩, fun woven => woven.2⟩
  | cons stitch rest ih =>
      intro before
      have reversed : (source (stitch :: rest)).reverse ++ before =
          (source rest).reverse ++ (stitch.char :: (stitch.read.reverse ++ before)) := by
        simp [source_cons]
      rw [List.cons_append, Woven, Woven, ih, source_append, reversed, List.append_assoc, and_assoc]

theorem bare_side {before ahead : Text} {stitches : List Stitch}
    (woven : Woven before stitches ahead) (gap : Stitch → Text) {end' : Text} (blank : Blank end') :
    bare (side gap stitches ++ end') = side gap stitches := by
  rw [bare_append blank]
  rcases List.eq_nil_or_concat' stitches with rfl | ⟨front, last, rfl⟩
  · rfl
  · have solid := (woven_append.mp woven).2.1.solid
    rw [side_append, side_cons, ← List.append_assoc]
    exact bare_of_last solid

/-- Every text can be woven with itself. -/
theorem exists_verbatim (text : Text) :
    ∀ (gap before ahead : Text), Blank gap → ∃ stitches rest, Blank rest ∧
      gap ++ text = source stitches ++ rest ∧ gap ++ text = result stitches ++ rest ∧
      Woven before stitches (rest ++ ahead) := by
  induction text with
  | nil =>
      intro gap before ahead blank
      exact ⟨[], gap, blank, by simp [source, side], by simp [result, side], trivial⟩
  | cons c text ih =>
      intro gap before ahead blank
      cases solid : isBlank c with
      | true =>
          have longer : Blank (gap ++ [c]) :=
            blank.append fun d member => List.mem_singleton.mp member ▸ solid
          obtain ⟨stitches, rest, blank, read, written, woven⟩ := ih _ before ahead longer
          rw [List.append_assoc, List.singleton_append] at read written
          exact ⟨stitches, rest, blank, read, written, woven⟩
      | false =>
          obtain ⟨stitches, rest, ended, read, written, woven⟩ :=
        ih [] (c :: (gap.reverse ++ before)) ahead blank_nil
          rw [List.nil_append] at read written
          refine ⟨⟨gap, gap, c⟩ :: stitches, rest, ended, ?_, ?_, ?_, woven⟩
          · rw [source_cons, read]
            simp
          · rw [result_cons, written]
            simp
          · exact ⟨blank, blank, solid, fun gapped _ _ => gapped, fun tight _ _ => tight⟩

theorem Woven.reads {before ahead : Text} {stitches : List Stitch}
    (woven : Woven before stitches ahead) : ∀ stitch ∈ stitches, Blank stitch.read := by
  induction stitches generalizing before with
  | nil => exact fun stitch member => absurd member List.not_mem_nil
  | cons first rest ih =>
      intro stitch member
      rcases List.mem_cons.mp member with rfl | member
      · exact woven.1.read
      · exact ih woven.2 stitch member

/-- A text that can be split behind a character can be split so as a weave. -/
theorem exists_split {body text : Text} {gap : Text} {d : Char} (solid : isBlank d = false) (blank : Blank gap)
    {stitches : List Stitch} (reads : ∀ stitch ∈ stitches, Blank stitch.read)
    (split : source stitches ++ gap = body ++ d :: text) :
    ∃ front back, stitches = front ++ back ∧ source front = body ++ [d] ∧
      source back ++ gap = text := by
  induction stitches generalizing body with
  | nil =>
      have member : d ∈ gap := by
        have split : gap = body ++ d :: text := split
        rw [split]
        exact List.mem_append_right _ List.mem_cons_self
      rw [blank d member] at solid
      cases solid
  | cons stitch rest ih =>
      rw [List.forall_mem_cons] at reads
      rw [source_cons, List.append_assoc, List.cons_append, List.append_eq_append_iff] at split
      rcases split with ⟨between, rfl, split⟩ | ⟨between, read, split⟩
      · cases between with
        | nil =>
            obtain ⟨rfl, rfl⟩ := List.cons.inj split
            refine ⟨[stitch], rest, rfl, ?_, rfl⟩
            rw [source_cons, List.append_nil]
            rfl
        | cons e between =>
            obtain ⟨rfl, behind⟩ := List.cons.inj split
            obtain ⟨front, back, rfl, first, second⟩ := ih reads.2 behind
            refine ⟨stitch :: front, back, rfl, ?_, second⟩
            rw [source_cons, first]
            simp
      · cases between with
        | nil =>
            obtain ⟨rfl, rfl⟩ := List.cons.inj split
            refine ⟨[stitch], rest, rfl, ?_, rfl⟩
            rw [source_cons, read, List.append_nil]
            rfl
        | cons e between =>
            obtain ⟨rfl, -⟩ := List.cons.inj split
            have clear := reads.1 d (read ▸ List.mem_append_right _ List.mem_cons_self)
            rw [clear] at solid
            cases solid

def startsSolid (text : Text) : Bool :=
  text.head?.any fun c => !isBlank c

/-- What a text that was read so far and one that was written have in common, given what is still to be
read. -/
inductive Tracks : Text → Text → Text → Prop
  | mk {stitches : List Stitch} {gap spacing ahead : Text}
      (woven : Woven [] stitches (gap ++ ahead)) (blank : Blank gap) (spaced : Blank spacing)
      (keeps : gap ≠ [] → holdsBehind (source stitches).reverse = true → spacing ≠ [])
      (joins : gap = [] → tightBehind (source stitches).reverse = true →
        startsSolid ahead = true → spacing = []) :
      Tracks (source stitches ++ gap) (result stitches ++ spacing) ahead

theorem Tracks.start (text : Text) : Tracks [] [] text := by
  have empty : Tracks (source [] ++ []) (result [] ++ []) text :=
    .mk trivial blank_nil blank_nil (fun gapped => absurd rfl gapped) fun _ _ _ => rfl
  exact empty

theorem gapped_append {gap : Text} (blank : Blank gap) (nonempty : gap ≠ []) (text : Text) :
    Gapped (text ++ gap) := by
  intro c last
  rw [List.getLast?_append_of_ne_nil _ nonempty] at last
  exact blank c (List.mem_of_getLast? last)

/-- Behind a stitch only blanks make a gap. -/
theorem ne_nil_of_gapped {before ahead gap : Text} {stitches : List Stitch} (side' : Stitch → Text)
    (woven : Woven before stitches ahead) (nonempty : stitches ≠ [])
    (gapped : Gapped (side side' stitches ++ gap)) : gap ≠ [] := by
  rintro rfl
  rcases List.eq_nil_or_concat' stitches with rfl | ⟨front, last, rfl⟩
  · exact nonempty rfl
  · have solid := (woven_append.mp woven).2.1.solid
    have blank : isBlank last.char = true := by
      refine gapped last.char ?_
      rw [List.append_nil, side_append, side_cons, side_nil]
      simp
    rw [solid] at blank
    cases blank

/-- Something stands in front of where a test that fails on the empty text succeeds. -/
theorem stitches_ne_nil {test : Text → Bool} (fails : test [] = false) {stitches : List Stitch}
    (behind : test (source stitches).reverse = true) : stitches ≠ [] := by
  rintro rfl
  rw [source, side_nil, List.reverse_nil, fails] at behind
  cases behind

section Tracks

variable {x y z ahead gap : Text}

/-- A piece that is read behind blanks is written behind other blanks. -/
theorem Tracks.write {c : Char} {more : Text} (tracks : Tracks x y (gap ++ c :: (more ++ ahead)))
    (blank : Blank gap) (solid : isBlank c = false) (same : bare z = bare y)
    (keeps : holdsBefore c = true → gap ≠ [] ∨ Gapped y → Gapped z)
    (joins : gap = [] → ¬ Gapped x → tightBehind x.reverse = true →
      tightBefore x.reverse c (more ++ ahead) = true → z = y) :
    Tracks (x ++ (gap ++ c :: more)) (z ++ c :: more) ahead := by
  cases tracks with
  | @mk stitches front spacing _ woven ended spaced holds tight =>
  obtain ⟨wider, widerBlank, writes⟩ := exists_eq_bare_append z
  have same : bare z = result stitches := same.trans (bare_side woven Stitch.written spaced)
  rw [same] at writes
  obtain ⟨others, rest, restBlank, read, written, verbatim⟩ :=
    exists_verbatim more [] (c :: ((front ++ gap).reverse ++ ((source stitches).reverse ++ [])))
      ahead blank_nil
  rw [List.nil_append] at read written
  have fits : Fits ((source stitches).reverse ++ []) ⟨front ++ gap, wider, c⟩
      (source others ++ (rest ++ ahead)) := by
    rw [List.append_nil, ← List.append_assoc, ← read]
    refine ⟨ended.append blank, widerBlank, solid, ?_, ?_⟩
    · intro nonempty behind ahead
      have filled : stitches ≠ [] := stitches_ne_nil rfl behind
      have gapped : gap ≠ [] ∨ Gapped (result stitches ++ spacing) := by
        by_cases none : gap = []
        · rw [none, List.append_nil] at nonempty
          exact Or.inr (gapped_append spaced (holds nonempty behind) _)
        · exact Or.inl none
      refine ne_nil_of_gapped Stitch.written woven filled ?_
      rw [← result, ← writes]
      exact keeps ahead gapped
    · intro empty behind before
      obtain ⟨rfl, rfl⟩ := List.append_eq_nil_iff.mp empty
      have filled : stitches ≠ [] := stitches_ne_nil rfl behind
      have closed : ¬ Gapped (source stitches ++ []) := by
        intro gapped
        exact ne_nil_of_gapped Stitch.read woven filled gapped rfl
      rw [List.append_nil] at joins closed
      have kept := joins rfl closed behind before
      rw [writes] at kept
      have same : wider = spacing := List.append_cancel_left kept
      rw [same]
      exact tight rfl behind (by simp [startsSolid, solid])
  have whole : Woven [] (stitches ++ ⟨front ++ gap, wider, c⟩ :: others) (rest ++ ahead) := by
    refine woven_append.mpr ⟨?_, fits, verbatim⟩
    have same : source (⟨front ++ gap, wider, c⟩ :: others) ++ (rest ++ ahead) =
        front ++ (gap ++ c :: (more ++ ahead)) := by
      rw [source_cons, read]
      simp only [List.append_assoc, List.cons_append]
    rwa [same]
  have made : Tracks (source (stitches ++ ⟨front ++ gap, wider, c⟩ :: others) ++ rest)
      (result (stitches ++ ⟨front ++ gap, wider, c⟩ :: others) ++ rest) ahead :=
    .mk whole restBlank restBlank (fun gapped _ => gapped) fun empty _ _ => empty
  have reads : source (stitches ++ ⟨front ++ gap, wider, c⟩ :: others) ++ rest =
      source stitches ++ front ++ (gap ++ c :: more) := by
    rw [source_append, source_cons, read]
    simp only [List.append_assoc, List.cons_append]
  have writes : result (stitches ++ ⟨front ++ gap, wider, c⟩ :: others) ++ rest =
      z ++ c :: more := by
    rw [result_append, result_cons, writes, written]
    simp only [List.append_assoc, List.cons_append]
  rwa [reads, writes] at made

/-- The blanks at the end of what is written may change. -/
theorem Tracks.respace (tracks : Tracks x y ahead) (same : bare z = bare y)
    (keeps : holdsBehind (bare x).reverse = true → Gapped y → Gapped z)
    (joins : ¬ Gapped x → tightBehind x.reverse = true → startsSolid ahead = true → z = y) :
    Tracks x z ahead := by
  cases tracks with
  | @mk stitches front spacing _ woven ended spaced holds tight =>
  obtain ⟨wider, widerBlank, writes⟩ := exists_eq_bare_append z
  have same : bare z = result stitches := same.trans (bare_side woven Stitch.written spaced)
  have read : bare (source stitches ++ front) = source stitches :=
    bare_side woven Stitch.read ended
  rw [same] at writes
  rw [read] at keeps
  subst writes
  refine .mk woven ended widerBlank ?_ ?_
  · intro gapped behind
    have filled : stitches ≠ [] := stitches_ne_nil rfl behind
    have before : Gapped (result stitches ++ spacing) :=
      gapped_append spaced (holds gapped behind) _
    exact ne_nil_of_gapped Stitch.written woven filled (keeps behind before)
  · rintro rfl behind solid
    have filled : stitches ≠ [] := stitches_ne_nil rfl behind
    have closed : ¬ Gapped (source stitches ++ []) := by
      intro gapped
      exact ne_nil_of_gapped Stitch.read woven filled gapped rfl
    rw [List.append_nil] at joins closed
    have same : wider = spacing := List.append_cancel_left (joins closed behind solid)
    rw [same]
    exact tight rfl behind solid

/-- Blanks are passed over, if there is a gap already or none needs to be kept. -/
theorem Tracks.skip (tracks : Tracks x y (gap ++ ahead)) (blank : Blank gap)
    (gapped : gap = [] ∨ Gapped y ∨ holdsBehind (bare x).reverse = false) :
    Tracks (x ++ gap) y ahead := by
  cases tracks with
  | @mk stitches front spacing _ woven ended spaced holds tight =>
  have read : bare (source stitches ++ front) = source stitches :=
    bare_side woven Stitch.read ended
  rw [List.append_assoc]
  refine .mk (by rwa [List.append_assoc]) (ended.append blank) spaced ?_ ?_
  · intro nonempty behind
    have filled : stitches ≠ [] := stitches_ne_nil rfl behind
    rcases gapped with rfl | gapped | loose
    · rw [List.append_nil] at nonempty
      exact holds nonempty behind
    · exact ne_nil_of_gapped Stitch.written woven filled gapped
    · rw [read, behind] at loose
      cases loose
  · intro empty behind solid
    obtain ⟨rfl, rfl⟩ := List.append_eq_nil_iff.mp empty
    exact tight rfl behind solid

/-- Where there is a blank, there may be more. -/
theorem exists_widened {back more : Text} {d : Char} (blank : isBlank d = true)
    (blanks : Blank more) {stitches : List Stitch} {spacing : Text} (spaced : Blank spacing) :
    ∀ {front before ahead : Text}, Woven before stitches ahead →
      result stitches ++ spacing = front ++ d :: back →
      ∃ others wider, source others = source stitches ∧ Woven before others ahead ∧ Blank wider ∧
        (wider = [] ↔ spacing = []) ∧ result others ++ wider = front ++ d :: (more ++ back) := by
  induction stitches with
  | nil =>
      intro front before ahead _ split
      have split : spacing = front ++ d :: back := split
      subst split
      exact ⟨[], front ++ d :: (more ++ back), rfl, trivial, spaced.widen blanks, by simp, rfl⟩
  | cons stitch rest ih =>
      intro front before ahead woven split
      rw [result_cons, List.append_assoc, List.cons_append, List.append_eq_append_iff] at split
      rcases split with ⟨between, front_eq, split⟩ | ⟨between, written_eq, split⟩
      · -- The blank is behind the character.
        cases between with
        | nil =>
            cases split
            rw [woven.1.solid] at blank
            cases blank
        | cons c between =>
            rw [List.cons_append] at split
            obtain ⟨rfl, further⟩ := List.cons.inj split
            obtain ⟨others, wider, read, wovenRest, widerBlank, empty, written⟩ :=
              ih woven.2 further
            refine ⟨stitch :: others, wider, ?_, ⟨?_, wovenRest⟩, widerBlank, empty, ?_⟩
            · rw [source_cons, source_cons, read]
            · rw [read]
              exact woven.1
            · rw [result_cons, List.append_assoc, List.cons_append, written, front_eq]
              simp
      · -- The blank is in front of it.
        cases between with
        | nil =>
            cases split
            rw [woven.1.solid] at blank
            cases blank
        | cons c between =>
            rw [List.cons_append] at split
            obtain ⟨rfl, further⟩ := List.cons.inj split
            refine ⟨⟨stitch.read, front ++ d :: (more ++ between), stitch.char⟩ :: rest, spacing, ?_,
              ⟨⟨woven.1.read, ?_, woven.1.solid, ?_, ?_⟩, woven.2⟩, spaced, Iff.rfl, ?_⟩
            · rw [source_cons, source_cons]
            · have written := woven.1.written
              rw [written_eq] at written
              exact written.widen blanks
            · exact fun _ _ _ => by simp
            · intro empty behind before
              have none := woven.1.joins empty behind before
              rw [written_eq] at none
              exact absurd none (by simp)
            · rw [result_cons, further]
              simp

theorem Tracks.insert {front back more : Text} {d : Char} (blank : isBlank d = true)
    (blanks : Blank more) (tracks : Tracks x y ahead) (written : y = front ++ d :: back) :
    Tracks x (front ++ d :: (more ++ back)) ahead := by
  cases tracks with
  | @mk stitches front spacing _ woven ended spaced holds tight =>
  obtain ⟨others, wider, read, wovenOthers, widerBlank, empty, widened⟩ :=
    exists_widened blank blanks spaced woven written
  rw [← widened, ← read]
  refine .mk wovenOthers ended widerBlank ?_ ?_
  · intro gapped behind
    rw [read] at behind
    rw [ne_eq, empty]
    exact holds gapped behind
  · intro none behind solid
    rw [read] at behind
    exact empty.mpr (tight none behind solid)

end Tracks

/-- That a text has been written again with other blanks. -/
inductive Rewoven : Text → Text → Prop
  | mk {stitches : List Stitch} {gap spacing : Text} (woven : Woven [] stitches gap)
      (blank : Blank gap) (spaced : Blank spacing) :
      Rewoven (source stitches ++ gap) (result stitches ++ spacing)

section Rewoven

variable {x y z gap : Text}

theorem Tracks.rewoven (tracks : Tracks x y gap) (blank : Blank gap) : Rewoven (x ++ gap) y := by
  cases tracks with
  | @mk stitches front spacing _ woven ended spaced _ _ =>
  rw [List.append_assoc]
  exact .mk woven (ended.append blank) spaced

/-- The blanks at the end do not count. -/
theorem Rewoven.respace (rewoven : Rewoven x y) (same : bare z = bare y) : Rewoven x z := by
  cases rewoven with
  | @mk stitches gap spacing woven blank spaced =>
  obtain ⟨wider, widerBlank, writes⟩ := exists_eq_bare_append z
  have same : bare z = result stitches := same.trans (bare_side woven Stitch.written spaced)
  rw [writes, same]
  exact .mk woven blank widerBlank

theorem Rewoven.insert {front back more : Text} {d : Char} (blank : isBlank d = true)
    (blanks : Blank more) (rewoven : Rewoven x (front ++ d :: back)) :
    Rewoven x (front ++ d :: (more ++ back)) := by
  generalize written : front ++ d :: back = y at rewoven
  cases rewoven with
  | @mk stitches gap spacing woven ended spaced =>
  obtain ⟨others, wider, read, wovenOthers, widerBlank, -, widened⟩ :=
    exists_widened blank blanks spaced woven written.symm
  rw [← widened, ← read]
  exact .mk wovenOthers ended widerBlank

theorem Rewoven.lead {more : Text} (blanks : Blank more) (rewoven : Rewoven x y) :
    Rewoven x (more ++ y) := by
  cases rewoven with
  | @mk stitches gap spacing woven ended spaced =>
  cases stitches with
  | nil =>
      have led : Rewoven (source [] ++ gap) (result [] ++ (more ++ spacing)) :=
        .mk trivial ended (blanks.append spaced)
      exact led
  | cons stitch rest =>
      have fits : Fits [] ⟨stitch.read, more ++ stitch.written, stitch.char⟩ (source rest ++ gap) :=
        ⟨woven.1.read, blanks.append woven.1.written, woven.1.solid,
          (fun _ behind => by cases behind), fun _ behind => by cases behind⟩
      have whole :
          Woven [] (⟨stitch.read, more ++ stitch.written, stitch.char⟩ :: rest) gap :=
        ⟨fits, woven.2⟩
      have led := Rewoven.mk whole ended spaced
      rw [source_cons, result_cons] at led ⊢
      simpa only [List.append_assoc] using led

end Rewoven

end Weave

end NestedStyles
