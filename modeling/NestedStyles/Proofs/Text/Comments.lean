import Mathlib.Data.List.Infix
import NestedStyles.Text.Basic

/-!
Removing the block comments of a text. `Erases` says what a piece of a text comes to whatever is written
behind it, so that the pieces of a text can be looked at one by one: no piece may open a comment, or end
in the first half of the mark that does.
-/

set_option autoImplicit false

namespace NestedStyles

namespace Text

def opening : Text := "/*".toList

def closing : Text := "*/".toList

/-- What stands behind the first closing mark, if there is one. -/
def behindClosing? : Text → Option Text
  | '*' :: '/' :: rest => some rest
  | _ :: rest => behindClosing? rest
  | [] => none

theorem length_behindClosing?_lt (text : Text) :
    ∀ {rest}, behindClosing? text = some rest → rest.length < text.length := by
  induction text using behindClosing?.induct with
  | case1 behind =>
      intro rest found
      cases found
      simp only [List.length_cons]
      omega
  | case2 c more other ih =>
      intro rest found
      rw [behindClosing?.eq_2 _ _ other] at found
      have shorter := ih found
      rw [List.length_cons]
      omega
  | case3 =>
      intro rest found
      cases found

/-- The text without its comments, each from the leftmost opening mark up to the first closing mark
behind it. An opening mark that nothing closes stays. -/
def withoutComments : Text → Text
  | '/' :: '*' :: rest =>
    match _ : behindClosing? rest with
    | some behind => withoutComments behind
    | none => '/' :: '*' :: rest
  | c :: rest => c :: withoutComments rest
  | [] => []
termination_by text => text.length
decreasing_by
  · have shorter := length_behindClosing?_lt rest ‹_›
    simp only [List.length_cons]
    omega
  · simp only [List.length_cons]
    omega

/-- A text that opens no comment. -/
def Uncommented (text : Text) : Prop :=
  ¬ opening <:+: text

/-- A text that closes no comment. -/
def Unclosed (text : Text) : Prop :=
  ¬ closing <:+: text

instance (text : Text) : Decidable (Uncommented text) :=
  inferInstanceAs (Decidable (¬ opening <:+: text))

instance (text : Text) : Decidable (Unclosed text) :=
  inferInstanceAs (Decidable (¬ closing <:+: text))

/-- That a text comes to another one when comments are removed, and what follows it is not touched. -/
def Erases (text kept : Text) : Prop :=
  ∀ rest, withoutComments (text ++ rest) = kept ++ withoutComments rest

theorem unclosed_cons_iff {c : Char} {text : Text} :
    Unclosed (c :: text) ↔ (c = '*' → text.head? ≠ some '/') ∧ Unclosed text := by
  rw [Unclosed, Unclosed, List.infix_cons_iff, not_or]
  refine and_congr_left' ?_
  cases text with
  | nil => simp [closing]
  | cons d rest => simp [closing, List.cons_prefix_cons, eq_comm]

theorem Unclosed.cons {text : Text} (unclosed : Unclosed text) {c : Char} (star : c ≠ '*') :
    Unclosed (c :: text) :=
  unclosed_cons_iff.mpr ⟨fun same => absurd same star, unclosed⟩

theorem Unclosed.tail {c : Char} {text : Text} (unclosed : Unclosed (c :: text)) : Unclosed text :=
  (unclosed_cons_iff.mp unclosed).2

theorem Unclosed.of_infix {text part : Text} (unclosed : Unclosed text) (inside : part <:+: text) :
    Unclosed part :=
  fun closes => unclosed (closes.trans inside)

theorem unclosed_of_not_mem {text : Text} (free : '/' ∉ text) : Unclosed text :=
  fun inside => free (inside.subset (List.mem_cons_of_mem _ List.mem_cons_self))

/-- Two texts that close no comment close one together only by a slash at the front of the second. -/
theorem Unclosed.append {front back : Text} (first : Unclosed front) (second : Unclosed back)
    (apart : back.head? ≠ some '/') : Unclosed (front ++ back) := by
  induction front with
  | nil => exact second
  | cons c more ih =>
      obtain ⟨star, further⟩ := unclosed_cons_iff.mp first
      rw [List.cons_append]
      refine unclosed_cons_iff.mpr ⟨fun same => ?_, ih further⟩
      cases more with
      | nil => exact apart
      | cons d others => exact star same

theorem Unclosed.append_of_not_mem {text : Text} (unclosed : Unclosed text) {back : Text}
    (free : '/' ∉ back) : Unclosed (text ++ back) :=
  unclosed.append (unclosed_of_not_mem free) fun slash => free (List.mem_of_head? slash)

/-- A text that is one block comment: no mark but the one at its end closes it. -/
structure IsComment (text : Text) : Prop where
  opens : opening <+: text
  closes : closing <:+ text
  once : ∀ front back, text = front ++ (closing ++ back) → back = []

theorem isComment_iff {inner : Text} (apart : inner.head? ≠ some '/') :
    IsComment (opening ++ inner ++ closing) ↔ Unclosed inner := by
  constructor
  · rintro comment ⟨front, back, rfl⟩
    have last := comment.once (opening ++ front) (back ++ closing) (by simp)
    simp [closing] at last
  · intro unclosed
    have opened : Unclosed opening := by decide
    have early : Unclosed (opening ++ inner ++ ['*']) :=
      (opened.append unclosed apart).append_of_not_mem (by decide)
    refine ⟨?_, List.suffix_append _ closing, ?_⟩
    · rw [List.append_assoc]
      exact List.prefix_append opening _
    · intro front back split
      by_contra filled
      -- Without its last character the text would still close a comment.
      obtain ⟨more, c, rfl⟩ := List.eq_nil_or_concat' back |>.resolve_left filled
      have whole : opening ++ inner ++ ['*'] ++ ['/'] = front ++ closing ++ more ++ [c] := by
        simpa [closing] using split
      exact early ⟨front, more, (List.append_inj' whole rfl).1.symm⟩

theorem behindClosing?_append {inner : Text} (unclosed : Unclosed inner) (rest : Text) :
    behindClosing? (inner ++ (closing ++ rest)) = some rest := by
  induction inner with
  | nil => rfl
  | cons c more ih =>
      have apart : ∀ behind, c = '*' → more ++ (closing ++ rest) = '/' :: behind → False := by
        rintro behind rfl same
        cases more with
        | nil => cases same
        | cons d others =>
            cases same
            exact unclosed ⟨[], others, rfl⟩
      rw [List.cons_append, behindClosing?.eq_2 _ _ apart, ih unclosed.tail]

theorem withoutComments_nil : withoutComments [] = [] := by
  rw [withoutComments]

/-- A comment is removed whole if nothing in it closes it early. -/
theorem erases_comment {inner : Text} (unclosed : Unclosed inner) :
    Erases (opening ++ inner ++ closing) [] := by
  intro rest
  have opened : opening ++ inner ++ closing ++ rest = '/' :: '*' :: (inner ++ (closing ++ rest)) := by
    rw [List.append_assoc, List.append_assoc]
    rfl
  rw [opened, withoutComments]
  split
  · rename_i behind found
    rw [behindClosing?_append unclosed] at found
    cases found
    rfl
  · rename_i missing
    rw [behindClosing?_append unclosed] at missing
    cases missing

example : withoutComments "a/*/ x */b/*".toList = "ab/*".toList := by cbv

theorem Erases.nil : Erases [] [] :=
  fun _ => rfl

theorem Erases.append {front frontKept back backKept : Text} (first : Erases front frontKept)
    (second : Erases back backKept) : Erases (front ++ back) (frontKept ++ backKept) := by
  intro rest
  rw [List.append_assoc, first, second, List.append_assoc]

theorem Erases.withoutComments_eq {text kept : Text} (erases : Erases text kept) :
    withoutComments text = kept := by
  have alone := erases []
  rwa [withoutComments_nil, List.append_nil, List.append_nil] at alone

/-- A text that opens no comment stays, unless its last character may open one with what follows. -/
theorem Uncommented.erases {text : Text} (free : Uncommented text)
    (last : text.getLast? ≠ some '/') : Erases text text := by
  intro rest
  induction text with
  | nil => rfl
  | cons c more ih =>
      have apart : ∀ behind, c = '/' → more ++ rest = '*' :: behind → False := by
        rintro behind rfl same
        cases more with
        | nil => exact last rfl
        | cons d others =>
            cases same
            exact free ⟨[], others, rfl⟩
      have further : Uncommented more := fun inside =>
        free (inside.trans (List.suffix_cons c more).isInfix)
      have behind : more.getLast? ≠ some '/' := by
        cases more with
        | nil => simp
        | cons d others => rwa [List.getLast?_cons_cons] at last
      rw [List.cons_append, withoutComments.eq_2 _ _ apart, ih further behind, List.cons_append]

/-- Behind another character than the halves of the mark no comment is opened. -/
theorem Uncommented.erases_concat {text : Text} (free : Uncommented text) {c : Char}
    (slash : c ≠ '/') (star : c ≠ '*') : Erases (text ++ [c]) (text ++ [c]) := by
  refine Uncommented.erases ?_ (by simpa using slash)
  intro inside
  rcases List.infix_concat_iff.mp inside with ends | inside
  · obtain ⟨front, same⟩ := ends
    have last := congrArg List.getLast? same
    rw [List.getLast?_append_of_ne_nil _ (by decide), List.getLast?_concat] at last
    exact star (Option.some.inj last).symm
  · exact free inside

/-- A text without slashes stays. -/
theorem erases_of_not_mem {text : Text} (free : '/' ∉ text) : Erases text text := by
  refine Uncommented.erases ?_ ?_
  · intro inside
    exact free (inside.subset List.mem_cons_self)
  · intro last
    exact free (List.mem_of_getLast? last)

end Text

end NestedStyles
