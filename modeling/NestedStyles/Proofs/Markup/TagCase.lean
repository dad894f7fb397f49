import Mathlib
import NestedStyles.Markup.Token
import NestedStyles.Text.Case

/-!
The case of tags. The scanner writes the letters `A` to `Z` of a tag in lower case and leaves all other
characters. What Unicode calls the lower case of such a tag is one of the tags that the parser knows only
if it was that tag already.
-/

set_option autoImplicit false

namespace NestedStyles

namespace Text

/-- That a text has none of the letters `A` to `Z`. -/
def Lowered (text : Text) : Prop :=
  ∀ c ∈ text, c.toLower = c

theorem lowered_cons_toLower (c : Char) {text : Text} (lowered : Lowered text) :
    Lowered (c.toLower :: text) :=
  List.forall_mem_cons.mpr ⟨Char.toLower_toLower_eq_toLower c, lowered⟩

theorem lowered_reverse {text : Text} (lowered : Lowered text) : Lowered text.reverse :=
  fun c member => lowered c (List.mem_reverse.mp member)

/-- Apart from the Kelvin sign, no letter outside ASCII has its lower case inside. -/
theorem beyond_of_mem_lowerRuns : ∀ run ∈ lowerRuns,
    0x80 ≤ (run.1 : Int) + run.2.2.2 ∨ run = (0x212A, 0x212A, 1, -8383) := by
  decide +kernel

/-- A character whose capital letter in ASCII is the only other one with it as lower case. -/
@[mk_iff] structure Simple (c : Char) : Prop where
  ascii : c.toNat < 0x80
  filled : 0 < c.toNat
  not_i : c ≠ 'i'
  not_k : c ≠ 'k'

theorem eq_toLower_of_lowerLetter {c d : Char} {more : Text} (simple : Simple d)
    (given : lowerLetter c = d :: more) : d = c.toLower ∧ more = [] := by
  have ascii := simple.ascii
  have filled := simple.filled
  rw [lowerLetter] at given
  split at given
  · cases given
    exact ⟨rfl, rfl⟩
  split at given
  · cases given
    exact absurd rfl simple.not_i
  split at given
  · rename_i first last step distance found
    have within := List.find?_some found
    simp only [Bool.and_eq_true, decide_eq_true_eq] at within
    cases given
    -- The distance is the same all through a run, so its first letter tells where the others go.
    rcases beyond_of_mem_lowerRuns _ (List.mem_of_find?_eq_some found) with beyond | kelvin
    · dsimp only at beyond
      rw [Char.toNat_ofNat] at ascii filled
      by_cases valid : (c.toNat + distance).toNat.isValidChar
      · rw [if_pos valid] at ascii
        omega
      · rw [if_neg valid] at filled
        omega
    · cases kelvin
      have same : c.toNat = 0x212A := by omega
      rw [same] at simple
      exact absurd rfl simple.not_k
  · cases given
    exact absurd ascii ‹_›

theorem lowerLetter_ne_nil (c : Char) : lowerLetter c ≠ [] := by
  rw [lowerLetter]
  split
  · exact List.cons_ne_nil _ _
  split
  · exact List.cons_ne_nil _ _
  split <;> exact List.cons_ne_nil _ _

theorem eq_of_lowerFrom_eq {text : Text} :
    ∀ {before name : Text}, Lowered text → (∀ c ∈ name, Simple c) →
      lowerFrom before text = name → text = name := by
  induction text with
  | nil => exact fun _ _ same => same
  | cons c rest ih =>
      intro before name lowered simple same
      rw [Lowered, List.forall_mem_cons] at lowered
      rw [lowerFrom] at same
      split at same
      · subst same
        have ascii := (simple _ List.mem_cons_self).ascii
        split at ascii <;> exact absurd ascii (by decide)
      · obtain ⟨d, more, given⟩ := List.exists_cons_of_ne_nil (lowerLetter_ne_nil c)
        rw [given, List.cons_append] at same
        subst same
        rw [List.forall_mem_cons] at simple
        obtain ⟨rfl, rfl⟩ := eq_toLower_of_lowerLetter simple.1 given
        rw [List.nil_append] at simple ⊢
        rw [lowered.1, ← ih lowered.2 simple.2 rfl]

end Text

namespace Token

def tag? : Token → Option Text
  | opening tag _ _ => some tag
  | closing tag => some tag
  | _ => none

/-- That the tag of a token, if it is one, has none of the letters `A` to `Z`. -/
def Lowered (token : Token) : Prop :=
  ∀ tag, token.tag? = some tag → Text.Lowered tag

/-- That the tag being read has none of the letters `A` to `Z`. -/
def State.Lowered : State → Prop
  | .tagName _ reversed => Text.Lowered reversed
  | .tag draft _ => Text.Lowered draft.tag
  | .skip _ next => next.Lowered
  | _ => True

/-- That tokens and what the scanner reads next have none of the letters `A` to `Z` in a tag. -/
structure Kept (result : List Token × State) : Prop where
  tokens : ∀ token ∈ result.1, token.Lowered
  next : result.2.Lowered

theorem Kept.silent {next : State} (lowered : next.Lowered) : Kept ([], next) :=
  ⟨fun _ member => absurd member List.not_mem_nil, lowered⟩

theorem lowered_of_tag?_eq_none {token : Token} (untagged : token.tag? = none) : token.Lowered := by
  intro tag tagged
  rw [untagged] at tagged
  cases tagged

theorem lowered_ofRun (kind : Content) (reversed : Text) :
    ∀ token ∈ ofRun kind reversed, token.Lowered := by
  intro token member
  rw [ofRun] at member
  split at member
  · cases member
  · rw [List.mem_singleton.mp member]
    exact lowered_of_tag?_eq_none rfl

theorem Kept.comment (content : Text) {next : State} (lowered : next.Lowered) :
    Kept ([.comment content], next) :=
  ⟨fun _ member => List.mem_singleton.mp member ▸ lowered_of_tag?_eq_none rfl, lowered⟩

namespace Draft

@[simp] theorem tag_add (draft : Draft) (name value : Text) :
    (draft.add name value).tag = draft.tag := by
  rw [add]
  split <;> rfl

@[simp] theorem tag_addBare (draft : Draft) (name : Text) : (draft.addBare name).tag = draft.tag :=
  draft.tag_add _ _

@[simp] theorem tag_addWritten (draft : Draft) (name reversed : Text) :
    (draft.addWritten name reversed).tag = draft.tag :=
  draft.tag_add _ _

theorem kept_finish {draft : Draft} (lowered : Text.Lowered draft.tag) (selfClosing : Bool) :
    Kept (draft.finish selfClosing) := by
  have own : ∀ token : Token, token.tag? = some draft.tag → token.Lowered := by
    intro token tagged tag same
    cases tagged.symm.trans same
    exact lowered
  rw [finish]
  split
  · exact ⟨fun _ member => List.mem_singleton.mp member ▸ own _ rfl, trivial⟩
  · exact ⟨fun _ member => List.mem_singleton.mp member ▸ own _ rfl, trivial⟩

end Draft

theorem kept_stepScript (phase : ScriptPhase) (reversed : Text) (c : Char) (ahead : Text) :
    Kept (stepScript phase reversed c ahead) := by
  have run : Kept (ofRun (.script phase) reversed, .opened) := ⟨lowered_ofRun _ _, trivial⟩
  have stay : ∀ phase, Kept ([], .content (.script phase) (c :: reversed)) :=
    fun phase => .silent trivial
  cases phase <;> rw [stepScript] <;> repeat' split
  all_goals first | exact run | exact stay _

theorem kept_stepTag {draft : Draft} (lowered : Text.Lowered draft.tag) (phase : TagPhase)
    (c : Char) : Kept (stepTag draft phase c) := by
  have goesOn : ∀ {draft : Draft} (phase : TagPhase), Text.Lowered draft.tag →
      Kept ([], .tag draft phase) := fun phase lowered => .silent lowered
  have bare : ∀ name, Text.Lowered (draft.addBare name).tag := fun name => by simpa using lowered
  have written : ∀ name value, Text.Lowered (draft.addWritten name value).tag :=
    fun name value => by simpa using lowered
  have given : ∀ name value, Text.Lowered (draft.add name value).tag :=
    fun name value => by simpa using lowered
  cases phase <;> simp only [stepTag, stepBeforeName] <;> grind [Draft.kept_finish]

theorem kept_step {state : State} (lowered : state.Lowered) (c : Char) (ahead : Text) :
    Kept (step state c ahead) := by
  cases state with
  | content kind reversed =>
      have run : Kept (ofRun kind reversed, .opened) := ⟨lowered_ofRun _ _, trivial⟩
      have stay : Kept ([], .content kind (c :: reversed)) := .silent trivial
      rw [step]
      cases kind with
      | script phase => exact kept_stepScript phase reversed c ahead
      | _ =>
          simp only [stepContent]
          split
          · exact run
          · exact stay
  | opened =>
      have first : Text.Lowered [c.toLower] := Text.lowered_cons_toLower c (List.forall_mem_nil _)
      rw [step, stepOpened]
      repeat' split
      all_goals first | exact .silent trivial | exact .silent first
  | openedEnd =>
      have first : Text.Lowered [c.toLower] := Text.lowered_cons_toLower c (List.forall_mem_nil _)
      rw [step, stepOpenedEnd]
      repeat' split
      all_goals first | exact .silent trivial | exact .silent first
  | tagName closes reversed =>
      have read : Text.Lowered reversed.reverse := Text.lowered_reverse lowered
      rw [step, stepTagName]
      repeat' split
      · exact .silent read
      · exact .silent read
      · exact Draft.kept_finish read false
      · exact .silent (Text.lowered_cons_toLower c lowered)
  | tag draft phase => exact kept_stepTag lowered phase c
  | commentStart =>
      rw [step, stepCommentStart, stepComment]
      repeat' split
      all_goals first | exact .silent trivial | exact .comment _ trivial
  | comment reversed =>
      rw [step, stepComment]
      repeat' split
      all_goals first | exact .silent trivial | exact .comment _ trivial
  | bogusComment reversed =>
      rw [step]
      split
      · exact .comment _ trivial
      · exact .silent trivial
  | doctype =>
      rw [step]
      refine .silent ?_
      split <;> trivial
  | skip count next =>
      cases count with
      | zero => exact .silent lowered
      | succ count => exact .silent lowered

theorem lowered_finish (state : State) : ∀ token ∈ finish state, token.Lowered := by
  cases state with
  | content kind reversed => exact lowered_ofRun kind reversed
  | openedEnd | commentStart | comment | bogusComment =>
      intro token member
      rw [List.mem_singleton.mp member]
      exact lowered_of_tag?_eq_none rfl
  | _ => exact fun token member => absurd member List.not_mem_nil

/-- No token that is scanned has one of the letters `A` to `Z` in its tag. -/
theorem lowered_scan {state : State} (lowered : state.Lowered) (text : Text) :
    ∀ token ∈ scan state text, token.Lowered := by
  induction text generalizing state with
  | nil => exact lowered_finish state
  | cons c rest ih =>
      have kept := kept_step lowered c rest
      intro token member
      rw [scan] at member
      rcases List.mem_append.mp member with first | later
      · exact kept.tokens token first
      · exact ih kept.next token later

theorem lowered_ofText (text : Text) : ∀ token ∈ ofText text, token.Lowered := by
  have start : (State.content .markup []).Lowered := trivial
  exact lowered_scan start _

end Token

end NestedStyles
