import Mathlib.Data.List.Perm.Basic
import Mathlib.Data.List.TakeWhile
import Mathlib.Data.Nat.Digits.Defs
import NestedStyles.CommandLine.Arguments
import NestedStyles.Proofs.Text.Decimal

/-!
Settings written as a command line are read back exactly, in whatever order the switches stand and
wherever among them the one input stands.

A switch in its long spelling is read as itself, with all that follows the first equals sign as its
value. Each switch changes one setting, so the order of different switches makes no difference.
-/

set_option autoImplicit false

namespace NestedStyles

namespace CommandLine

/-- A switch in its long spelling, with its value behind an equals sign. -/
def Switch.spelled (switch : Switch) (value : Option Text) : Text :=
  switch.long ++ value.elim [] ('=' :: ·)

/-- A switch as it is read, with its value if it has one. -/
def Switch.argument (switch : Switch) (value : Option Text) : Argument :=
  .long switch (value.elim .nothing .equals)

namespace Switch

theorem ofLong?_long (switch : Switch) : ofLong? switch.long = some switch := by
  cases switch <;> decide +kernel

theorem exists_long (switch : Switch) :
    ∃ letter rest, switch.long = '-' :: '-' :: letter :: rest := by
  cases switch <;> exact ⟨_, _, rfl⟩

theorem ne_equals_of_mem_long (switch : Switch) : ∀ c ∈ switch.long, (c != '=') = true := by
  have plain : switch.long.all (· != '=') = true := by
    cases switch <;> decide +kernel
  exact List.all_eq_true.mp plain

end Switch

namespace Argument

theorem cut_spelled (switch : Switch) (value : Option Text) :
    cut (switch.spelled value) = (switch.long, value.elim .nothing .equals) := by
  have plain := switch.ne_equals_of_mem_long
  unfold cut
  cases value with
  | none =>
      have nothing : (switch.spelled none).dropWhile (· != '=') = [] := by
        rw [Switch.spelled, Option.elim_none, List.append_nil]
        exact List.dropWhile_eq_nil_iff.mpr plain
      rw [nothing, Switch.spelled, Option.elim_none, List.append_nil]
      rfl
  | some value =>
      have behind : (switch.spelled (some value)).dropWhile (· != '=') = '=' :: value :=
        List.dropWhile_append_of_pos plain
      have front : (switch.spelled (some value)).takeWhile (· != '=') = switch.long :=
        (List.takeWhile_append_of_pos plain).trans (List.append_nil _)
      rw [behind, front]
      rfl

/-- A spelled switch is read as that switch with that value. -/
theorem ofText_spelled (switch : Switch) (value : Option Text) :
    ofText (switch.spelled value) = .ok (switch.argument value) := by
  have read : ofLong (switch.spelled value) = .ok (some (switch.argument value)) := by
    rw [ofLong, cut_spelled]
    simp only [Switch.ofLong?_long]
    rfl
  obtain ⟨letter, rest, long⟩ := switch.exists_long
  have start : switch.spelled value =
      '-' :: '-' :: letter :: (rest ++ value.elim [] ('=' :: ·)) := by
    rw [Switch.spelled, long]
    rfl
  rw [start] at read ⊢
  simp only [ofText, read]
  rfl

theorem ofText_of_plain {text : Text} (plain : text.head? ≠ some '-') :
    ofText text = .ok (.operand text) := by
  unfold ofText
  split
  · exact absurd rfl plain
  · exact absurd rfl plain
  · exact absurd rfl plain
  · rfl

theorem ofTexts_cons {text : Text} {argument : Argument} (read : ofText text = .ok argument)
    (other : argument ≠ .dashes) {rest : List Text} {arguments : List Argument}
    (further : ofTexts rest = .ok arguments) :
    ofTexts (text :: rest) = .ok (argument :: arguments) := by
  rw [ofTexts, read, further]
  cases argument with
  | dashes => exact absurd rfl other
  | _ => rfl

end Argument

/-- What a switch does, with its value if it has one. -/
def Arguments.perform (switch : Switch) (value : Option Text) (a : Arguments) :
    Except Stop Arguments :=
  match value with
  | none => a.act switch
  | some value => (a.set switch value).mapError .refused

/-- Leaving the inputs changes the stage alone, and not before they begin. -/
theorem Reading.exists_leaveInputs (r : Reading) :
    ∃ stage, (r.stage = .before → stage = .before) ∧ r.leaveInputs = { r with stage := stage } := by
  unfold leaveInputs
  split
  · next within =>
      refine ⟨.after, fun before => ?_, rfl⟩
      rw [within] at before
      cases before
  · exact ⟨r.stage, id, rfl⟩

/-- The step: what reading one switch does that has a value exactly if it takes one. -/
theorem Reading.readAll_argument {switch : Switch} {value : Option Text}
    (fits : switch.takesValue = value.isSome) (r : Reading) (rest : List Argument) :
    r.readAll (switch.argument value :: rest) =
      (r.leaveInputs.arguments.perform switch value >>= fun a =>
        Reading.readAll { r.leaveInputs with arguments := a } rest) := by
  cases value with
  | none =>
      have letters : Letters.ofArgument (switch.argument none) = .ok (.act switch .done) := by
        simp only [Switch.argument, Option.elim_none, Letters.ofArgument, Letters.ofLong,
          Letters.alone, fits, Option.isSome_none, Bool.false_eq_true, if_false]
      simp only [Switch.argument, Option.elim_none] at letters ⊢
      simp only [readAll, letters, Letters.wanting?, obey, Arguments.perform]
      cases r.leaveInputs.arguments.act switch <;> rfl
  | some value =>
      have letters :
          Letters.ofArgument (switch.argument (some value)) = .ok (.set switch value) := by
        simp only [Switch.argument, Option.elim_some, Letters.ofArgument, Letters.ofLong, fits,
          Option.isSome_some, if_true]
      simp only [Switch.argument, Option.elim_some] at letters ⊢
      simp only [readAll, letters, Letters.wanting?, obey, Arguments.perform]
      cases (r.leaveInputs.arguments.set switch value).mapError Stop.refused <;> rfl

/-- Settings that a command line can express. -/
structure Expressible where
  formatOutput : Bool
  namesFromComments : Bool
  maxNameLength : Nat
  printComments : Bool
  indentSize : Nat
  lowercase : Bool
  separator : Char
  opening : Text
  ending : Text
  nonempty : 1 ≤ maxNameLength
  short : maxNameLength ≤ 255
  narrow : indentSize ≤ 16

namespace Expressible

def settings (e : Expressible) : Settings where
  formatOutput := .bool e.formatOutput
  namesFromComments := .bool e.namesFromComments
  maxNameLength := .int e.maxNameLength
  printComments := .bool e.printComments
  format := { indentSize := .int e.indentSize }
  naming :=
    { lowercase := .bool e.lowercase
      separator := .text [e.separator]
      opening := .text e.opening
      ending := .text e.ending }

def switches (e : Expressible) : List Switch :=
  (if e.formatOutput then [] else [Switch.noFormat]) ++
    (if e.namesFromComments then [Switch.useComments] else []) ++
    (if e.printComments then [] else [Switch.noComments]) ++
    (if e.lowercase then [] else [Switch.keepCase]) ++
    [Switch.maxLength, Switch.indentSize, Switch.replaceWith, Switch.opening, Switch.ending]

def value? (e : Expressible) : Switch → Option Text
  | .maxLength => some (Text.ofNat e.maxNameLength)
  | .indentSize => some (Text.ofNat e.indentSize)
  | .replaceWith => some [e.separator]
  | .opening => some e.opening
  | .ending => some e.ending
  | _ => none

/-- A switch as it is written with its value. -/
def spelled (e : Expressible) (switch : Switch) : Text :=
  switch.spelled (e.value? switch)

/-- A switch as it is read with its value. -/
def argument (e : Expressible) (switch : Switch) : Argument :=
  switch.argument (e.value? switch)

def arguments (e : Expressible) : List Text :=
  e.switches.map e.spelled

/-- The settings after one switch. -/
def put (e : Expressible) (s : Settings) : Switch → Settings
  | .noFormat => { s with formatOutput := .bool false }
  | .useComments => { s with namesFromComments := .bool true }
  | .noComments => { s with printComments := .bool false }
  | .keepCase => { s with naming := { s.naming with lowercase := .bool false } }
  | .maxLength => { s with maxNameLength := .int e.maxNameLength }
  | .indentSize => { s with format := { s.format with indentSize := .int e.indentSize } }
  | .replaceWith => { s with naming := { s.naming with separator := .text [e.separator] } }
  | .opening => { s with naming := { s.naming with opening := .text e.opening } }
  | .ending => { s with naming := { s.naming with ending := .text e.ending } }
  | _ => s

variable {e : Expressible}

/-- Each switch changes a setting of its own. -/
theorem put_comm (s : Settings) (first second : Switch) :
    e.put (e.put s first) second = e.put (e.put s second) first := by
  cases first <;> cases second <;> rfl

theorem foldl_put_switches : e.switches.foldl e.put {} = e.settings := by
  obtain ⟨formatOutput, namesFromComments, _, printComments, _, lowercase⟩ := e
  cases formatOutput <;> cases namesFromComments <;> cases printComments <;> cases lowercase <;> rfl

/-- In any order, the switches come to the settings. -/
theorem foldl_put_of_perm {switches : List Switch} (order : switches.Perm e.switches) :
    switches.foldl e.put {} = e.settings :=
  (order.foldl_eq' (fun first _ second _ s => put_comm s first second) {}).trans foldl_put_switches

theorem numberWithin_ofNat {switch : Switch} {least most : Int} {n : Nat} (low : least ≤ n)
    (high : (n : Int) ≤ most) (small : n < 1000) :
    Arguments.numberWithin switch least most (Text.ofNat n) = .ok n := by
  have digits : (Text.ofNat n).length ≤ 3 := Nat.toDigits_length 10 n 3 (by decide) small
  have read : Arguments.number switch (Text.ofNat n) = .ok n := by
    rw [Arguments.number, Text.integer?_ofNat (digits.trans (by decide))]
  simp only [Arguments.numberWithin, read, bind, Except.bind]
  exact if_pos ⟨low, high⟩

/-- What each of the switches does. -/
theorem perform_value? {switch : Switch} (needed : switch ∈ e.switches) (a : Arguments) :
    a.perform switch (e.value? switch) = .ok { a with settings := e.put a.settings switch } := by
  have lengths := e.short
  have indents := e.narrow
  cases switch with
  | help => simp [switches] at needed
  | output => simp [switches] at needed
  | threads => simp [switches] at needed
  | verbose => simp [switches] at needed
  | maxLength =>
      have positive := e.nonempty
      have read : Arguments.numberWithin .maxLength 1 255 (Text.ofNat e.maxNameLength) =
          .ok e.maxNameLength := numberWithin_ofNat (by omega) (by omega) (by omega)
      simp only [Arguments.perform, value?, Arguments.set, read]
      rfl
  | indentSize =>
      have read : Arguments.numberWithin .indentSize 0 16 (Text.ofNat e.indentSize) =
          .ok e.indentSize := numberWithin_ofNat (by omega) (by omega) (by omega)
      simp only [Arguments.perform, value?, Arguments.set, read]
      rfl
  | _ => rfl

theorem takesValue_of_mem_switches {switch : Switch} (needed : switch ∈ e.switches) :
    switch.takesValue = (e.value? switch).isSome := by
  cases switch with
  | output => simp [switches] at needed
  | threads => simp [switches] at needed
  | _ => rfl

/-- The run: switches change the settings one after the other and nothing else. The inputs, if
there were any, end before them. -/
theorem readAll_switches {switches : List Switch} : ∀ (r : Reading) (rest : List Argument),
    (∀ switch ∈ switches, switch ∈ e.switches) →
      ∃ stage, (r.stage = .before → stage = .before) ∧
        r.readAll (switches.map e.argument ++ rest) =
          Reading.readAll { r with
            arguments := { r.arguments with settings := switches.foldl e.put r.arguments.settings }
            stage := stage } rest := by
  induction switches with
  | nil => exact fun r rest _ => ⟨r.stage, id, rfl⟩
  | cons switch others ih =>
      intro r rest needed
      have first : switch ∈ e.switches := needed switch List.mem_cons_self
      obtain ⟨left, before, same⟩ := r.exists_leaveInputs
      have step := Reading.readAll_argument (takesValue_of_mem_switches first) r
        (others.map e.argument ++ rest)
      rw [perform_value? first, same] at step
      obtain ⟨stage, kept, read⟩ := ih { r with
          arguments := { r.arguments with settings := e.put r.arguments.settings switch }
          stage := left } rest (fun other mem => needed other (List.mem_cons_of_mem _ mem))
      exact ⟨stage, fun early => kept (before early), step.trans read⟩

/-- Written switches are read as themselves. -/
theorem ofTexts_switches {rest : List Text} {arguments : List Argument}
    (further : Argument.ofTexts rest = .ok arguments) (switches : List Switch) :
    Argument.ofTexts (switches.map e.spelled ++ rest) =
      .ok (switches.map e.argument ++ arguments) := by
  induction switches with
  | nil => exact further
  | cons switch others ih =>
      exact Argument.ofTexts_cons (Argument.ofText_spelled switch _) Argument.noConfusion ih

/-- An input among the arguments parts them into those in front of it and those behind it. -/
theorem exists_switches_of_perm {path : Text} {texts : List Text}
    (order : texts.Perm (path :: e.arguments)) :
    ∃ first last : List Switch, texts = first.map e.spelled ++ path :: last.map e.spelled ∧
      (first ++ last).Perm e.switches := by
  obtain ⟨front, back, rfl⟩ := List.append_of_mem (order.mem_iff.mpr List.mem_cons_self)
  have around : (front ++ back).Perm e.arguments := (List.perm_middle.symm.trans order).cons_inv
  obtain ⟨switches, written, ordered⟩ :=
    (congrFun₂ (List.eq_map_comp_perm _) (front ++ back) e.switches).mpr around
  obtain ⟨first, last, rfl, rfl, rfl⟩ := List.append_eq_map_iff.mp written
  exact ⟨first, last, rfl, ordered⟩

/-- Reading the switches around an input: up to it, where it is still to come, and behind it. -/
theorem readAll_around (path : Text) {first last : List Switch}
    (needed : ∀ switch ∈ first ++ last, switch ∈ e.switches) :
    (Reading.readAll {} (first.map e.argument ++ .operand path :: last.map e.argument) >>=
        Reading.finish) =
      .ok { inputs := [path], settings := (first ++ last).foldl e.put {} } := by
  obtain ⟨early, before, start⟩ := readAll_switches (e := e) {}
    (.operand path :: last.map e.argument)
    (fun switch mem => needed switch (List.mem_append_left _ mem))
  rw [before rfl] at start
  obtain ⟨late, _, ended⟩ := readAll_switches (e := e)
    { arguments := { inputs := [path], settings := first.foldl e.put {} }, stage := .within } []
    (fun switch mem => needed switch (List.mem_append_right _ mem))
  rw [List.append_nil] at ended
  calc _ = (Reading.readAll
          { arguments := { inputs := [path], settings := first.foldl e.put {} }, stage := .within }
          (last.map e.argument) >>= Reading.finish) := by
        rw [start]
        rfl
    _ = .ok { inputs := [path], settings := last.foldl e.put (first.foldl e.put {}) } := by
        rw [ended]
        rfl
    _ = _ := by
        rw [List.foldl_append]

/-- The settings are read back from their arguments in any order, with one input anywhere among
them. -/
theorem parse_of_perm_arguments (e : Expressible) {path : Text} {texts : List Text}
    (plain : path.head? ≠ some '-') (order : texts.Perm (path :: e.arguments)) :
    Arguments.parse texts = .ok { inputs := [path], settings := e.settings } := by
  obtain ⟨first, last, rfl, ordered⟩ := exists_switches_of_perm order
  have nothing : Argument.ofTexts [] = .ok [] := rfl
  have behind : Argument.ofTexts (last.map e.spelled) = .ok (last.map e.argument) := by
    simpa using ofTexts_switches (e := e) nothing last
  have read : Argument.ofTexts (first.map e.spelled ++ path :: last.map e.spelled) =
      .ok (first.map e.argument ++ .operand path :: last.map e.argument) :=
    ofTexts_switches
      (Argument.ofTexts_cons (Argument.ofText_of_plain plain) Argument.noConfusion behind) first
  rw [Arguments.parse, read, ← foldl_put_of_perm ordered]
  exact readAll_around path (fun switch mem => ordered.mem_iff.mp mem)

/-- Settings that differ from the defaults wherever they may, with texts that look like switches. -/
def lookalike : Expressible where
  formatOutput := false
  namesFromComments := true
  maxNameLength := 255
  printComments := false
  indentSize := 0
  lowercase := false
  separator := '='
  opening := "--suffix=a b".toList
  ending := []
  nonempty := by decide
  short := by decide
  narrow := by decide

theorem parse_lookalike :
    "page.html".toList.head? ≠ some '-' ∧
      (lookalike.arguments.reverse ++ ["page.html".toList]).Perm
        ("page.html".toList :: lookalike.arguments) ∧
      Arguments.parse (lookalike.arguments.reverse ++ ["page.html".toList]) =
        .ok { inputs := ["page.html".toList], settings := lookalike.settings } := by
  have plain : "page.html".toList.head? ≠ some '-' := by decide +kernel
  have order : (lookalike.arguments.reverse ++ ["page.html".toList]).Perm
      ("page.html".toList :: lookalike.arguments) := by
    generalize lookalike.arguments = arguments
    exact List.perm_append_comm.trans ((List.reverse_perm arguments).cons _)
  exact ⟨plain, order, parse_of_perm_arguments lookalike plain order⟩

end Expressible

end CommandLine

end NestedStyles
