import NestedStyles.Text.Integer

/-!
Numbers as text: the characters that they are written with, and that they are read back.
-/

set_option autoImplicit false

namespace NestedStyles

namespace Text

theorem isDigit_of_mem_ofNat {n : Nat} {c : Char} (member : c ∈ ofNat n) : c.isDigit = true :=
  Nat.isDigit_of_mem_toDigits (by decide) (by decide) member

/-- An integer is written with digits and a minus sign. -/
theorem of_mem_ofInt {n : Int} {c : Char} (member : c ∈ ofInt n) : c = '-' ∨ c.isDigit = true := by
  cases n with
  | ofNat n => exact Or.inr (isDigit_of_mem_ofNat member)
  | negSucc n =>
      rw [ofInt, List.mem_cons] at member
      exact member.imp_right isDigit_of_mem_ofNat

theorem not_mem_ofInt {c : Char} (sign : c ≠ '-') (other : c.isDigit = false) (n : Int) :
    c ∉ ofInt n := by
  intro member
  rcases of_mem_ofInt member with rfl | digit
  · exact sign rfl
  · rw [other] at digit
    cases digit

theorem toNat_of_isDigit {c : Char} (digit : c.isDigit = true) :
    48 ≤ c.toNat ∧ c.toNat ≤ 57 := by
  rw [Char.isDigit, Bool.and_eq_true, decide_eq_true_iff, decide_eq_true_iff] at digit
  exact ⟨UInt32.le_iff_toNat_le.mp digit.1, UInt32.le_iff_toNat_le.mp digit.2⟩

theorem isDigit_of_isBlank {c : Char} (blank : isBlank c = true) : c.isDigit = false := by
  rw [← Bool.not_eq_true]
  intro digit
  obtain ⟨low, high⟩ := toNat_of_isDigit digit
  simp only [isBlank, Bool.or_eq_true, Bool.and_eq_true, decide_eq_true_iff, beq_iff_eq] at blank
  omega

theorem digit?_of_isDigit {c : Char} (digit : c.isDigit = true) :
    digit? c = some (c.toNat - '0'.toNat) := by
  obtain ⟨low, high⟩ := toNat_of_isDigit digit
  have first : zeros.find? (fun first => first ≤ c.toNat && c.toNat < first + 10) = some 48 :=
    List.find?_cons_of_pos (by simp only [Bool.and_eq_true, decide_eq_true_iff]; omega)
  rw [digit?, first]
  rfl

theorem digitsFrom_of_isDigit {digits : Text} (decimal : ∀ c ∈ digits, c.isDigit = true) :
    ∀ {needed : Bool}, (needed = true → digits ≠ []) →
      digitsFrom needed digits = some (digits.map (fun c => c.toNat - '0'.toNat)) := by
  induction digits with
  | nil =>
      intro needed filled
      cases needed with
      | true => exact absurd rfl (filled rfl)
      | false => rfl
  | cons c rest ih =>
      intro needed _
      have digit : c.isDigit = true := decimal c List.mem_cons_self
      have other : c ≠ '_' := by
        rintro rfl
        cases digit
      rw [digitsFrom, if_neg other, digit?_of_isDigit digit,
        ih (fun c member => decimal c (List.mem_cons_of_mem _ member)) Bool.noConfusion]
      rfl

/-- A number without a sign is read back, unless it has too many digits. -/
theorem natural?_ofNat {n : Nat} (short : (ofNat n).length ≤ maxDigits) :
    natural? (ofNat n) = some n := by
  have read : digitsFrom true (ofNat n) = some ((ofNat n).map (fun c => c.toNat - '0'.toNat)) :=
    digitsFrom_of_isDigit (fun c => isDigit_of_mem_ofNat) (fun _ => Nat.toDigits_ne_nil)
  have value : (ofNat n).foldl (fun n c => n * 10 + (c.toNat - '0'.toNat)) 0 = n := by
    simp only [Nat.mul_comm _ 10]
    exact Nat.ofDigitChars_toDigits (by decide) (by decide)
  rw [natural?, read, Option.bind_eq_bind, Option.bind_some, List.length_map, if_pos short,
    List.foldl_map, value]

theorem dropWhile_isNumberBlank {digits : Text} (decimal : ∀ c ∈ digits, c.isDigit = true) :
    digits.dropWhile isNumberBlank = digits := by
  cases digits with
  | nil => rfl
  | cons c rest =>
      have solid : ¬isBlank c = true := fun blank =>
        absurd (decimal c List.mem_cons_self) (Bool.eq_false_iff.mp (isDigit_of_isBlank blank))
      exact List.dropWhile_cons_of_neg (fun blank => solid (Bool.and_eq_true_iff.mp blank).1)

theorem integer?_ofNat {n : Nat} (short : (ofNat n).length ≤ maxDigits) :
    integer? (ofNat n) = some (n : Int) := by
  have decimal : ∀ c ∈ ofNat n, c.isDigit = true := fun c => isDigit_of_mem_ofNat
  have trimmed : trim isNumberBlank (ofNat n) = ofNat n := by
    rw [trim, dropTrailing, dropWhile_isNumberBlank decimal,
      dropWhile_isNumberBlank (fun c member => decimal c (List.mem_reverse.mp member)),
      List.reverse_reverse]
  rw [integer?, trimmed]
  split
  · next rest written =>
      have sign : ('+' : Char).isDigit = true := decimal '+' (written ▸ List.mem_cons_self)
      cases sign
  · next rest written =>
      have sign : ('-' : Char).isDigit = true := decimal '-' (written ▸ List.mem_cons_self)
      cases sign
  · rw [natural?_ofNat short]
    rfl

end Text

end NestedStyles
