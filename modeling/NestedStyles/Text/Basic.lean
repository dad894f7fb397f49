/-!
Text as a sequence of characters: joining, cutting, literal search and numbers in decimal.

Every length and cut counts characters, never bytes.
-/

set_option autoImplicit false

namespace NestedStyles

/-- A text is the list of its characters. -/
abbrev Text := List Char

namespace Text

def join (separator : Text) : List Text → Text
  | [] => []
  | [part] => part
  | part :: next :: rest => part ++ separator ++ join separator (next :: rest)

@[simp] theorem join_nil (separator : Text) : join separator [] = [] := rfl

@[simp] theorem join_singleton (separator part : Text) : join separator [part] = part := rfl

@[simp] theorem join_cons_cons (separator part next : Text) (rest : List Text) :
    join separator (part :: next :: rest) =
      part ++ separator ++ join separator (next :: rest) := rfl

/-- What follows `lead` in the text, if the text starts with it. -/
def after? (lead : Text) : Text → Option Text
  | text => if lead.isPrefixOf text then some (text.drop lead.length) else none

/-- Replaces each occurrence of `needle`, leftmost first and without overlap. The number counts
the characters of the last occurrence that are still to be skipped. -/
def substitute (needle replacement : Text) : Nat → Text → Text
  | _, [] => []
  | skip + 1, _ :: rest => substitute needle replacement skip rest
  | 0, c :: rest =>
    if needle.isPrefixOf (c :: rest) then
      replacement ++ substitute needle replacement (needle.length - 1) rest
    else c :: substitute needle replacement 0 rest

/-- The text with every occurrence of a non-empty `needle` replaced. -/
def replace (needle replacement text : Text) : Text :=
  substitute needle replacement 0 text

/-- The pieces between the occurrences of one character; a text without it is one piece. -/
def splitAt (mark : Char) : Text → List Text
  | [] => [[]]
  | c :: rest =>
    if c = mark then [] :: splitAt mark rest
    else match splitAt mark rest with
      | [] => [[c]]
      | piece :: pieces => (c :: piece) :: pieces

theorem splitAt_ne_nil (mark : Char) (text : Text) : splitAt mark text ≠ [] := by
  cases text with
  | nil => simp [splitAt]
  | cons c rest =>
    simp only [splitAt]
    split
    · simp
    · split <;> simp

/-- Cutting loses nothing but the marks. -/
theorem join_splitAt (mark : Char) (text : Text) : join [mark] (splitAt mark text) = text := by
  induction text with
  | nil => rfl
  | cons c rest ih =>
    cases h : splitAt mark rest with
    | nil => exact absurd h (splitAt_ne_nil mark rest)
    | cons piece pieces =>
      rw [h] at ih
      by_cases hc : c = mark
      · simp [splitAt, h, hc, ih]
      · cases pieces with
        | nil => simp_all [splitAt]
        | cons next more => simp_all [splitAt]

/-- Puts one `mark` in the place of each run of characters that satisfy the test. The flag says that
the character before belongs to a run, whose mark is already written. -/
def squeezeFrom (test : Char → Bool) (mark : Char) : Bool → Text → Text
  | _, [] => []
  | after, c :: rest =>
    if test c then
      if after then squeezeFrom test mark true rest else mark :: squeezeFrom test mark true rest
    else c :: squeezeFrom test mark false rest

/-- The text with one `mark` in the place of each run of characters that satisfy the test. -/
def squeeze (test : Char → Bool) (mark : Char) (text : Text) : Text :=
  squeezeFrom test mark false text

def dropTrailing (test : Char → Bool) (text : Text) : Text :=
  (text.reverse.dropWhile test).reverse

def trim (test : Char → Bool) (text : Text) : Text :=
  dropTrailing test (text.dropWhile test)

/-- The text, followed by `ending` unless it ends with it already. -/
def withEnding (ending text : Text) : Text :=
  if ending.isSuffixOf text then text else text ++ ending

/-- Lower case for the letters `A` to `Z`; every other character stands for itself. -/
def asciiLower (text : Text) : Text :=
  text.map Char.toLower

def ofNat (n : Nat) : Text :=
  Nat.toDigits 10 n

/-- An integer in decimal, with `-` in front when it is negative. -/
def ofInt : Int → Text
  | .ofNat n => ofNat n
  | .negSucc n => '-' :: ofNat (n + 1)

/-- The order of texts by their characters' code points, a shorter text before its extensions. -/
def precedes : Text → Text → Bool
  | [], _ => true
  | _ :: _, [] => false
  | a :: as, b :: bs => if a = b then precedes as bs else decide (a < b)

end Text

end NestedStyles
