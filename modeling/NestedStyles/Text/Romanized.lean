import NestedStyles.Text.Basic

/-!
Text in ASCII: what other letters sound like and other signs look like. Nothing is said here of how a
text is spelled, only that it is spelled in ASCII.
-/

set_option autoImplicit false

namespace NestedStyles

/-- A way to spell every text in ASCII. -/
class Romanization where
  romanized : Text → Text
  isAscii : ∀ text, ∀ c ∈ romanized text, c.toNat < 0x80

end NestedStyles
