import NestedStyles.Text.Romanized

/-!
The way in which the program spells texts in ASCII: character by character, from a table.
-/

set_option autoImplicit false

namespace NestedStyles

namespace Text

def spellings : List (Nat × String) := [
  (0x00C6, "AE"), (0x00D8, "O"), (0x00DF, "ss"), (0x0153, "oe"), (0x02BC, "'"), (0x0395, "E"),
  (0x03A9, "O"), (0x03B1, "a"), (0x03B7, "e"), (0x03B9, "i"), (0x03BA, "k"), (0x03BB, "l"),
  (0x03BD, "n"), (0x041F, "P"), (0x0432, "v"), (0x0435, "e"), (0x0438, "i"), (0x043C, "m"),
  (0x0440, "r"), (0x0442, "t"), (0x0661, "1"), (0x0662, "2"), (0x0663, "3"), (0x1100, "g"),
  (0x1112, "h"), (0x1161, "a"), (0x1165, "eo"), (0x116E, "u"), (0x11A8, "g"), (0x11AB, "n"),
  (0x1E9E, "Ss"), (0x200B, " "), (0x2013, "-"), (0x2014, "--"), (0x2018, "'"), (0x2019, "'"),
  (0x201C, "\""), (0x201D, "\""), (0x2044, "/"), (0x221A, "[?]"), (0x2248, "[?]"), (0x30B9, "su"),
  (0x30C6, "te"), (0x30C8, "to"), (0x4E2D, "Zhong "), (0x6587, "Wen "), (0x65E5, "Ri "),
  (0x672C, "Ben "), (0x6807, "Biao "), (0x8A9E, "Yu "), (0x9898, "Ti ")]

/-- The spelling of a character. One beyond ASCII that the table does not have is left out. -/
def spell (c : Char) : Text :=
  if c.toNat < 0x80 then [c]
  else match spellings.find? (fun entry => entry.1 == c.toNat) with
    | some (_, spelling) => spelling.toList
    | none => []

theorem isAscii_spell (c : Char) : ∀ d ∈ spell c, d.toNat < 0x80 := by
  have table : (spellings.all fun entry => entry.2.toList.all fun d => d.toNat < 0x80) = true := by
    decide +kernel
  simp only [List.all_eq_true, decide_eq_true_eq] at table
  rw [spell]
  split
  · rename_i ascii
    intro d member
    rwa [List.mem_singleton.mp member]
  · split
    · rename_i found
      exact table _ (List.mem_of_find?_eq_some found)
    · exact List.forall_mem_nil _

end Text

instance : Romanization where
  romanized text := text.flatMap Text.spell
  isAscii text := by
    intro d member
    obtain ⟨c, _, inside⟩ := List.mem_flatMap.mp member
    exact Text.isAscii_spell c d inside

end NestedStyles
