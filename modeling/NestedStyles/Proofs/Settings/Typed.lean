import NestedStyles.Settings.Basic

/-!
Settings of the expected types.
-/

set_option autoImplicit false

namespace NestedStyles

namespace Value

/-- Whether a value is a truth value. -/
def isSwitch : Value → Bool
  | bool _ => true
  | _ => false

end Value

/-- Layout settings of the expected types. A truth value may stand for a whole number. -/
structure FormatSettings.WellTyped (settings : FormatSettings) : Prop where
  indentSize : settings.indentSize.whole?.isSome = true
  indentChar : settings.indentChar.text?.isSome = true
  maxPreservedNewlines : settings.maxPreservedNewlines.whole?.isSome = true
  preserveNewlines : settings.preserveNewlines.isSwitch = true
  endWithNewline : settings.endWithNewline.isSwitch = true
  wrapLineLength : settings.wrapLineLength.whole?.isSome = true
  indentEmptyLines : settings.indentEmptyLines.isSwitch = true

structure NamingSettings.WellTyped (settings : NamingSettings) : Prop where
  lowercase : settings.lowercase.isSwitch = true
  separator : settings.separator.text?.isSome = true
  opening : settings.opening.text?.isSome = true
  ending : settings.ending.text?.isSome = true

structure Settings.WellTyped (settings : Settings) : Prop where
  formatOutput : settings.formatOutput.isSwitch = true
  namesFromComments : settings.namesFromComments.isSwitch = true
  maxNameLength : settings.maxNameLength.whole?.isSome = true
  printComments : settings.printComments.isSwitch = true
  format : settings.format.WellTyped
  naming : settings.naming.WellTyped

/-- The defaults have the expected types. -/
theorem Settings.wellTyped_default : ({} : Settings).WellTyped :=
  ⟨rfl, rfl, rfl, rfl, ⟨rfl, rfl, rfl, rfl, rfl, rfl, rfl⟩, ⟨rfl, rfl, rfl, rfl⟩⟩

end NestedStyles
