import NestedStyles.Settings.Basic

/-!
Laying options over settings. An overlay replaces what it names and keeps the rest; a group of
settings given as a mapping replaces the whole group, what it leaves out taking the defaults.
Whether an overlay is refused depends on the options alone.
-/

set_option autoImplicit false

namespace NestedStyles

inductive SettingsGroup where
  | format
  | naming
  deriving DecidableEq, Repr

def SettingsGroup.name : SettingsGroup → Text
  | .format => "FormatterOptions".toList
  | .naming => "ClassNameOptions".toList

/-- What is given for an option: a plain value, or a group of settings made beforehand. -/
inductive Given where
  | value (value : Value)
  | format (settings : FormatSettings)
  | naming (settings : NamingSettings)

/-- The name of the type of what is given, as messages print it. -/
def Given.typeName : Given → Text
  | .value v => v.typeName
  | .format _ => SettingsGroup.format.name
  | .naming _ => SettingsGroup.naming.name

/-- What is given as a plain value; a group is the mapping of its fields. -/
def Given.toValue : Given → Value
  | .value v => v
  | .format s => .mapping s.entries
  | .naming s => .mapping s.entries

/-- Why options are refused. -/
inductive SettingsFault where
  | unknownOptions (names : List Text)
  | unknownKeys (group : SettingsGroup) (names : List Text)
  | notAGroup (group : SettingsGroup) (given : Text)
  deriving DecidableEq, Repr

namespace SettingsFault

/-- Unknown names are listed in the order of their characters. -/
def listed (names : List Text) : Text :=
  Text.join ", ".toList (names.mergeSort Text.precedes)

def message : SettingsFault → Text
  | unknownOptions names => "Unknown conversion options: ".toList ++ listed names
  | unknownKeys group names =>
    "Unknown ".toList ++ group.name ++ " keys: ".toList ++ listed names
  | notAGroup group given =>
    "Expected ".toList ++ group.name ++ " or a mapping, got ".toList ++ given

end SettingsFault

def unknownNames {α : Type} (known : List Text) (given : List (Text × α)) : List Text :=
  (given.map (·.1)).filter (fun name => !known.contains name)

/-- The layout settings that are given, made from the defaults if given as a mapping. -/
def FormatSettings.ofGiven : Given → Except SettingsFault FormatSettings
  | .format settings => .ok settings
  | .value (.mapping fields) =>
    match FormatSettings.ofEntries? fields with
    | some settings => .ok settings
    | none => .error (.unknownKeys .format (unknownNames FormatSettings.names fields))
  | given => .error (.notAGroup .format given.typeName)

/-- The naming settings that are given, made from the defaults if given as a mapping. -/
def NamingSettings.ofGiven : Given → Except SettingsFault NamingSettings
  | .naming settings => .ok settings
  | .value (.mapping fields) =>
    match NamingSettings.ofEntries? fields with
    | some settings => .ok settings
    | none => .error (.unknownKeys .naming (unknownNames NamingSettings.names fields))
  | given => .error (.notAGroup .naming given.typeName)

namespace Settings

/-- The settings with one option replaced. -/
def overlayOne (settings : Settings) (option : Text × Given) : Except SettingsFault Settings :=
  if option.1 = formatName then do
    return { settings with format := ← FormatSettings.ofGiven option.2 }
  else if option.1 = namingName then do
    return { settings with naming := ← NamingSettings.ofGiven option.2 }
  else .ok (settings.set option.1 option.2.toValue)

/-- The settings with each given option replaced. Unknown options are refused before any group is
looked at, and of two groups at fault the first given one is reported. -/
def overlay (base : Settings) (options : List (Text × Given)) : Except SettingsFault Settings :=
  match unknownNames names options with
  | [] => options.foldlM overlayOne base
  | unknown => .error (.unknownOptions unknown)

end Settings

/-- What a caller may hand over as options: settings made beforehand, or options to lay over the
defaults. -/
inductive Options where
  | ready (settings : Settings)
  | over (options : List (Text × Given))

def Options.resolve : Options → Except SettingsFault Settings
  | .ready settings => .ok settings
  | .over options => Settings.overlay {} options

end NestedStyles
