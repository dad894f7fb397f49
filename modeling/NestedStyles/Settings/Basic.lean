import NestedStyles.Settings.Value

/-!
The settings of a conversion, their defaults, and their names.

`entries` lists the fields of a group of settings under the names that options use for them;
`set?` is its counterpart and fails exactly for the names that `entries` does not list.
-/

set_option autoImplicit false

namespace NestedStyles

/-- How the finished stylesheet is laid out. -/
structure FormatSettings where
  indentSize : Value := .int 4
  indentChar : Value := .text [' ']
  maxPreservedNewlines : Value := .int 5
  preserveNewlines : Value := .bool true
  endWithNewline : Value := .bool false
  wrapLineLength : Value := .int 0
  indentEmptyLines : Value := .bool false

namespace FormatSettings

def entries (s : FormatSettings) : List (Text × Value) :=
  [("indent_size".toList, s.indentSize),
    ("indent_char".toList, s.indentChar),
    ("max_preserve_newlines".toList, s.maxPreservedNewlines),
    ("preserve_newlines".toList, s.preserveNewlines),
    ("end_with_newline".toList, s.endWithNewline),
    ("wrap_line_length".toList, s.wrapLineLength),
    ("indent_empty_lines".toList, s.indentEmptyLines)]

def names : List Text :=
  (entries {}).map (·.1)

def set? (s : FormatSettings) (name : Text) (value : Value) : Option FormatSettings :=
  if name = "indent_size".toList then some { s with indentSize := value }
  else if name = "indent_char".toList then some { s with indentChar := value }
  else if name = "max_preserve_newlines".toList then some { s with maxPreservedNewlines := value }
  else if name = "preserve_newlines".toList then some { s with preserveNewlines := value }
  else if name = "end_with_newline".toList then some { s with endWithNewline := value }
  else if name = "wrap_line_length".toList then some { s with wrapLineLength := value }
  else if name = "indent_empty_lines".toList then some { s with indentEmptyLines := value }
  else none

/-- The defaults with each listed field replaced, if every name is a field's. -/
def ofEntries? (given : List (Text × Value)) : Option FormatSettings :=
  given.foldlM (fun s entry => s.set? entry.1 entry.2) {}

end FormatSettings

/-- How the comments in front of an element become its class name. -/
structure NamingSettings where
  lowercase : Value := .bool true
  separator : Value := .text ['-']
  opening : Value := .text []
  ending : Value := .text []

namespace NamingSettings

def entries (s : NamingSettings) : List (Text × Value) :=
  [("lowercase".toList, s.lowercase),
    ("replace_with".toList, s.separator),
    ("prefix".toList, s.opening),
    ("suffix".toList, s.ending)]

def names : List Text :=
  (entries {}).map (·.1)

def set? (s : NamingSettings) (name : Text) (value : Value) : Option NamingSettings :=
  if name = "lowercase".toList then some { s with lowercase := value }
  else if name = "replace_with".toList then some { s with separator := value }
  else if name = "prefix".toList then some { s with opening := value }
  else if name = "suffix".toList then some { s with ending := value }
  else none

/-- The defaults with each listed field replaced, if every name is a field's. -/
def ofEntries? (given : List (Text × Value)) : Option NamingSettings :=
  given.foldlM (fun s entry => s.set? entry.1 entry.2) {}

end NamingSettings

structure Settings where
  formatOutput : Value := .bool true
  namesFromComments : Value := .bool false
  maxNameLength : Value := .int 50
  printComments : Value := .bool true
  format : FormatSettings := {}
  naming : NamingSettings := {}

namespace Settings

def formatName : Text := "formatter_options".toList

def namingName : Text := "class_name_options".toList

/-- The single settings with their option names. -/
def entries (s : Settings) : List (Text × Value) :=
  [("format_output".toList, s.formatOutput),
    ("use_comment_blocks_as_class_name".toList, s.namesFromComments),
    ("max_class_name_length".toList, s.maxNameLength),
    ("print_comments".toList, s.printComments)]

/-- The names of all options, single settings and groups. -/
def names : List Text :=
  (entries {}).map (·.1) ++ [formatName, namingName]

/-- The settings with the named single setting replaced; other names change nothing. -/
def set (s : Settings) (name : Text) (value : Value) : Settings :=
  if name = "format_output".toList then { s with formatOutput := value }
  else if name = "use_comment_blocks_as_class_name".toList then
    { s with namesFromComments := value }
  else if name = "max_class_name_length".toList then { s with maxNameLength := value }
  else if name = "print_comments".toList then { s with printComments := value }
  else s

end Settings

end NestedStyles
