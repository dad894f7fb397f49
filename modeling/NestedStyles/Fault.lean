import NestedStyles.Conversion
import NestedStyles.Files.Disk

/-!
Why the conversion of a file fails, and how that is told.
-/

set_option autoImplicit false

namespace NestedStyles

/-- Why a step of a run fails. -/
inductive Fault where
  | conversion (fault : ConversionFault)
  | disk (fault : DiskFault)
  | decoding (fault : Utf8Fault)
  /-- A path without a name cannot get another ending. -/
  | nameless (path : Path)
  /-- Links lead in a circle. -/
  | linkCircle (path : Path)
  /-- More workers than the queue of their jobs has numbers for. -/
  | crowded (workers : Int)
  /-- A failure that another part of the program reports. -/
  | reported (message : Text)

namespace Fault

def kind : Fault → Text
  | conversion fault => fault.kind
  | disk fault => fault.reason.kind
  | decoding _ => "UnicodeDecodeError".toList
  | nameless _ => "ValueError".toList
  | linkCircle _ => "RuntimeError".toList
  | crowded _ => "OverflowError".toList
  | reported _ => "RuntimeError".toList

def message : Fault → Text
  | conversion fault => fault.message
  | disk fault => fault.message
  | decoding fault => fault.message
  | nameless path => Text.quoted path.toText ++ " has an empty name".toList
  | linkCircle path => "Symlink loop from ".toList ++ Text.quoted path.toText
  | crowded _ => "Python int too large to convert to C int".toList
  | reported message => message

/-- The class of a fault as records of its cause name it: a class that only readers of markup know
is named in full. -/
def fullKind : Fault → Text
  | conversion (.markup .empty) => "lxml.etree.ParserError".toList
  | fault => fault.kind

/-- A class and what is said, where there is something to say. -/
def told (kind message : Text) : Text :=
  if message.isEmpty then kind else kind ++ ": ".toList ++ message

def cause (fault : Fault) : Text :=
  told fault.fullKind fault.message

/-- A fault as another part of the program reports it. -/
def report (fault : Fault) : Fault :=
  reported (fault.kind ++ ": ".toList ++ fault.message)

end Fault

/-- What a step on the disk did: its records, the disk it left, and its result or why it has
none. -/
structure DiskOutcome (α : Type) where
  log : List Record
  disk : Disk
  result : Except Fault α

end NestedStyles
