import NestedStyles.Fault

/-!
Converting a file: the markup is read from one path, and its stylesheet is written to another, in a
folder that is made if it is missing. Nothing is written for markup without styling.
-/

set_option autoImplicit false

namespace NestedStyles

namespace Disk

def readText (disk : Disk) (path : Path) : Except Fault Text := do
  let content ← (disk.read path).mapError .disk
  (Utf8.decode content).mapError .decoding

/-- Writes a text where a path leads, in a folder that is made if it is missing. The folder stays
even where the text cannot be written. -/
def writeText (disk : Disk) (path : Path) (text : Text) : Disk × Except Fault Unit :=
  match disk.makeFolders path.parent with
  | (disk, .error fault) => (disk, .error (.disk fault))
  | (disk, .ok ()) =>
    match disk.write path (Utf8.encode text) with
    | .error fault => (disk, .error (.disk fault))
    | .ok disk => (disk, .ok ())

def unwrittenRecord (source : Path) : Record where
  level := .warning
  origin := .converting
  message := "No stylesheet produced for '".toList ++ source.name ++ "'.".toList

def writtenRecord (output : Path) : Record where
  level := .info
  origin := .converting
  message := "Wrote '".toList ++ output.toText ++ "'.".toList

variable [Romanization]

/-- Converts the file at `source` and writes its stylesheet to `output`. The result is the path
written, or none if there is no stylesheet. -/
def convertFile (settings : Settings) (disk : Disk) (source output : Path) :
    DiskOutcome (Option Path) :=
  match disk.readText source with
  | .error fault => ⟨[], disk, .error fault⟩
  | .ok markup =>
    let converted := Conversion.run settings markup
    match converted.result with
    | .error fault => ⟨converted.log, disk, .error (.conversion fault)⟩
    | .ok none => ⟨converted.log ++ [unwrittenRecord source], disk, .ok none⟩
    | .ok (some stylesheet) =>
      match disk.writeText output stylesheet with
      | (disk, .error fault) => ⟨converted.log, disk, .error fault⟩
      | (disk, .ok ()) => ⟨converted.log ++ [writtenRecord output], disk, .ok (some output)⟩

end Disk

end NestedStyles
