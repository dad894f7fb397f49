import NestedStyles.CommandLine.Run
import Std.Time

/-!
The program. It looks up on the real disk what a run may ask about, lets the run happen on that, and
brings the changes to the real disk. Nothing is decided here.
-/

set_option autoImplicit false

namespace NestedStyles

namespace Program

/-- The way to a location as the system writes it. -/
def wayTo (location : Location) : String :=
  String.ofList ('/' :: Text.join ['/'] location)

/-- The location that the system writes in full. -/
def locationOf (way : String) : Location :=
  Path.partsOf way.toList

/-- The content of a file, as far as runs ask for it: that of markup and of logs. -/
def contentAt (location : Location) : IO (List UInt8) := do
  let name := location.getLast?.getD []
  if CommandLine.isMarkup ⟨[], [name]⟩ || Logbook.isLogName name then
    return (← IO.FS.readBinFile (wayTo location)).toList
  else return []

/-- A time on the disk in nanoseconds, as all times of a run are counted. -/
def nanoseconds (time : IO.FS.SystemTime) : Int :=
  time.sec * 1000000000 + time.nsec.toNat

/-- What stands at a location; nothing for what is neither a folder nor a file nor a link to
something. -/
def itemAt (location : Location) : IO (Option Item) := do
  let entry : IO.FS.DirEntry :=
    { root := wayTo location.dropLast, fileName := String.ofList (location.getLast?.getD []) }
  try
    let metadata ← entry.path.symlinkMetadata
    match metadata.type with
    | .dir => return some .folder
    | .file => return some (.file (← contentAt location) (nanoseconds metadata.modified))
    | .symlink =>
      let target ← IO.FS.realPath (wayTo location)
      return some (.link ⟨['/'], locationOf target.toString⟩)
    | .other => return none
  catch _ => return none

/-- Looks up a location and those above it, none of which is a link. -/
def surveyTo (disk : Disk) (location : Location) : IO Disk := do
  let mut disk := disk
  for length in List.range location.length do
    let place := location.take (length + 1)
    if let some item ← itemAt place then disk := disk.put place item
  return disk

/-- Looks up the locations that names lead over. -/
def surveyAlong (disk : Disk) (here : Location) : List Text → IO Disk
  | [] => return disk
  | name :: rest => do
    if name = ['.', '.'] then surveyAlong disk here.dropLast rest
    else
      let next := here ++ [name]
      match ← itemAt next with
      | none => return disk
      | some (.link target) =>
        let disk ← surveyTo (disk.put next (.link target)) target.parts
        surveyAlong disk target.parts rest
      | some item => surveyAlong (disk.put next item) next rest

/-- Looks up everything below a location, without going over links. -/
partial def surveyBelow (disk : Disk) (folder : Location) : IO Disk := do
  let mut disk := disk
  for entry in ← (← IO.FS.realPath (wayTo folder)).readDir do
    let place := folder ++ [entry.fileName.toList]
    match ← itemAt place with
    | none => pure ()
    | some .folder => disk ← surveyBelow (disk.put place .folder) place
    | some (.link target) => disk ← surveyTo (disk.put place (.link target)) target.parts
    | some item => disk := disk.put place item
  return disk

def surveyPath (disk : Disk) (path : Path) : IO Disk := do
  let disk ← surveyAlong disk (disk.startOf path) path.parts
  match disk.locate path with
  | .error _ => return disk
  | .ok place => if disk.at? place = some .folder then surveyBelow disk place else return disk

/-- The paths that a run asks about. -/
def pathsOf (a : CommandLine.Arguments) : List Path :=
  let inputs := if a.readsInput then [] else a.inputs.map Path.ofText
  let outputs := inputs.filterMap (Path.withEnding? Batch.stylesheetEnding)
  Logbook.folder :: inputs ++ outputs ++ a.output.toList

def survey (a : CommandLine.Arguments) : IO Disk := do
  let current := locationOf (← IO.currentDir).toString
  let now := (← Std.Time.Timestamp.now).toNanosecondsSinceUnixEpoch.val
  let mut disk ← surveyTo { current, now } current
  for path in pathsOf a do
    disk ← surveyPath disk path
  return disk

/-- Brings the changes of a run to the disk. -/
def bringBack (before after : Disk) : IO Unit := do
  for (place, _) in before.items do
    if (after.at? place).isNone then IO.FS.removeFile (wayTo place)
  for (place, item) in after.items do
    if before.at? place ≠ some item then
      match item with
      | .folder => IO.FS.createDir (wayTo place)
      | .file content _ => IO.FS.writeBinFile (wayTo place) ⟨content.toArray⟩
      | .link _ => pure ()

def padded (width : Nat) (n : Int) : Text :=
  let digits := Text.ofInt n
  List.replicate (width - digits.length) '0' ++ digits

/-- The date and the time that name a log file. -/
def stamp : IO Text := do
  let now ← Std.Time.PlainDateTime.now
  return padded 4 now.year ++ padded 2 now.month.val ++ padded 2 now.day.val ++ '_' ::
    padded 2 now.hour.val ++ padded 2 now.minute.val ++ padded 2 now.second.val

/-- Does what a command line asks for. -/
def perform (texts : List Text) (a : CommandLine.Arguments) : IO CommandLine.Finished := do
  let before ← survey a
  let input ← if a.readsInput then (← IO.getStdin).readToEnd else pure ""
  let finished := CommandLine.run { stamp := ← stamp } texts input.toList before
  bringBack before finished.disk
  return finished

def run (texts : List Text) : IO CommandLine.Finished :=
  match CommandLine.Arguments.parse texts with
  | .ok a => perform texts a
  | .error _ => return CommandLine.run { stamp := [] } texts [] {}

end Program

end NestedStyles

def main (arguments : List String) : IO UInt32 := do
  let finished ← NestedStyles.Program.run (arguments.map String.toList)
  IO.print (String.ofList finished.output)
  IO.eprint (String.ofList finished.errors)
  return finished.exit.toUInt32
