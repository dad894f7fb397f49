import NestedStyles.Batch.Progress

/-!
The log files of the program. Every run starts a file of its own in the folder of logs, and only a
number of the newest files are kept beside it.
-/

set_option autoImplicit false

namespace NestedStyles

namespace Logbook

def folder : Path := Path.ofText "logs".toList

/-- The most log files there are once a run has started its own. -/
def maxFiles : Nat := 20

/-- How the names of log files begin. -/
def opening : Text := "sass_".toList

/-- How the names of log files end. -/
def ending : Text := ".log".toList

def isLogName (name : Text) : Bool :=
  opening.isPrefixOf name && ending.isSuffixOf (name.drop opening.length)

def pathOf (stamp : Text) : Path :=
  folder.child (opening ++ stamp ++ ending)

/-- When the file of a name in the folder of logs was last changed; none if there is no file. -/
def modified? (disk : Disk) (name : Text) : Option Int :=
  match disk.look (folder.child name) with
  | .ok (.file _ modified) => some modified
  | _ => none

/-- The log files that stand at a location, the oldest first. -/
def logFiles (disk : Disk) (place : Location) : List Text :=
  let found := (disk.listing place).filterMap (fun name =>
    if isLogName name then (modified? disk name).map (fun modified => (name, modified)) else none)
  (found.mergeSort (fun a b => decide (a.2 ≤ b.2))).map (·.1)

/-- Removes the oldest log files so that at most `keep` remain. -/
def rotate (keep : Nat) (disk : Disk) : Disk :=
  match disk.locate folder with
  | .error _ => disk
  | .ok place =>
    let files := logFiles disk place
    (files.take (files.length - keep)).foldl (fun disk name => disk.drop (place ++ [name])) disk

def append (stamp : Text) (text : Text) (disk : Disk) : Except DiskFault Disk :=
  let content := match disk.read (pathOf stamp) with
    | .ok content => content
    | .error _ => []
  disk.write (pathOf stamp) (content ++ Utf8.encode text)

def start (stamp : Text) (disk : Disk) : Disk × Except DiskFault Unit :=
  match disk.makeFolders folder with
  | (disk, .error fault) => (disk, .error fault)
  | (disk, .ok ()) =>
    let disk := rotate (maxFiles - 1) disk
    match append stamp [] disk with
    | .error fault => (disk, .error fault)
    | .ok disk => (disk, .ok ())

def startRecord (console : Level) (stamp : Text) : Record where
  level := .info
  origin := .logging
  message :=
    "Main logger initialized. Console level: ".toList ++ console.name ++
      ", File level: DEBUG. Logging to: ".toList ++ (pathOf stamp).toText

def failureRecord (fault : DiskFault) : Record where
  level := .error
  origin := .logging
  message := "Failed to set up file logging.".toList
  cause := some (Fault.disk fault).cause

end Logbook

namespace Batch

namespace Event

/-- What an event adds to a log file. -/
def fileText : Event → Text
  | record r => r.fileText
  | printed _ => []
  | workerLog name log =>
    "\n--- Log for ".toList ++ name ++ " ---\n".toList ++ log ++
      "--- End log for ".toList ++ name ++ " ---\n".toList

/-- What an event shows to a user who sees the records from a level on. -/
def consoleText (console : Level) : Event → Text
  | record r => if console.rank ≤ r.level.rank then r.consoleText else []
  | printed text => text
  | workerLog .. => []

end Event

end Batch

end NestedStyles
