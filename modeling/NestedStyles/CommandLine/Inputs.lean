import NestedStyles.Fault
import NestedStyles.Text.Case

/-!
The files that the paths on a command line stand for. A folder stands for the files below it whose
names end as those of markup do; each file counts once, at its first place and under its first
spelling.
-/

set_option autoImplicit false

namespace NestedStyles

namespace CommandLine

/-- The endings of markup files, in the order in which folders are searched for them. -/
def markupEndings : List Text := [".html".toList, ".htm".toList]

/-- Whether a path named by itself has the ending of a markup file, in any case. -/
def isMarkup (path : Path) : Bool :=
  markupEndings.contains (Text.lower path.ending)

/-- The path of what lies some names below a path. -/
def descend (path : Path) (names : List Text) : Path :=
  names.foldl Path.child path

def ordered (paths : List Path) : List Path :=
  paths.mergeSort Path.precedes

/-- What lies below a folder and has a name with the given ending, in order. -/
def matching (disk : Disk) (path : Path) (folder : Location) (ending : Text) : List Path :=
  ordered ((disk.below folder).filterMap (fun (names, _) =>
    if ending.isSuffixOf (names.getLast?.getD []) then some (descend path names) else none))

def note (level : Level) (message : Text) : Record where
  level := level
  origin := .commandLine
  message := message

def missingRecord (path : Path) : Record :=
  note .warning ("Input path does not exist, skipping: ".toList ++ path.toText)

def otherRecord (path : Path) : Record :=
  note .warning ("Not an HTML file, skipping: ".toList ++ path.toText)

/-- The files that one path stands for, with the records made on the way. -/
def expand (disk : Disk) (path : Path) : Except Fault (List Path × List Record) := do
  match ← (disk.find? path).mapError .disk with
  | none => return ([], [missingRecord path])
  | some .folder =>
    match disk.locate path with
    | .error _ => return ([], [])
    | .ok folder => return (markupEndings.flatMap (matching disk path folder), [])
  | some _ => if isMarkup path then return ([path], []) else return ([], [otherRecord path])

/-- The place that a path stands for. -/
def placeOf (disk : Disk) (path : Path) : Except Fault Location :=
  (disk.resolve path).mapError (fun _ => .linkCircle path)

/-- The paths whose place is none of those known and none of those before them. -/
def firstSpellings (known : List Location) : List (Path × Location) → List Path
  | [] => []
  | (path, place) :: rest =>
    if known.contains place then firstSpellings known rest
    else path :: firstSpellings (place :: known) rest

/-- Each path that comes first to its place. -/
def distinct (disk : Disk) (paths : List Path) : Except Fault (List Path) := do
  return firstSpellings [] (← paths.mapM (fun path => do return (path, ← placeOf disk path)))

/-- Expands paths one after the other. The records made before a fault are kept. -/
def expandAll (disk : Disk) : List Path → List Record × Except Fault (List Path)
  | [] => ([], .ok [])
  | path :: rest =>
    match expand disk path with
    | .error fault => ([], .error fault)
    | .ok (files, records) =>
      let (more, others) := expandAll disk rest
      (records ++ more, others.map (files ++ ·))

/-- The files that paths stand for, each once. -/
def collect (disk : Disk) (inputs : List Text) : Outcome Fault (List Path) :=
  let (records, files) := expandAll disk (inputs.map Path.ofText)
  ⟨records, files.bind (distinct disk)⟩

end CommandLine

end NestedStyles
