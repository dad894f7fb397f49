import NestedStyles.Files.Path
import NestedStyles.Text.Quoted
import NestedStyles.Text.Utf8

/-!
A disk: folders, files and links, each at a location, and the ways in which paths lead there.

A location is a list of names from the root and contains no links. Following a path may lead over
links; a path that ends in a missing name still has a location, where something may be made.
-/

set_option autoImplicit false

namespace NestedStyles

/-- The names that lead from the root to a place on the disk. -/
abbrev Location := List Text

/-- What stands at a location. -/
inductive Item where
  | folder
  | file (content : List UInt8) (modified : Int)
  | link (target : Path)
  deriving DecidableEq, Repr

/-- Why the disk refuses a request. -/
inductive DiskReason where
  | notFound
  | exists
  | notFolder
  | isFolder
  | nameTooLong
  | tooManyLinks
  /-- The path holds the character that ends names on the disk. -/
  | endedName
  deriving DecidableEq, Repr

/-- A refused request, with the path it was made for. -/
structure DiskFault where
  reason : DiskReason
  path : Path
  deriving DecidableEq, Repr

namespace DiskReason

def number? : DiskReason → Option Nat
  | notFound => some 2
  | «exists» => some 17
  | notFolder => some 20
  | isFolder => some 21
  | nameTooLong => some 36
  | tooManyLinks => some 40
  | endedName => none

def message : DiskReason → Text
  | notFound => "No such file or directory".toList
  | «exists» => "File exists".toList
  | notFolder => "Not a directory".toList
  | isFolder => "Is a directory".toList
  | nameTooLong => "File name too long".toList
  | tooManyLinks => "Too many levels of symbolic links".toList
  | endedName => "embedded null byte".toList

def kind : DiskReason → Text
  | notFound => "FileNotFoundError".toList
  | «exists» => "FileExistsError".toList
  | notFolder => "NotADirectoryError".toList
  | isFolder => "IsADirectoryError".toList
  | nameTooLong => "OSError".toList
  | tooManyLinks => "OSError".toList
  | endedName => "ValueError".toList

/-- Whether the reason only says that there is nothing at the end of a path. -/
def meansMissing : DiskReason → Bool
  | notFound => true
  | notFolder => true
  | tooManyLinks => true
  | endedName => true
  | _ => false

end DiskReason

/-- What a fault says. The path is named with the reasons that have a number. -/
def DiskFault.message (fault : DiskFault) : Text :=
  match fault.reason.number? with
  | none => fault.reason.message
  | some number =>
    "[Errno ".toList ++ Text.ofNat number ++ "] ".toList ++ fault.reason.message ++
      ": ".toList ++ Text.quoted fault.path.toText

/-- The content of a disk, the folder that relative paths start from, and the time. -/
structure Disk where
  items : List (Location × Item) := []
  current : Location := []
  now : Int := 0
  deriving DecidableEq, Repr

namespace Disk

/-- The item that a list gives for a location. -/
def found? (location : Location) : List (Location × Item) → Option Item
  | [] => none
  | (place, item) :: rest => if place = location then some item else found? location rest

/-- A list of items with one at a location, in the place of what it gives for that. -/
def placed (location : Location) (item : Item) :
    List (Location × Item) → List (Location × Item)
  | [] => [(location, item)]
  | (place, other) :: rest =>
    if place = location then (location, item) :: rest
    else (place, other) :: placed location item rest

theorem found?_placed (location place : Location) (item : Item)
    (items : List (Location × Item)) :
    found? place (placed location item items) =
      if location = place then some item else found? place items := by
  induction items with
  | nil => rfl
  | cons entry rest ih =>
    simp only [placed]
    split <;> simp_all [found?]
    grind

theorem found?_filter (location place : Location) (items : List (Location × Item)) :
    found? place (items.filter (fun entry => entry.1 != location)) =
      if location = place then none else found? place items := by
  induction items with
  | nil => simp [found?]
  | cons entry rest ih =>
    by_cases h : entry.1 = location
    · simp_all [found?]
    · simp_all [found?]
      grind

/-- What stands at a location. The root is a folder. -/
def at? (disk : Disk) (location : Location) : Option Item :=
  match location with
  | [] => some .folder
  | location => found? location disk.items

/-- The disk with an item at a location, in the place of what stands there. -/
def put (disk : Disk) (location : Location) (item : Item) : Disk :=
  { disk with items := placed location item disk.items }

def drop (disk : Disk) (location : Location) : Disk :=
  { disk with items := disk.items.filter (fun entry => entry.1 != location) }

/-- What is put somewhere stands there, and nothing else changes. -/
theorem at?_put (disk : Disk) {location : Location} (item : Item) (inside : location ≠ [])
    (place : Location) :
    (disk.put location item).at? place =
      if location = place then some item else disk.at? place := by
  cases place with
  | nil => simp [at?, inside]
  | cons name rest => exact found?_placed location (name :: rest) item disk.items

/-- What is dropped is gone, and nothing else changes. -/
theorem at?_drop (disk : Disk) {location : Location} (inside : location ≠ [])
    (place : Location) :
    (disk.drop location).at? place = if location = place then none else disk.at? place := by
  cases place with
  | nil => simp [at?, inside]
  | cons name rest => exact found?_filter location (name :: rest) disk.items

/-- How far names lead without following a link. -/
inductive Reach where
  | arrived (location : Location)
  | refused (reason : DiskReason)
  /-- A link, from the folder it stands in, and the names behind it. -/
  | link (folder : Location) (target : Path) (rest : List Text)

def maxNameBytes : Nat := 255

def maxPathBytes : Nat := 4095

/-- The most links that a path may lead over. -/
def maxLinks : Nat := 40

/-- The most links that a path may stand behind where nothing is looked up. Only links in a circle have
more. -/
def maxLinksResolved : Nat := 65536

/-- Why a path cannot even be asked for. -/
def refusal? (path : Path) : Option DiskReason :=
  if path.toText.contains (Char.ofNat 0) then some .endedName
  else if maxPathBytes < (Utf8.encode path.toText).length then some .nameTooLong
  else none

/-- Follows names from a location to the first link on the way. Unless `strict`, names may also lead
through what is missing or no folder. -/
def follow (disk : Disk) (strict : Bool) (here : Location) : List Text → Reach
  | [] => .arrived here
  | name :: rest =>
    if name = ['.', '.'] then follow disk strict here.dropLast rest
    else if strict && maxNameBytes < (Utf8.encode name).length then .refused .nameTooLong
    else
      let next := here ++ [name]
      match disk.at? next with
      | some .folder => follow disk strict next rest
      | some (.link target) => .link here target rest
      | some (.file ..) =>
        if strict && !rest.isEmpty then .refused .notFolder else follow disk strict next rest
      | none =>
        if strict && !rest.isEmpty then .refused .notFound else follow disk strict next rest

/-- Follows names from a location over a number of links at most. -/
def followLinks (disk : Disk) (strict : Bool) :
    Nat → Location → List Text → Except DiskReason Location
  | links, here, names =>
    match follow disk strict here names with
    | .arrived location => .ok location
    | .refused reason => .error reason
    | .link folder target rest =>
      match links with
      | 0 => .error .tooManyLinks
      | links + 1 =>
        followLinks disk strict links (if target.isAbsolute then [] else folder)
          (target.parts ++ rest)

def startOf (disk : Disk) (path : Path) : Location :=
  if path.isAbsolute then [] else disk.current

def locate (disk : Disk) (path : Path) : Except DiskReason Location :=
  match refusal? path with
  | some reason => .error reason
  | none => disk.followLinks true maxLinks (disk.startOf path) path.parts

/-- What stands where a path leads. -/
def look (disk : Disk) (path : Path) : Except DiskReason Item := do
  match disk.at? (← disk.locate path) with
  | some item => .ok item
  | none => .error .notFound

/-- What stands where a path leads; nothing if the path leads nowhere. -/
def find? (disk : Disk) (path : Path) : Except DiskFault (Option Item) :=
  match disk.look path with
  | .ok item => .ok (some item)
  | .error reason => if reason.meansMissing then .ok none else .error ⟨reason, path⟩

def isFolder (disk : Disk) (path : Path) : Except DiskFault Bool := do
  return (← disk.find? path) = some .folder

/-- The location that a path stands for, whether anything is there or not. -/
def resolve (disk : Disk) (path : Path) : Except DiskReason Location :=
  disk.followLinks false maxLinksResolved (disk.startOf path) path.parts

/-- The names below a location, with the items they lead to. -/
def below (disk : Disk) (location : Location) : List (List Text × Item) :=
  disk.items.filterMap (fun (place, item) =>
    if location.isPrefixOf place && place.length != location.length then
      some (place.drop location.length, item)
    else none)

def read (disk : Disk) (path : Path) : Except DiskFault (List UInt8) :=
  match disk.look path with
  | .ok (.file content _) => .ok content
  | .ok _ => .error ⟨.isFolder, path⟩
  | .error reason => .error ⟨reason, path⟩

def write (disk : Disk) (path : Path) (content : List UInt8) : Except DiskFault Disk :=
  match disk.locate path with
  | .error reason => .error ⟨reason, path⟩
  | .ok location =>
    match disk.at? location with
    | some .folder => .error ⟨.isFolder, path⟩
    | _ => .ok (disk.put location (.file content disk.now))

/-- The names that stand in the folder at a location, in order. -/
def listing (disk : Disk) (folder : Location) : List Text :=
  ((disk.below folder).filterMap (fun (names, _) =>
    match names with
    | [name] => some name
    | _ => none)).mergeSort Text.precedes

/-- The location that the last name of a path stands for, without following a link there. -/
def slot (disk : Disk) (path : Path) : Except DiskReason Location := do
  let folder ← disk.locate path.parent
  match disk.at? folder with
  | some .folder => return folder ++ [path.name]
  | some _ => .error .notFolder
  | none => .error .notFound

/-- Makes a folder where nothing stands yet. -/
def makeFolder (disk : Disk) (path : Path) : Except DiskReason Disk :=
  match refusal? path with
  | some reason => .error reason
  | none =>
    if path.name = [] ∨ path.name = ['.', '.'] then do
      let _ ← disk.look path
      .error .exists
    else do
      let place ← disk.slot path
      if maxNameBytes < (Utf8.encode path.name).length then .error .nameTooLong
      else match disk.at? place with
        | some _ => .error .exists
        | none => .ok (disk.put place .folder)

/-- Accepts a folder that could not be made if it is there already, else gives the fault. -/
def acceptFolder (disk : Disk) (path : Path) (reason : DiskReason) : Except DiskFault Unit := do
  if ← disk.isFolder path then return () else .error ⟨reason, path⟩

/-- Makes a folder and the missing folders on the way there, given a bound on their number. A folder
that is there already is left as it is. What was made stays, whatever fails after it. -/
def makeFoldersWithin : Nat → Path → Disk → Disk × Except DiskFault Unit
  | bound, path, disk =>
    match disk.makeFolder path with
    | .ok made => (made, .ok ())
    | .error .notFound =>
      match bound with
      | 0 => (disk, .error ⟨.notFound, path⟩)
      | bound + 1 =>
        match makeFoldersWithin bound path.parent disk with
        | (disk, .error fault) => (disk, .error fault)
        | (disk, .ok ()) =>
          match disk.makeFolder path with
          | .ok made => (made, .ok ())
          | .error .notFound => (disk, .error ⟨.notFound, path⟩)
          | .error reason => (disk, disk.acceptFolder path reason)
    | .error reason => (disk, disk.acceptFolder path reason)

/-- Makes a folder and the missing folders on the way there. -/
def makeFolders (disk : Disk) (path : Path) : Disk × Except DiskFault Unit :=
  makeFoldersWithin path.parts.length path disk

end Disk

end NestedStyles
