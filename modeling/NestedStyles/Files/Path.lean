import NestedStyles.Text.Basic

/-!
Paths as people write them: names between slashes. A path keeps its `..`, but neither its single
dots nor its doubled slashes.
-/

set_option autoImplicit false

namespace NestedStyles

/-- A path: the slashes in front, and the names behind them. -/
structure Path where
  root : Text := []
  parts : List Text := []
  deriving DecidableEq, Inhabited, Repr

namespace Path

/-- The slashes that mark a path as starting at the root: one, or exactly two. -/
def rootOf (text : Text) : Text :=
  match (text.takeWhile (· == '/')).length with
  | 0 => []
  | 2 => ['/', '/']
  | _ => ['/']

/-- The names of a path as it is written. -/
def partsOf (text : Text) : List Text :=
  (Text.splitAt '/' text).filter (fun part => !part.isEmpty && part != ['.'])

def ofText (text : Text) : Path where
  root := rootOf text
  parts := partsOf text

def toText (path : Path) : Text :=
  match path.root ++ Text.join ['/'] path.parts with
  | [] => ['.']
  | text => text

def isAbsolute (path : Path) : Bool :=
  !path.root.isEmpty

def name (path : Path) : Text :=
  path.parts.getLast?.getD []

def parent (path : Path) : Path :=
  { path with parts := path.parts.dropLast }

def child (path : Path) (name : Text) : Path :=
  { path with parts := path.parts ++ [name] }

@[simp] theorem name_child (path : Path) (name : Text) : (path.child name).name = name := by
  simp [child, Path.name]

@[simp] theorem parent_child (path : Path) (name : Text) : (path.child name).parent = path := by
  simp [child, parent]

/-- A path that has a last name is the path in front of it with that name. -/
theorem child_parent_name {path : Path} (named : path.name ≠ []) :
    path.parent.child path.name = path := by
  have filled : path.parts ≠ [] := fun empty => named (by simp [Path.name, empty])
  have last : path.name = path.parts.getLast filled := by
    simp [Path.name, List.getLast?_eq_some_getLast filled]
  rw [last, parent, child, List.dropLast_concat_getLast]

/-- The ending of a name: its last dot and what follows. A dot at either end of the name begins no
ending. -/
def endingOf (name : Text) : Text :=
  let after := (name.reverse.takeWhile (· != '.')).reverse
  let before := name.length - after.length
  if after.isEmpty || before ≤ 1 then [] else '.' :: after

def ending (path : Path) : Text :=
  endingOf path.name

/-- A name with another ending. -/
def nameWithEnding (ending name : Text) : Text :=
  name.take (name.length - (endingOf name).length) ++ ending

/-- The path whose last name has another ending; none if it has no name. -/
def withEnding? (ending : Text) (path : Path) : Option Path :=
  if path.name.isEmpty then none
  else some (path.parent.child (nameWithEnding ending path.name))

/-- The order of paths by their names, one after the other. -/
def precedes (a b : Path) : Bool :=
  go (a.root :: a.parts) (b.root :: b.parts)
where
  go : List Text → List Text → Bool
    | [], _ => true
    | _ :: _, [] => false
    | x :: xs, y :: ys => if x = y then go xs ys else Text.precedes x y

end Path

end NestedStyles
