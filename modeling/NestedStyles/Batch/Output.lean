import NestedStyles.Fault

/-!
Where the stylesheet of a file goes.
-/

set_option autoImplicit false

namespace NestedStyles

namespace Batch

def stylesheetEnding : Text := ".scss".toList

def stylesheetPath (source : Path) : Except Fault Path :=
  match source.withEnding? stylesheetEnding with
  | some path => .ok path
  | none => .error (.nameless source)

/-- The path for the stylesheet of `source`. Without a given output it stands beside the source. The
output for a single source may name a file; otherwise it names a folder. -/
def outputPath (disk : Disk) (output : Option Path) (single : Bool) (source : Path) :
    Except Fault Path :=
  match output with
  | none => stylesheetPath source
  | some output => do
    let namesFile ←
      if single && !output.ending.isEmpty then
        (disk.isFolder output).map not |>.mapError .disk
      else pure false
    if namesFile then return output
    else return output.child (← stylesheetPath source).name

end Batch

end NestedStyles
