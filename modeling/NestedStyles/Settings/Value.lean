import NestedStyles.Text.Basic

/-!
The values an option can be given. Options are stored as they are given and read only where they
are used, so a setting may hold a value that its reader refuses or reads in its own way.
-/

set_option autoImplicit false

namespace NestedStyles

/-- A value given for an option. `decimal m k` is the number `m / 10 ^ k`. -/
inductive Value where
  | null
  | bool (value : Bool)
  | int (value : Int)
  | decimal (mantissa : Int) (places : Nat)
  | text (value : Text)
  | list (items : List Value)
  | mapping (entries : List (Text × Value))
  deriving Inhabited

namespace Value

def typeName : Value → Text
  | null => "NoneType".toList
  | bool _ => "bool".toList
  | int _ => "int".toList
  | decimal .. => "float".toList
  | text _ => "str".toList
  | list _ => "list".toList
  | mapping _ => "dict".toList

/-- Whether a switch with this value is on: everything is on but nothing, zero and what is empty. -/
def isOn : Value → Bool
  | null => false
  | bool b => b
  | int n => n != 0
  | decimal m _ => m != 0
  | text t => !t.isEmpty
  | list items => !items.isEmpty
  | mapping entries => !entries.isEmpty

/-- The whole number that the value is, a switch counting as 0 or 1. -/
def whole? : Value → Option Int
  | bool b => some (if b then 1 else 0)
  | int n => some n
  | _ => none

def text? : Value → Option Text
  | text t => some t
  | _ => none

end Value

end NestedStyles
