import NestedStyles.Text.Basic

/-!
Records of what a conversion does, in the order in which it happens.
-/

set_option autoImplicit false

namespace NestedStyles

/-- How much a record matters. -/
inductive Level where
  | debug
  | info
  | warning
  | error
  deriving DecidableEq, Repr

namespace Level

def name : Level → Text
  | debug => "DEBUG".toList
  | info => "INFO".toList
  | warning => "WARNING".toList
  | error => "ERROR".toList

def rank : Level → Nat
  | debug => 0
  | info => 1
  | warning => 2
  | error => 3

end Level

/-- The part of the program that a record comes from. -/
inductive Origin where
  | reading
  | outlining
  | converting
  | batch
  | commandLine
  | logging
  | program
  deriving DecidableEq, Repr

def Origin.name : Origin → Text
  | reading => "html_parser".toList
  | outlining => "normalizer".toList
  | converting => "pipeline".toList
  | batch => "batch_processor".toList
  | commandLine => "cli".toList
  | logging => "logger".toList
  | program => "main".toList

/-- A record. One that reports a failure may carry its cause. -/
structure Record where
  level : Level
  origin : Origin
  message : Text
  cause : Option Text := none
  deriving DecidableEq, Repr

namespace Record

def causeLines (record : Record) : List Text :=
  match record.cause with
  | none => []
  | some cause => ["Traceback (most recent call last):".toList, cause]

/-- The record without its cause: level, origin and message. -/
def heading (record : Record) : Text :=
  record.level.name ++ " [".toList ++ record.origin.name ++ "] ".toList ++ record.message

/-- The record as it is kept in a file. -/
def fileText (record : Record) : Text :=
  ((record.heading :: record.causeLines).map (· ++ ['\n'])).flatten

/-- The record as it is shown to the user. -/
def consoleText (record : Record) : Text :=
  (((record.level.name ++ ": ".toList ++ record.message) :: record.causeLines).map
    (· ++ ['\n'])).flatten

end Record

end NestedStyles
