import Twisty.Move.Error
import Twisty.Rotation

/-!
# The log

What the library reports on the side, as data. Operations return their records, in the order in
which they arise, and whoever calls them decides what becomes of them.
-/

namespace Twisty

open Text

/-- How much a record matters. -/
inductive Level where
  | trace
  | debug
  | info
  | warn
deriving DecidableEq

/-- The name of a level. -/
def Level.name : Level → String
  | trace => "TRACE"
  | debug => "DEBUG"
  | info => "INFO"
  | warn => "WARN"

/-- A record of the log. -/
inductive LogRecord where
  /-- A rotation was handed to the puzzle. -/
  | issued (rotation : Rotation)
  /-- The move table was built for another size. -/
  | generated (size : PuzzleSize)
  /-- A token was skipped. -/
  | rejected (error : MoveError)
  /-- A completion was reported while nothing was in flight. -/
  | spuriousCompletion
  /-- Unfinished requests were dropped. -/
  | dropped (requests : Nat)
  /-- A whole algorithm was executed. -/
  | executed (moves rotations : Nat)
  /-- The preferences could not be loaded. The record does not hold the cause, which is worded by the
  library that reads them. -/
  | preferencesFailed
deriving DecidableEq

namespace LogRecord

/-- The level of a record. -/
def level : LogRecord → Level
  | issued _ => .trace
  | generated _ => .debug
  | dropped _ | executed _ _ => .info
  | rejected _ | spuriousCompletion | preferencesFailed => .warn

/-- The text of a record, without the cause where preferences could not be loaded. -/
def message : LogRecord → List Char
  | issued r => r.render
  | generated size => "generated moves for ".toList ++ size.render ++ " puzzle".toList
  | rejected e => e.message
  | spuriousCompletion => "rotation completed, but no rotation was in progress".toList
  | dropped n => "dropped ".toList ++ decimal n ++ " pending move sequence(s)".toList
  | executed m k =>
    "executed ".toList ++ decimal m ++ " move(s) as ".toList ++ decimal k ++ " rotation(s)".toList
  | preferencesFailed => "Error loading preferences".toList

end LogRecord

/-- A value together with what was reported while it was computed. -/
structure Logged (α : Type) where
  value : α
  records : List LogRecord
deriving DecidableEq

end Twisty
