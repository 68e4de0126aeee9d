import Twisty.Sequencer.Basic

/-!
# The journal of a session

Everything that happens to a sequencer, in order: which requests are made and dropped, which
rotations are issued and completed, which programs begin and what their commands answer. The log of
a session, the rotations that the puzzle received and the reports on single commands are all read
off the journal.
-/

namespace Twisty

/-- Where a command stands: by itself, or in the program of a request with the given name. -/
inductive Site where
  | outside
  | program (name : List Char)
deriving DecidableEq

/-- Something that happened. -/
inductive Occurrence where
  /-- A notation reported something. -/
  | logged (record : LogRecord)
  /-- A request was made, while notation was read for a puzzle of the given size. -/
  | requested (request : Request) (size : PuzzleSize)
  /-- A rotation of the request with the given ticket was handed to the puzzle, which shows the turn
  of a layer without animation if it is immediate. -/
  | issued (ticket : Nat) (rotation : Rotation) (immediate : Bool)
  /-- The rotation in flight was completed. -/
  | completed (rotation : Rotation)
  /-- A completion was reported while nothing was in flight. -/
  | spurious
  /-- The unfinished requests were dropped. -/
  | cleared (requests : List Request)
  /-- The program of a finished request began. -/
  | began (ticket : Nat) (name : List Char) (status : Status)
  /-- A command was answered. -/
  | answered (site : Site) (reply : Reply) (status : Status)

namespace Occurrence

/-- The record that the log has of an occurrence. -/
def record? : Occurrence → Option LogRecord
  | logged r => some r
  | issued _ r _ => some (.issued r)
  | spurious => some .spuriousCompletion
  | cleared (r :: rs) => some (.dropped (r :: rs).length)
  | _ => none

/-- The rotation that was handed to the puzzle. -/
def rotation? : Occurrence → Option Rotation
  | issued _ r _ => some r
  | _ => none

/-- The rotation that was handed to the puzzle, and whether it is immediate. -/
def handed? : Occurrence → Option (Rotation × Bool)
  | issued _ r immediate => some (r, immediate)
  | _ => none

/-- The answer to a command that stands by itself. -/
def reply? : Occurrence → Option Reply
  | answered .outside reply _ => some reply
  | _ => none

end Occurrence

/-- The occurrences so far, in order. -/
abbrev Journal := Array Occurrence

namespace Journal

/-- The rotations that the puzzle has received, in order. -/
def received (j : Journal) : List Rotation :=
  j.toList.filterMap Occurrence.rotation?

/-- What the puzzle has been handed, in order. -/
def handed (j : Journal) : List (Rotation × Bool) :=
  j.toList.filterMap Occurrence.handed?

/-- The log, in order. -/
def records (j : Journal) : List LogRecord :=
  j.toList.filterMap Occurrence.record?

/-- The answer to the last command that stands by itself. -/
def reply (j : Journal) : Reply :=
  (j.toList.filterMap Occurrence.reply?).getLast?.getD .nothing

/-- Whether the program of any request has begun. -/
def anyBegan (j : Journal) : Bool :=
  j.any fun
    | .began _ _ _ => true
    | _ => false

end Journal

end Twisty
