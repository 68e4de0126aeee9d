import Twisty.Sequencer.Command

/-!
# The state of a sequencer

A sequencer holds the requests that are not finished, the oldest first, and the rotation that has
been issued and not yet completed. `enqueue` puts a request behind all others, `land` ends the
rotation in flight, and `clear` drops the requests. When rotations are issued and programs begin is
the business of a session. `unissued` is the view of a sequencer as the list of the rotations that
are still to come, and `pendingSteps_eq_length_unissued` says that they are what is counted.
-/

namespace Twisty

open Text

/-- A count taken over the elements of a list. -/
def tally {α : Type} (count : α → Nat) : List α → Nat
  | [] => 0
  | a :: as => count a + tally count as

/-- The counts of two lists add up. -/
@[simp]
theorem tally_append {α : Type} (count : α → Nat) (as bs : List α) :
    tally count (as ++ bs) = tally count as + tally count bs := by
  induction as with
  | nil => simp [tally]
  | cons a as ih => simp [tally, ih, Nat.add_assoc]

/-- A request to execute some moves. -/
structure Request where
  /-- The number of requests made before this one. -/
  ticket : Nat
  /-- The rotations that have not been issued yet. -/
  steps : List Rotation
  /-- The name of the program that runs when the request is done. -/
  name : List Char
  /-- The program that runs when the request is done. -/
  onDone : List Command

/-- The unfinished requests and the rotation in flight. -/
structure Sequencer where
  /-- The requests that are not finished, oldest first. -/
  requests : List Request
  /-- The rotation that has been issued and not yet completed. -/
  inFlight : Option Rotation

/-- What can be seen of a sequencer at a moment. -/
structure Status where
  idle : Bool
  inFlight : Option Rotation
  pendingSteps : Nat
  pendingRequests : Nat
deriving DecidableEq

namespace Sequencer

/-- A sequencer with nothing to do. -/
def empty : Sequencer :=
  ⟨[], none⟩

instance : Inhabited Sequencer :=
  ⟨empty⟩

/-- The rotations that have not been issued yet, in the order in which they will be. -/
def unissued (s : Sequencer) : List Rotation :=
  s.requests.flatMap Request.steps

/-- How many rotations have not been issued yet. -/
def pendingSteps (s : Sequencer) : Nat :=
  tally (fun r => r.steps.length) s.requests

/-- How many requests are not finished. -/
def pendingRequests (s : Sequencer) : Nat :=
  s.requests.length

/-- A sequencer is idle when nothing is in flight and no request is left. -/
def isIdle (s : Sequencer) : Bool :=
  s.inFlight.isNone && s.requests.isEmpty

/-- What can be seen of the sequencer. -/
def status (s : Sequencer) : Status :=
  ⟨s.isIdle, s.inFlight, s.pendingSteps, s.pendingRequests⟩

/-- The sequencer with a request behind all others. -/
def enqueue (s : Sequencer) (request : Request) : Sequencer :=
  { s with requests := s.requests ++ [request] }

/-- The sequencer without its requests. -/
def clear (s : Sequencer) : Sequencer :=
  { s with requests := [] }

/-- The sequencer once its rotation in flight has been completed. -/
def land (s : Sequencer) : Sequencer :=
  { s with inFlight := none }

/-- The text of an axis in a description. -/
def axisName : Axis → List Char
  | .x => ['X']
  | .y => ['Y']
  | .z => ['Z']

/-- The description of a rotation, with its fields named. -/
def describeRotation : Rotation → List Char
  | .whole axis angle =>
    "WholePuzzle(PuzzleRotation \x7b axis: ".toList ++ axisName axis ++
      ", angle: ".toList ++ angle.radians ++ " \x7d)".toList
  | .layer axis angle position =>
    "Layer(LayerRotation \x7b axis: ".toList ++ axisName axis ++
      ", angle: ".toList ++ angle.radians ++ ", position: ".toList ++ decimal position ++
      " \x7d)".toList

/-- The description of a sequencer, with its counts and its rotation in flight. -/
def describe (s : Sequencer) : List Char :=
  "Sequencer \x7b pending_requests: ".toList ++ decimal s.pendingRequests ++
    ", pending_steps: ".toList ++ decimal s.pendingSteps ++ ", in_flight: ".toList ++
    (match s.inFlight with
      | none => "None".toList
      | some r => "Some(".toList ++ describeRotation r ++ [')']) ++
    " \x7d".toList

/-- The number of pending steps is that of the rotations not issued yet. -/
theorem pendingSteps_eq_length_unissued (s : Sequencer) :
    s.pendingSteps = s.unissued.length := by
  unfold pendingSteps unissued
  induction s.requests with
  | nil => rfl
  | cons r rs ih => rw [List.flatMap_cons, List.length_append, tally, ih]

end Sequencer

end Twisty
