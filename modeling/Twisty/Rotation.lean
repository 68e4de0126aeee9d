import Twisty.Move.Basic

/-!
# Atomic rotations

The smallest unit of work that a puzzle is asked to do: turning one layer, or the puzzle as a whole,
by a quarter or a half turn. `Move.expand` says which rotations execute a move. A rotation of the
whole puzzle is one rotation by the full angle. A layer turn is one quarter turn for each layer and
repetition, and every layer turns once before any layer turns again, so that `r2` on a puzzle of
size 4 turns the layers 2, 3, 2, 3.
-/

namespace Twisty

open Text

/-- A signed angle of a quarter turn or of a half turn. -/
inductive Angle where
  | quarter (direction : Direction)
  | half (direction : Direction)
deriving DecidableEq, Inhabited

namespace Angle

/-- The direction of the angle. -/
def direction : Angle → Direction
  | quarter d | half d => d

/-- The angle as a number of quarter turns, counterclockwise ones counting as positive. -/
def quarters : Angle → Int
  | quarter .positive => 1
  | quarter .negative => -1
  | half .positive => 2
  | half .negative => -2

/-- The angle in the opposite direction. -/
def negate : Angle → Angle
  | quarter d => quarter d.reverse
  | half d => half d.reverse

/-- The opposite angle is as large, with the other sign. -/
@[simp]
theorem quarters_negate (a : Angle) : a.negate.quarters = -a.quarters := by
  cases a with
  | quarter d => cases d <;> rfl
  | half d => cases d <;> rfl

/-- A half turn is twice a quarter turn. -/
theorem quarters_half (d : Direction) : (half d).quarters = 2 * (quarter d).quarters := by
  cases d <;> rfl

/-- The angle in degrees with its sign, such as `-90°`. -/
def degrees : Angle → List Char
  | quarter d => d.sign :: "90°".toList
  | half d => d.sign :: "180°".toList

/-- The digits of the size of the angle in radians, in single precision. -/
def absRadians : Angle → List Char
  | quarter _ => "1.5707964".toList
  | half _ => "3.1415927".toList

/-- The angle in radians, in single precision and with a sign only if it is negative. -/
def radians (angle : Angle) : List Char :=
  match angle.direction with
  | .positive => angle.absRadians
  | .negative => '-' :: angle.absRadians

end Angle

/-- A rotation that a puzzle makes in one go. -/
inductive Rotation where
  /-- Of the whole puzzle. -/
  | whole (axis : Axis) (angle : Angle)
  /-- Of the layer at a position on the axis. -/
  | layer (axis : Axis) (angle : Angle) (position : Nat)
deriving DecidableEq, Inhabited

namespace Rotation

/-- The axis of the rotation. -/
def axis : Rotation → Axis
  | whole a _ | layer a _ _ => a

/-- The angle of the rotation. -/
def angle : Rotation → Angle
  | whole _ t | layer _ t _ => t

/-- The position of the layer, if it is the rotation of a layer. -/
def position? : Rotation → Option Nat
  | whole _ _ => none
  | layer _ _ p => some p

/-- The rotation in the opposite direction. -/
def negate : Rotation → Rotation
  | whole a t => whole a t.negate
  | layer a t p => layer a t.negate p

/-- The text of a rotation, such as `rotate layer x2 -90°`. -/
def render : Rotation → List Char
  | whole a t => "rotate puzzle ".toList ++ a.letter :: ' ' :: t.degrees
  | layer a t p => "rotate layer ".toList ++ a.letter :: decimal p ++ ' ' :: t.degrees

end Rotation

/-- The angle of a modifier's quarter turns taken together. -/
def Modifier.angle : Modifier → Direction → Angle
  | double, d => .half d
  | plain, d | prime, d => .quarter d

/-- Turning the other way is turning by the opposite angle. -/
@[simp]
theorem Modifier.angle_reverse (m : Modifier) (d : Direction) :
    m.angle d.reverse = (m.angle d).negate := by
  cases m <;> rfl

/-- The angle is that of as many quarter turns as are made. -/
theorem Modifier.angle_eq (m : Modifier) (d : Direction) :
    m.angle d = if m.repetitions = 2 then .half d else .quarter d := by
  cases m <;> rfl

/-- So it does not depend on how the modifier is written. -/
theorem Modifier.angle_congr {m m' : Modifier} (h : m.repetitions = m'.repetitions) :
    m.angle = m'.angle := by
  funext d
  rw [angle_eq, h, ← angle_eq]

/-- One quarter turn of each layer in turn. -/
def Turn.sweep (turn : Turn) (positions : List Nat) : List Rotation :=
  positions.map (.layer turn.axis (.quarter turn.direction))

/-- The rotations that execute a move, in order. -/
def Move.expand (m : Move) : List Rotation :=
  match m.kind with
  | .whole => [.whole m.axis (m.modifier.angle m.direction)]
  | .layers positions => (List.replicate m.repetitions (m.turn.sweep positions)).flatten

/-- A rotation of the whole puzzle is executed in one go. -/
theorem Move.expand_of_whole {m : Move} (h : m.kind = .whole) :
    m.expand = [.whole m.axis (m.modifier.angle m.direction)] := by
  rw [expand, h]

/-- A turn of layers is executed by sweeping over the layers, as often as the quarter turn is made.
-/
theorem Move.expand_of_layers {m : Move} {positions : List Nat} (h : m.kind = .layers positions) :
    m.expand = (List.replicate m.repetitions (m.turn.sweep positions)).flatten := by
  rw [expand, h]

/-- The rotations that execute the moves of a list, in order. -/
def expandAll (moves : List Move) : List Rotation :=
  moves.flatMap Move.expand

end Twisty
