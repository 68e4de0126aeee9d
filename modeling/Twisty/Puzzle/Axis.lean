/-!
# Axes, directions, faces and slices

The geometry that the notation speaks of. Every axis runs from a negative to a positive end: `x`
from L to R, `y` from D to U, `z` from B to F. A quarter turn is positive when it is
counterclockwise as seen from the positive end. A face turns clockwise as seen from outside, so the
faces at the positive ends (R, U, F) turn in the negative direction and their opposites in the
positive one.
-/

namespace Twisty

/-- An axis of rotation. -/
inductive Axis where
  /-- Through the faces L and R. -/
  | x
  /-- Through the faces D and U. -/
  | y
  /-- Through the faces B and F. -/
  | z
deriving DecidableEq, Inhabited

/-- The sense of a quarter turn, as seen from the positive end of its axis. -/
inductive Direction where
  /-- Counterclockwise. -/
  | positive
  /-- Clockwise. -/
  | negative
deriving DecidableEq, Inhabited

/-- A face of the cube. -/
inductive Face where
  | right
  | left
  | up
  | down
  | front
  | back
deriving DecidableEq, Inhabited

/-- The middle layer of an axis, which exists on puzzles of odd size. -/
inductive Slice where
  /-- Between L and R, turning like L. -/
  | middle
  /-- Between D and U, turning like D. -/
  | equator
  /-- Between F and B, turning like F. -/
  | standing
deriving DecidableEq, Inhabited

namespace Axis

/-- The letter of the rotation of the whole puzzle about the axis. -/
def letter : Axis → Char
  | x => 'x'
  | y => 'y'
  | z => 'z'

/-- The axis with the given rotation letter. -/
def ofLetter? : Char → Option Axis
  | 'x' => some x
  | 'y' => some y
  | 'z' => some z
  | _ => none

/-- The axes in the order in which the move table lists them. -/
def all : List Axis :=
  [x, y, z]

/-- The list of them leaves no axis out. -/
@[simp]
theorem mem_all (a : Axis) : a ∈ all := by
  cases a <;> decide

/-- A letter names the axis whose letter it is. -/
theorem ofLetter?_eq_some_iff {c : Char} {a : Axis} : ofLetter? c = some a ↔ c = a.letter := by
  constructor
  · intro h
    unfold ofLetter? at h
    split at h <;> cases h <;> rfl
  · rintro rfl
    cases a <;> rfl

end Axis

namespace Direction

/-- The opposite direction. -/
def reverse : Direction → Direction
  | positive => negative
  | negative => positive

/-- The sign of the direction. -/
def sign : Direction → Char
  | positive => '+'
  | negative => '-'

@[simp]
theorem reverse_reverse (d : Direction) : d.reverse.reverse = d := by
  cases d <;> rfl

end Direction

namespace Face

/-- The axis that the face turns about. -/
def axis : Face → Axis
  | right | left => .x
  | up | down => .y
  | front | back => .z

/-- Whether the face is at the positive end of its axis. -/
def isPositive : Face → Bool
  | right | up | front => true
  | left | down | back => false

/-- The direction of a clockwise turn of the face, as seen from outside. -/
def direction (face : Face) : Direction :=
  if face.isPositive then .negative else .positive

/-- The face at the other end of the axis. -/
def opposite : Face → Face
  | right => left
  | left => right
  | up => down
  | down => up
  | front => back
  | back => front

/-- The uppercase letter of the face. -/
def letter : Face → Char
  | right => 'R'
  | left => 'L'
  | up => 'U'
  | down => 'D'
  | front => 'F'
  | back => 'B'

/-- The lowercase letter of the face, which names its wide turn. -/
def wideLetter : Face → Char
  | right => 'r'
  | left => 'l'
  | up => 'u'
  | down => 'd'
  | front => 'f'
  | back => 'b'

/-- The face with the given uppercase letter. -/
def ofLetter? : Char → Option Face
  | 'R' => some right
  | 'L' => some left
  | 'U' => some up
  | 'D' => some down
  | 'F' => some front
  | 'B' => some back
  | _ => none

/-- The face with the given lowercase letter. -/
def ofWideLetter? : Char → Option Face
  | 'r' => some right
  | 'l' => some left
  | 'u' => some up
  | 'd' => some down
  | 'f' => some front
  | 'b' => some back
  | _ => none

/-- The faces in the order in which the move table lists them. -/
def all : List Face :=
  [right, left, up, down, front, back]

/-- The list of them leaves no face out. -/
@[simp]
theorem mem_all (f : Face) : f ∈ all := by
  cases f <;> decide

/-- A face and its opposite turn about the same axis. -/
@[simp]
theorem axis_opposite (f : Face) : f.opposite.axis = f.axis := by
  cases f <;> rfl

/-- They are at different ends of it. -/
@[simp]
theorem isPositive_opposite (f : Face) : f.opposite.isPositive = !f.isPositive := by
  cases f <;> rfl

/-- So they turn in opposite directions, seen from one end. -/
@[simp]
theorem direction_opposite (f : Face) : f.opposite.direction = f.direction.reverse := by
  cases f <;> rfl

/-- An uppercase letter names the face whose letter it is. -/
theorem ofLetter?_eq_some_iff {c : Char} {f : Face} : ofLetter? c = some f ↔ c = f.letter := by
  constructor
  · intro h
    unfold ofLetter? at h
    split at h <;> cases h <;> rfl
  · rintro rfl
    cases f <;> rfl

/-- A lowercase letter names the face whose wide turn it is. -/
theorem ofWideLetter?_eq_some_iff {c : Char} {f : Face} :
    ofWideLetter? c = some f ↔ c = f.wideLetter := by
  constructor
  · intro h
    unfold ofWideLetter? at h
    split at h <;> cases h <;> rfl
  · rintro rfl
    cases f <;> rfl

end Face

namespace Slice

/-- The axis that the slice turns about. -/
def axis : Slice → Axis
  | middle => .x
  | equator => .y
  | standing => .z

/-- The face whose turn the slice follows. -/
def leader : Slice → Face
  | middle => .left
  | equator => .down
  | standing => .front

/-- The direction of the slice's turn is that of the face it follows. -/
def direction (slice : Slice) : Direction :=
  slice.leader.direction

/-- The letter of the slice. -/
def letter : Slice → Char
  | middle => 'M'
  | equator => 'E'
  | standing => 'S'

/-- The slice with the given letter. -/
def ofLetter? : Char → Option Slice
  | 'M' => some middle
  | 'E' => some equator
  | 'S' => some standing
  | _ => none

/-- The slices in the order in which the move table lists them. -/
def all : List Slice :=
  [middle, equator, standing]

/-- The list of them leaves no slice out. -/
@[simp]
theorem mem_all (s : Slice) : s ∈ all := by
  cases s <;> decide

/-- A letter names the slice whose letter it is. -/
theorem ofLetter?_eq_some_iff {c : Char} {s : Slice} : ofLetter? c = some s ↔ c = s.letter := by
  constructor
  · intro h
    unfold ofLetter? at h
    split at h <;> cases h <;> rfl
  · rintro rfl
    cases s <;> rfl

end Slice

end Twisty
