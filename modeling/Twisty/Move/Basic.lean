import Twisty.Move.Modifier
import Twisty.Move.Table

/-!
# Moves

A move is a turn together with the notation that names it. The notation has two parts, a stem and a
modifier. The stem is a base move, or a layer count before a face (`3R`, or `3Rw` where a wide turn
was spelled). The modifier is already worked into the direction of the turn, so that `Move.inverse`
reverses the direction of a quarter turn and leaves a half turn as it is.
-/

namespace Twisty

open Text

/-- The notation of a move without its modifier. -/
inductive Stem where
  /-- A base move. -/
  | base (move : BaseMove)
  /-- The `count` outer layers of a face. Both spellings of a wide turn count as wide. -/
  | counted (count : Nat) (face : Face) (wide : Bool)
deriving DecidableEq, Inhabited

/-- A move of a puzzle of a certain size. -/
structure Move where
  /-- The notation without the modifier. -/
  stem : Stem
  /-- What each quarter turn of the move does. -/
  turn : Turn
  /-- The modifier of the notation. -/
  modifier : Modifier
deriving DecidableEq, Inhabited

/-- The canonical text of a stem. -/
def Stem.render : Stem → List Char
  | base b => b.render
  | counted n f wide => decimal n ++ f.letter :: if wide then ['w'] else []

namespace Move

/-- The move with the given notation, from the turn that its stem names. -/
def ofTurn (stem : Stem) (turn : Turn) (modifier : Modifier) : Move where
  stem := stem
  turn := { turn with direction := modifier.apply turn.direction }
  modifier := modifier

/-- The canonical notation of a move. -/
def render (m : Move) : List Char :=
  m.stem.render ++ m.modifier.render

/-- What the move turns. -/
def kind (m : Move) : MoveKind :=
  m.turn.kind

/-- The axis that the move turns about. -/
def axis (m : Move) : Axis :=
  m.turn.axis

/-- The direction of each quarter turn. -/
def direction (m : Move) : Direction :=
  m.turn.direction

/-- The layers that the move turns, none for a rotation of the whole puzzle. -/
def positions (m : Move) : List Nat :=
  m.kind.positions

/-- Whether the move rotates the whole puzzle. -/
def isRotation (m : Move) : Bool :=
  m.kind = .whole

/-- How many quarter turns the move is made of. -/
def repetitions (m : Move) : Nat :=
  m.modifier.repetitions

/-- The move that undoes this one. -/
def inverse (m : Move) : Move where
  stem := m.stem
  turn :=
    { m.turn with
      direction := if m.modifier = .double then m.direction else m.direction.reverse }
  modifier := m.modifier.inverse

/-- Undoing the move that undoes a move is the move itself. -/
@[simp]
theorem inverse_inverse (m : Move) : m.inverse.inverse = m := by
  obtain ⟨stem, turn, modifier⟩ := m
  cases modifier <;> simp [inverse, Modifier.inverse, direction]

/-- A move undoes itself if it is made of half turns. -/
theorem inverse_eq_self_iff {m : Move} : m.inverse = m ↔ m.modifier = .double := by
  constructor
  · intro h
    have hmodifier : m.modifier.inverse = m.modifier := congrArg Move.modifier h
    exact Modifier.inverse_eq_self_iff.1 hmodifier
  · intro h
    obtain ⟨stem, turn, modifier⟩ := m
    cases h
    rfl

end Move

end Twisty
