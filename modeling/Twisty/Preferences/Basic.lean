import Twisty.Puzzle.Size

/-!
# Preferences

The size that notation is read for, the range of sizes that are offered, and whether an algorithm is
refused as a whole when one of its moves is. `Preferences.checkSize` is the size with a given layer
count, if the range allows it.
-/

namespace Twisty

open Text

/-- The preferences of a user. -/
structure Preferences where
  /-- The layer count of the preferred size. -/
  puzzleSize : UInt16
  /-- The smallest layer count that is offered. -/
  minPuzzleSize : UInt16
  /-- The largest layer count that is offered. -/
  maxPuzzleSize : UInt16
  /-- Whether an algorithm is refused as a whole. -/
  strict : Bool
deriving DecidableEq

/-- Why preferences do not allow a size. -/
inductive SizeRefusal where
  /-- The layer count is outside the range that is offered. -/
  | unsupported (count least most : UInt16)
  /-- There is no such size. -/
  | impossible (error : SizeError)
deriving DecidableEq

/-- The wording of a size that preferences do not allow. -/
def SizeRefusal.message : SizeRefusal → List Char
  | unsupported count least most =>
    "puzzle size ".toList ++ decimal count.toNat ++ " is outside the supported range ".toList ++
      decimal least.toNat ++ '-' :: decimal most.toNat
  | impossible e => e.message

namespace Preferences

/-- The preferences that come with the program. -/
def builtIn : Preferences :=
  ⟨3, 2, 5, false⟩

instance : Inhabited Preferences :=
  ⟨builtIn⟩

/-- The size with a layer count, if it is within the range that is offered. -/
def checkSize (p : Preferences) (count : UInt16) : Except SizeRefusal PuzzleSize :=
  if p.minPuzzleSize ≤ count ∧ count ≤ p.maxPuzzleSize then
    match PuzzleSize.ofCount count with
    | .ok size => .ok size
    | .error e => .error (.impossible e)
  else .error (.unsupported count p.minPuzzleSize p.maxPuzzleSize)

/-- The preferred size, if it is within the range that is offered. -/
def size (p : Preferences) : Except SizeRefusal PuzzleSize :=
  p.checkSize p.puzzleSize

/-- A layer count within the range that is offered is the size with that count. -/
theorem checkSize_eq_ok_iff {p : Preferences} {count : UInt16} {size : PuzzleSize} :
    p.checkSize count = .ok size ↔
      (p.minPuzzleSize ≤ count ∧ count ≤ p.maxPuzzleSize) ∧ size.count = count := by
  unfold checkSize
  split
  · next hrange =>
    rw [← PuzzleSize.ofCount_eq_ok_iff, and_iff_right hrange]
    split <;> simp [*]
  · next hrange => exact ⟨nofun, fun h => absurd h.1 hrange⟩

end Preferences

end Twisty
