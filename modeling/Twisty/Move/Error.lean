import Twisty.Puzzle.Axis
import Twisty.Puzzle.Size

/-!
# Refused moves

Why a token is not a move, and how that is said. All text of the user's appears in quotes, so that a
message is one line whatever the token holds.
-/

namespace Twisty

open Text

/-- Why a token is not a move on a puzzle. Tokens are given without the blanks around them. -/
inductive MoveError where
  /-- Nothing but blanks. -/
  | empty
  /-- The token does not begin with a base move. -/
  | unknownToken (token : List Char)
  /-- A slice where there is no middle layer. -/
  | sliceOnEvenSize (slice : Slice) (size : PuzzleSize)
  /-- A layer count outside `2` to the size. A larger count than fits 32 bits is given as the
  largest that does. -/
  | layerCountOutOfRange (token : List Char) (count : Nat) (size : PuzzleSize)
  /-- A layer count with something other than the turn of a face after it. -/
  | unknownNumericFace (token : List Char)
  /-- A suffix that holds something other than the two marks. -/
  | badModifier (token suffix : List Char)
deriving DecidableEq

/-- The wording of a refused move. -/
def MoveError.message : MoveError → List Char
  | empty => "empty move".toList
  | unknownToken token => "invalid notation: ".toList ++ quoted token
  | sliceOnEvenSize slice size =>
    "slice move \"".toList ++ slice.letter :: "\" is not supported on ".toList ++ size.render ++
      " puzzle (even-sized puzzles have no single middle layer)".toList
  | layerCountOutOfRange token count size =>
    "invalid layer count ".toList ++ decimal count ++ " in ".toList ++ quoted token ++
      " for ".toList ++ size.render ++ " puzzle (must be 2-".toList ++ decimal size.layers ++ [')']
  | unknownNumericFace token => "invalid face in numeric layer notation: ".toList ++ quoted token
  | badModifier token suffix =>
    "invalid modifier ".toList ++ quoted suffix ++ " in ".toList ++ quoted token

end Twisty
