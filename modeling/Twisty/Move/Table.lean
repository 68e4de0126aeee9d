import Twisty.Move.Base
import Twisty.Puzzle.Size

/-!
# The move table

What a base move turns depends on the size of the puzzle. `MoveTable.ofSize` lists the base moves
that exist on a size, each with its turn: the faces, the rotations, the wide turns and, on odd sizes
only, the slices. On the smallest puzzle two layers are all of it, so that a wide turn is there a
rotation of the whole puzzle.

The table lists the layers of faces and wide turns by their numbers. `PuzzleSize.outerLayers` counts
them from the face, and `Turn.ofOutermost_eq_ofFace` and `Turn.ofWide_eq_ofFace` say that it comes
to the same.
-/

namespace Twisty

/-- What a move turns. -/
inductive MoveKind where
  /-- Some layers, in ascending order, against the rest of the puzzle. -/
  | layers (positions : List Nat)
  /-- The whole puzzle. -/
  | whole
deriving DecidableEq, Inhabited

/-- A quarter turn: what is turned, about which axis, and which way. -/
structure Turn where
  kind : MoveKind
  axis : Axis
  direction : Direction
deriving DecidableEq, Inhabited

/-- The layers of a kind, of which a rotation of the whole puzzle has none. -/
def MoveKind.positions : MoveKind → List Nat
  | layers ps => ps
  | whole => []

/-- The `count` layers nearest to a face, in ascending order. -/
def PuzzleSize.outerLayers (size : PuzzleSize) (face : Face) (count : Nat) : List Nat :=
  if face.isPositive then List.range' (size.layers - count) count else List.range count

/-- The clockwise turn of the `count` layers nearest to a face. -/
def Turn.ofFace (size : PuzzleSize) (face : Face) (count : Nat) : Turn where
  kind := .layers (size.outerLayers face count)
  axis := face.axis
  direction := face.direction

/-- The clockwise turn of the layer that a face is on. -/
def Turn.ofOutermost (size : PuzzleSize) (face : Face) : Turn :=
  ⟨.layers [if face.isPositive then size.maxIndex else 0], face.axis, face.direction⟩

/-- The wide turn of a face, which takes the next layer along. On the smallest puzzle it turns
everything. -/
def Turn.ofWide (size : PuzzleSize) (face : Face) : Turn :=
  if size = .two then ⟨.whole, face.axis, face.direction⟩
  else if face.isPositive then
    ⟨.layers [size.maxIndex - 1, size.maxIndex], face.axis, face.direction⟩
  else ⟨.layers [0, 1], face.axis, face.direction⟩

/-- The turn of a slice that is the layer at `middle`. -/
def Turn.ofSlice (middle : Nat) (slice : Slice) : Turn :=
  ⟨.layers [middle], slice.axis, slice.direction⟩

/-- The rotation of the whole puzzle about an axis, clockwise as seen from the positive end. -/
def Turn.ofRotation (axis : Axis) : Turn :=
  ⟨.whole, axis, .negative⟩

/-- The base moves that exist on a puzzle, each with its turn. -/
structure MoveTable where
  /-- The size of the puzzle. -/
  size : PuzzleSize
  /-- The base moves in order, each once. -/
  entries : List (BaseMove × Turn)
deriving DecidableEq

namespace MoveTable

/-- The slices of a puzzle: all three if it has a middle layer, none otherwise. -/
def slices (size : PuzzleSize) : List (BaseMove × Turn) :=
  match size.middleIndex? with
  | some middle => Slice.all.map fun s => (.slice s, Turn.ofSlice middle s)
  | none => []

/-- The table of a size: faces, rotations, wide turns, slices. -/
def ofSize (size : PuzzleSize) : MoveTable where
  size := size
  entries :=
    Face.all.map (fun f => (.face f, Turn.ofOutermost size f)) ++
    Axis.all.map (fun a => (.rotation a, Turn.ofRotation a)) ++
    Face.all.map (fun f => (.wide f, Turn.ofWide size f)) ++
    slices size

/-- The turn of a base move, if the puzzle has it. -/
def find? (table : MoveTable) (base : BaseMove) : Option Turn :=
  table.entries.lookup base

/-- Whether the puzzle has a base move. -/
def contains (table : MoveTable) (base : BaseMove) : Bool :=
  (table.find? base).isSome

end MoveTable

/-! ### Layers listed and layers counted -/

section Counted

variable (size : PuzzleSize) (f : Face)

/-- The one layer nearest to a face is the first or the last. -/
theorem PuzzleSize.outerLayers_one :
    size.outerLayers f 1 = [if f.isPositive then size.maxIndex else 0] := by
  unfold outerLayers
  split
  · rfl
  · rfl

/-- The two layers nearest to a face are the first two or the last two. -/
theorem PuzzleSize.outerLayers_two :
    size.outerLayers f 2 =
      if f.isPositive then [size.maxIndex - 1, size.maxIndex] else [0, 1] := by
  unfold outerLayers
  split
  · have htwo := size.two_le_layers
    have hlast : size.layers - 2 + 1 = size.maxIndex := by
      show _ = size.layers - 1
      omega
    have hlastButOne : size.layers - 2 = size.maxIndex - 1 := by
      show _ = size.layers - 1 - 1
      omega
    rw [List.range'_succ, hlast, List.range'_one, hlastButOne]
  · rfl

/-- The layer that a face is on is the one that is nearest to it. -/
theorem Turn.ofOutermost_eq_ofFace : ofOutermost size f = ofFace size f 1 := by
  rw [ofOutermost, ofFace, PuzzleSize.outerLayers_one]

/-- Except on the smallest puzzle, a wide turn is one of the first two or the last two layers. -/
theorem Turn.ofWide_of_three_le {size : PuzzleSize} (h : 3 ≤ size.layers) (f : Face) :
    ofWide size f =
      if f.isPositive then ⟨.layers [size.maxIndex - 1, size.maxIndex], f.axis, f.direction⟩
      else ⟨.layers [0, 1], f.axis, f.direction⟩ := by
  refine if_neg ?_
  rintro rfl
  exact absurd h (by decide)

/-- These are the two layers nearest to the face. -/
theorem Turn.ofWide_eq_ofFace {size : PuzzleSize} (h : 3 ≤ size.layers) (f : Face) :
    ofWide size f = ofFace size f 2 := by
  rw [ofWide_of_three_le h, ofFace, PuzzleSize.outerLayers_two]
  split
  · rfl
  · rfl

/-- On the smallest puzzle, a wide turn is a rotation. -/
theorem Turn.ofWide_two : ofWide .two f = ⟨.whole, f.axis, f.direction⟩ :=
  if_pos rfl

/-- A wide turn is about the axis of its face and in the direction of the face, on every puzzle. -/
theorem Turn.ofWide_axis_direction :
    (ofWide size f).axis = f.axis ∧ (ofWide size f).direction = f.direction := by
  rcases size.eq_two_or_three_le_layers with rfl | hthree
  · rw [ofWide_two]
    exact ⟨rfl, rfl⟩
  · rw [ofWide_eq_ofFace hthree]
    exact ⟨rfl, rfl⟩

end Counted

/-- The table of a size lists every face, wide turn and rotation, and the slices of an odd size. -/
theorem MoveTable.find?_ofSize (size : PuzzleSize) (b : BaseMove) :
    (ofSize size).find? b = match b with
      | .face f => some (.ofFace size f 1)
      | .wide f => some (.ofWide size f)
      | .slice s => size.middleIndex?.map fun middle => .ofSlice middle s
      | .rotation a => some (.ofRotation a) := by
  cases b with
  | face f =>
    have hfind : (ofSize size).find? (.face f) = some (.ofOutermost size f) := by
      cases f <;> rfl
    rw [hfind, Turn.ofOutermost_eq_ofFace]
  | wide f => cases f <;> rfl
  | rotation a => cases a <;> rfl
  | slice s =>
    have hlast : (ofSize size).find? (.slice s) = (slices size).lookup (.slice s) := by
      cases s <;> rfl
    rw [hlast, slices]
    cases size.middleIndex? with
    | none => rfl
    | some middle => cases s <;> rfl

end Twisty
