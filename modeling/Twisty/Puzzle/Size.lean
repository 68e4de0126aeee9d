import Twisty.Text.Blank
import Twisty.Text.Numeral
import Twisty.Text.Quoted

/-!
# The size of a puzzle

A puzzle is a cube of `n` layers along each axis, with `2 ≤ n < 2^16`. The layers of an axis are
numbered from 0 at its negative end to `n - 1` at its positive end. `PuzzleSize.parse` reads a size
as a layer count (`4`) or as the count written twice around an `x` (`4x4`), and `PuzzleSize.render`
writes the second form.
-/

namespace Twisty

open Text

/-- The number of layers along each axis of a puzzle. -/
structure PuzzleSize where
  /-- The layer count as a word. -/
  count : UInt16
  /-- The smallest puzzle has two layers. -/
  two_le : 2 ≤ count.toNat
deriving DecidableEq

/-- Why a puzzle size is refused. -/
inductive SizeError where
  /-- A puzzle has at least two layers. -/
  | tooSmall (count : UInt16)
  /-- The text, without the blanks around it, is not the text of a layer count. -/
  | malformed (text : List Char)
deriving DecidableEq

/-- The wording of a refused size. -/
def SizeError.message : SizeError → List Char
  | tooSmall count => "puzzle size must be at least 2, got ".toList ++ decimal count.toNat
  | malformed text => "bad puzzle size: ".toList ++ quoted text

namespace PuzzleSize

/-- The smallest puzzle. -/
def two : PuzzleSize :=
  ⟨2, by decide⟩

/-- The puzzle that is meant when no size is given. -/
def three : PuzzleSize :=
  ⟨3, by decide⟩

instance : Inhabited PuzzleSize :=
  ⟨three⟩

/-- The number of layers along each axis. -/
def layers (size : PuzzleSize) : Nat :=
  size.count.toNat

/-- The layer at the positive end of an axis. -/
def maxIndex (size : PuzzleSize) : Nat :=
  size.layers - 1

/-- The layer with as many layers below as above, which only odd sizes have. -/
def middleIndex? (size : PuzzleSize) : Option Nat :=
  if size.layers % 2 = 1 then some (size.layers / 2) else none

/-- The size with the given layer count. -/
def ofCount (count : UInt16) : Except SizeError PuzzleSize :=
  if h : 2 ≤ count.toNat then .ok ⟨count, h⟩ else .error (.tooSmall count)

/-- The canonical text of a size, such as `3x3`. -/
def render (size : PuzzleSize) : List Char :=
  decimal size.layers ++ 'x' :: decimal size.layers

/-- The numeral of a size text: the text itself, or its two equal halves around the first `x`. -/
def numeral? (text : List Char) : Option (List Char) :=
  match text.dropWhile (· ≠ 'x') with
  | [] => some text
  | _ :: right => if text.takeWhile (· ≠ 'x') = right then some right else none

/-- The size that a text gives, once the blanks around it are gone. -/
def parse (text : List Char) : Except SizeError PuzzleSize :=
  match (numeral? (strip text)).bind unsigned? with
  | none => .error (.malformed (strip text))
  | some n => if n < UInt16.size then ofCount n.toUInt16 else .error (.malformed (strip text))

/-- Sizes with equally many layers are equal. -/
theorem ext_layers {a b : PuzzleSize} (h : a.layers = b.layers) : a = b := by
  cases a
  cases b
  simpa [layers, UInt16.toNat_inj] using h

/-- A puzzle has at least two layers. -/
theorem two_le_layers (size : PuzzleSize) : 2 ≤ size.layers :=
  size.two_le

/-- A puzzle is the smallest one, or it has at least three layers. -/
theorem eq_two_or_three_le_layers (size : PuzzleSize) : size = .two ∨ 3 ≤ size.layers := by
  rcases Nat.eq_or_lt_of_le size.two_le_layers with htwo | hthree
  · exact .inl (ext_layers htwo.symm)
  · exact .inr hthree

/-- Layer counts are words of 16 bits. -/
theorem layers_lt (size : PuzzleSize) : size.layers < 65536 :=
  size.count.toNat_lt

/-- The layers of the size built from a count are that count. -/
theorem ofCount_eq_ok_iff {count : UInt16} {size : PuzzleSize} :
    ofCount count = .ok size ↔ size.count = count := by
  unfold ofCount
  split
  · next h =>
    constructor
    · intro e
      cases e
      rfl
    · rintro rfl
      rfl
  · next h =>
    constructor
    · intro e
      cases e
    · rintro rfl
      exact absurd size.two_le h

end PuzzleSize

end Twisty
