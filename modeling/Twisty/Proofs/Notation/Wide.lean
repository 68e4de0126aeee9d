import Mathlib.Data.Nat.Notation
import Twisty.Proofs.Notation.Canonical

/-!
# Two rules for the two outer layers

The two outer layers of a face are chosen by two rules. A layer count in front of a face counts them
from the end of the axis (`PuzzleSize.outerLayers`), and the move table lists them by their numbers
(`Turn.ofWide`). The layers that are counted are the ones that are listed
(`PuzzleSize.outerLayers_two`), so that both come to the same turn (`Turn.ofWide_eq_ofFace`) on
every puzzle but the smallest, where a wide turn rotates the whole puzzle.

The five ways to spell a turn of two layers are spellings of three stems, so that they name three
moves (`Move.parse_of_spelled`), which differ in their notation only (`two_layers_agree`).
-/

namespace Twisty

open Text

/-- Two moves are made alike, though they may be written in different ways. -/
structure Move.Agrees (a b : Move) : Prop where
  kind : a.kind = b.kind
  axis : a.axis = b.axis
  direction : a.direction = b.direction
  modifier : a.modifier = b.modifier
  repetitions : a.repetitions = b.repetitions
  expand : a.expand = b.expand

/-- Moves of one turn and one modifier are made alike, whatever their notation is. -/
theorem Move.agrees_ofTurn (stem stem' : Stem) (turn : Turn) (modifier : Modifier) :
    (ofTurn stem turn modifier).Agrees (ofTurn stem' turn modifier) where
  kind := rfl
  axis := rfl
  direction := rfl
  modifier := rfl
  repetitions := rfl
  expand := rfl

/-- On every puzzle with at least three layers, the five ways to spell a turn of the two outer
layers of a face are accepted, with any zeros before the count of the layers and any marks behind
the letters. A wide turn is the same move in uppercase and in lowercase, with a layer count and
without one. All five are made alike. -/
theorem two_layers_agree {size : PuzzleSize} (hsize : 3 ≤ size.layers) (f : Face)
    (zeros : ℕ) {suffix : List Char} (hsuffix : ∀ c ∈ suffix, c = '2' ∨ c = '\'') :
    let n := Notation.ofSize size
    let two := List.replicate zeros '0' ++ ['2']
    ∃ counted wide base : Move,
      n.move (two ++ [f.letter] ++ suffix) = .ok counted ∧
      n.move (two ++ [f.letter, 'w'] ++ suffix) = .ok wide ∧
      n.move (two ++ [f.wideLetter] ++ suffix) = .ok wide ∧
      n.move ([f.letter, 'w'] ++ suffix) = .ok base ∧
      n.move ([f.wideLetter] ++ suffix) = .ok base ∧
      counted.Agrees base ∧ wide.Agrees base := by
  intro n two
  obtain ⟨modifier, hmodifier⟩ : ∃ m, Modifier.ofSuffix? suffix = some m :=
    ⟨_, Modifier.ofSuffix?_eq_some_iff.2 ⟨hsuffix, rfl⟩⟩
  have hdigits : isDigits two = true := by
    simp [two, isDigits]
  have hvalue : ofDecimal two = 2 := ofDecimal_replicate_zero_append zeros ['2']
  -- Both rules give the turn of two layers: the first by the count, the second by the size.
  have hcounted : ∀ wide, (Stem.counted (ofDecimal two) f wide).turn? n.table =
      some (.ofFace size f 2) := by
    intro wide
    rw [hvalue]
    exact if_pos ⟨Nat.le_refl 2, Nat.le_of_succ_le hsize⟩
  have hbase : (Stem.base (.wide f)).turn? n.table = some (.ofFace size f 2) := by
    have hfind : (Stem.base (.wide f)).turn? n.table = some (.ofWide size f) :=
      MoveTable.find?_ofSize size (.wide f)
    rw [hfind, Turn.ofWide_eq_ofFace hsize]
  exact ⟨_, _, _,
    Move.parse_of_spelled (.counted hdigits f false false) (hcounted _) hmodifier,
    Move.parse_of_spelled (.counted hdigits f false true) (hcounted _) hmodifier,
    Move.parse_of_spelled (.counted hdigits f true false) (hcounted _) hmodifier,
    Move.parse_of_spelled (.named (.wide f)) hbase hmodifier,
    Move.parse_of_spelled (.lowercase f) hbase hmodifier,
    Move.agrees_ofTurn .., Move.agrees_ofTurn ..⟩

/-- Five spellings of half a turn of the layers 2 and 3 of a puzzle with four layers. -/
theorem two_layers_agree_on_four :
    ∃ counted wide base : Move,
      (Notation.ofSize ⟨4, by decide⟩).move "002R2'".toList = .ok counted ∧
      (Notation.ofSize ⟨4, by decide⟩).move "002Rw2'".toList = .ok wide ∧
      (Notation.ofSize ⟨4, by decide⟩).move "002r2'".toList = .ok wide ∧
      (Notation.ofSize ⟨4, by decide⟩).move "Rw2'".toList = .ok base ∧
      (Notation.ofSize ⟨4, by decide⟩).move "r2'".toList = .ok base ∧
      counted.Agrees base ∧ wide.Agrees base ∧
      counted.expand.filterMap Rotation.position? = [2, 3, 2, 3] := by
  have hsize : 3 ≤ PuzzleSize.layers ⟨4, by decide⟩ := by decide
  have hsuffix : ∀ c ∈ "2'".toList, c = '2' ∨ c = '\'' := by simp
  obtain ⟨counted, wide, base, hcounted, hwide, hlower, hbase, hlast, hagrees⟩ :=
    two_layers_agree hsize .right 2 hsuffix
  have hturn : (Notation.ofSize ⟨4, by decide⟩).move "002R2'".toList =
      .ok (.ofTurn (.counted 2 .right false) (.ofFace ⟨4, by decide⟩ .right 2) .double) := by rfl
  have hexpand : counted.expand.filterMap Rotation.position? = [2, 3, 2, 3] := by
    rw [Except.ok.inj (hcounted.symm.trans hturn)]
    decide
  exact ⟨counted, wide, base, hcounted, hwide, hlower, hbase, hlast, hagrees.1, hagrees.2, hexpand⟩

/-- On the smallest puzzle, two counted layers are turned where a wide turn rotates all of it. -/
example : ((Notation.ofSize .two).move "2R".toList).map Move.kind = .ok (.layers [0, 1]) ∧
    ((Notation.ofSize .two).move "Rw".toList).map Move.kind = .ok .whole :=
  ⟨rfl, rfl⟩

end Twisty
