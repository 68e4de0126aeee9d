import Twisty.Puzzle.Axis

/-!
# Modifiers

The suffix of a move says how often and which way its quarter turn is made: once forwards, once
backwards (`'`), or twice (`2`). A suffix is any run of the two marks, and a `2` anywhere in it wins
over the primes (`Modifier.ofSuffix?`).
-/

namespace Twisty

/-- How the quarter turn of a move is altered. -/
inductive Modifier where
  /-- One quarter turn. -/
  | plain
  /-- One quarter turn in the opposite direction, written `'`. -/
  | prime
  /-- A half turn, made as two quarter turns and written `2`. -/
  | double
deriving DecidableEq, Inhabited

namespace Modifier

/-- The canonical suffix. -/
def render : Modifier → List Char
  | plain => []
  | prime => ['\'']
  | double => ['2']

/-- The two marks that a suffix may hold. -/
def isMark (c : Char) : Bool :=
  c == '2' || c == '\''

/-- The modifier that a suffix stands for, if it holds nothing but marks. -/
def ofSuffix? (suffix : List Char) : Option Modifier :=
  if suffix.all isMark then
    some (if '2' ∈ suffix then double else if suffix = [] then plain else prime)
  else none

/-- How many quarter turns are made. -/
def repetitions : Modifier → Nat
  | plain | prime => 1
  | double => 2

/-- The modifier that undoes this one: a half turn undoes itself. -/
def inverse : Modifier → Modifier
  | plain => prime
  | prime => plain
  | double => double

/-- The direction of the altered turn, from the direction of the unaltered one. -/
def apply : Modifier → Direction → Direction
  | prime, d => d.reverse
  | plain, d | double, d => d

@[simp]
theorem inverse_inverse (m : Modifier) : m.inverse.inverse = m := by
  cases m <;> rfl

/-- Only a half turn undoes itself. -/
theorem inverse_eq_self_iff {m : Modifier} : m.inverse = m ↔ m = double := by
  cases m <;> decide

/-- The canonical suffix reads back. -/
@[simp]
theorem ofSuffix?_render (m : Modifier) : ofSuffix? m.render = some m := by
  cases m <;> decide

/-- A suffix stands for a modifier if it holds nothing but the two marks: for a half turn if a `2`
is among them, for a turn back if there are only primes, and for a plain one if it is empty. -/
theorem ofSuffix?_eq_some_iff {s : List Char} {m : Modifier} :
    ofSuffix? s = some m ↔ (∀ c ∈ s, c = '2' ∨ c = '\'') ∧
      m = if '2' ∈ s then double else if s = [] then plain else prime := by
  have hmarks : s.all isMark = true ↔ ∀ c ∈ s, c = '2' ∨ c = '\'' := by
    simp [isMark]
  rw [← hmarks]
  unfold ofSuffix?
  by_cases h : s.all isMark = true
  · rw [if_pos h, Option.some_inj, eq_comm]
    exact (and_iff_right h).symm
  · rw [if_neg h]
    exact ⟨nofun, fun ⟨hall, _⟩ => absurd hall h⟩

/-- Only the empty suffix leaves a turn as it is. -/
theorem ofSuffix?_eq_plain_iff {s : List Char} : ofSuffix? s = some plain ↔ s = [] := by
  constructor
  · intro h
    obtain ⟨-, hplain⟩ := ofSuffix?_eq_some_iff.1 h
    split at hplain
    · cases hplain
    · split at hplain
      · assumption
      · cases hplain
  · rintro rfl
    rfl

/-- A suffix stands for no modifier if it holds something other than the two marks. -/
theorem ofSuffix?_eq_none_iff {s : List Char} :
    ofSuffix? s = none ↔ ∃ c ∈ s, c ≠ '2' ∧ c ≠ '\'' := by
  simp [ofSuffix?, isMark]

end Modifier

end Twisty
