import Mathlib.Algebra.BigOperators.Group.List.Basic
import Mathlib.Algebra.Group.Commute.Basic
import Mathlib.Data.Fin.Rev
import Mathlib.GroupTheory.Perm.Support
import Twisty.Proofs.Notation.Inversion

/-!
# An algorithm and its inverse cancel

An `Interpretation` reads rotations in a group, of which it assumes that four equal quarter turns
are nothing and that the layers of one axis commute. The rotations of a move are there a power of a
single turn (`Interpretation.effect_expand`), that of all layers of the move together or that of the
whole puzzle, and the exponents of a move and of its inverse add up to a multiple of four
(`Move.four_dvd_quarters_add`). So a move and its inverse cancel, for half turns and for turns of
several layers as well, although neither repeats the rotations of the other backwards. The moves of
a text and of its inverse then cancel from the inside out
(`Interpretation.effect_algorithm_append_invertAlgorithm`).

`Interpretation.cells` reads rotations as they move the cells of a cube, where the turns of
different axes do not commute.
-/

namespace Twisty

/-! ### The quarter turns of a move -/

/-- The quarter turns of a move, counterclockwise ones counting as positive. -/
def Move.quarters (m : Move) : ℤ :=
  (m.modifier.angle m.direction).quarters

/-- A move is so many quarter turns as it has repetitions. -/
theorem Move.quarters_eq (m : Move) :
    m.quarters = m.repetitions * (Angle.quarter m.direction).quarters := by
  rw [Move.quarters, Move.repetitions]
  cases m.modifier <;> cases m.direction <;> rfl

/-- The quarter turns of a move and of its inverse add up to whole turns. -/
theorem Move.four_dvd_quarters_add (m : Move) : 4 ∣ m.quarters + m.inverse.quarters := by
  have hsum : ∀ (modifier : Modifier) (d : Direction), 4 ∣ (modifier.angle d).quarters +
      (modifier.inverse.angle (if modifier = .double then d else d.reverse)).quarters := by
    intro modifier d
    cases modifier <;> cases d <;> decide
  exact hsum m.modifier m.direction

/-! ### Readings in a group -/

/-- A reading of rotations in a group. -/
structure Interpretation (G : Type*) [Group G] where
  /-- The positive quarter turn of the layer at a position. -/
  layer : Axis → ℕ → G
  /-- The positive quarter turn of the whole puzzle. -/
  whole : Axis → G
  /-- Four quarter turns of a layer are nothing. -/
  layer_pow_four : ∀ axis p, layer axis p ^ 4 = 1
  /-- Four quarter turns of the whole puzzle are nothing. -/
  whole_pow_four : ∀ axis, whole axis ^ 4 = 1
  /-- The layers of an axis turn independently of each other. -/
  commute : ∀ axis p p', Commute (layer axis p) (layer axis p')

namespace Interpretation

variable {G : Type*} [Group G]

/-- Every group has the reading in which nothing turns. -/
instance : Inhabited (Interpretation G) :=
  ⟨⟨fun _ _ => 1, fun _ => 1, fun _ _ => one_pow 4, fun _ => one_pow 4, fun _ _ _ => .refl 1⟩⟩

variable (I : Interpretation G)

/-- A rotation is the power that its angle counts in quarter turns. -/
def rotation : Rotation → G
  | .whole axis angle => I.whole axis ^ angle.quarters
  | .layer axis angle p => I.layer axis p ^ angle.quarters

/-- Rotations in order are the product of their readings. -/
def effect (rotations : List Rotation) : G :=
  (rotations.map I.rotation).prod

/-- Rotations that follow one another multiply. -/
@[simp]
theorem effect_append (rs ss : List Rotation) : I.effect (rs ++ ss) = I.effect rs * I.effect ss := by
  simp [effect]

/-- Rotations that are repeated are a power. -/
theorem effect_flatten_replicate (n : ℕ) (rs : List Rotation) :
    I.effect (List.replicate n rs).flatten = I.effect rs ^ n := by
  induction n with
  | zero => simp [effect]
  | succ n ih => rw [List.replicate_succ, List.flatten_cons, effect_append, ih, pow_succ']

/-! ### The rotations of a move -/

/-- So many positive quarter turns of everything that a move turns. -/
def turn (axis : Axis) (k : ℤ) : MoveKind → G
  | .layers ps => (ps.map fun p => I.layer axis p ^ k).prod
  | .whole => I.whole axis ^ k

/-- Turns of the same kind add up. -/
theorem turn_mul_turn (axis : Axis) (j k : ℤ) (kind : MoveKind) :
    I.turn axis j kind * I.turn axis k kind = I.turn axis (j + k) kind := by
  cases kind with
  | whole => exact (zpow_add _ _ _).symm
  | layers ps =>
    simp only [turn]
    induction ps with
    | nil => simp
    | cons p ps ih =>
      -- The second turn of the first layer moves in front of the first turns of the others.
      have hcomm : Commute (ps.map fun p => I.layer axis p ^ j).prod (I.layer axis p ^ k) := by
        refine (Commute.list_prod_right _ _ ?_).symm
        intro g hg
        obtain ⟨p', -, rfl⟩ := List.mem_map.1 hg
        exact (I.commute axis p p').zpow_zpow k j
      simp only [List.map_cons, List.prod_cons]
      rw [hcomm.mul_mul_mul_comm, ih, zpow_add]

/-- Whole turns are nothing. -/
theorem turn_eq_one (axis : Axis) {k : ℤ} (hk : 4 ∣ k) (kind : MoveKind) :
    I.turn axis k kind = 1 := by
  have hpow : ∀ g : G, g ^ 4 = 1 → g ^ k = 1 := by
    intro g hg
    obtain ⟨i, rfl⟩ := hk
    have hfour : g ^ (4 : ℤ) = 1 := by exact_mod_cast hg
    rw [zpow_mul, hfour, one_zpow]
  cases kind with
  | whole => exact hpow _ (I.whole_pow_four axis)
  | layers ps =>
    refine List.prod_eq_one ?_
    intro g hg
    obtain ⟨p, -, rfl⟩ := List.mem_map.1 hg
    exact hpow _ (I.layer_pow_four axis p)

/-- A turn that is repeated is a turn of the same kind. -/
theorem turn_pow (axis : Axis) (k : ℤ) (kind : MoveKind) (n : ℕ) :
    I.turn axis k kind ^ n = I.turn axis (n * k) kind := by
  induction n with
  | zero => simp [I.turn_eq_one axis (Int.dvd_zero 4) kind]
  | succ n ih =>
    have hsum : ((n + 1 : ℕ) : ℤ) * k = n * k + k := by
      rw [Int.natCast_succ, Int.add_mul, Int.one_mul]
    rw [pow_succ, ih, turn_mul_turn, hsum]

/-- One sweep over the layers of a turn is a quarter turn of all of them. -/
theorem effect_sweep (t : Turn) (ps : List ℕ) :
    I.effect (t.sweep ps) = I.turn t.axis (Angle.quarter t.direction).quarters (.layers ps) := by
  rw [effect, Turn.sweep, List.map_map]
  rfl

/-- The rotations of a move turn all that it turns by its quarter turns. -/
theorem effect_expand (m : Move) : I.effect m.expand = I.turn m.axis m.quarters m.kind := by
  cases hkind : m.kind with
  | whole => simp [Move.expand_of_whole hkind, effect, rotation, turn, Move.quarters]
  | layers ps =>
    rw [Move.expand_of_layers hkind, effect_flatten_replicate, effect_sweep, turn_pow, Move.quarters_eq]
    rfl

/-- A move and its inverse cancel. -/
theorem effect_expand_mul_inverse (m : Move) :
    I.effect m.expand * I.effect m.inverse.expand = 1 := by
  rw [effect_expand, effect_expand]
  calc I.turn m.axis m.quarters m.kind * I.turn m.inverse.axis m.inverse.quarters m.inverse.kind
      = I.turn m.axis (m.quarters + m.inverse.quarters) m.kind := I.turn_mul_turn ..
    _ = 1 := I.turn_eq_one _ m.four_dvd_quarters_add _

/-! ### Algorithms -/

/-- Moves cancel with their inverses from the last to the first. -/
theorem effect_expandAll_mul_inverse (ms : List Move) :
    I.effect (expandAll ms) * I.effect (expandAll (ms.reverse.map Move.inverse)) = 1 := by
  induction ms with
  | nil => simp [expandAll, effect]
  | cons m ms ih =>
    have hfirst : expandAll (m :: ms) = m.expand ++ expandAll ms := List.flatMap_cons
    have hlast : expandAll ((m :: ms).reverse.map Move.inverse) =
        expandAll (ms.reverse.map Move.inverse) ++ m.inverse.expand := by
      simp [expandAll]
    rw [hfirst, hlast, effect_append, effect_append]
    -- The later moves cancel in the middle, between the first move and its inverse.
    calc I.effect m.expand * I.effect (expandAll ms) *
          (I.effect (expandAll (ms.reverse.map Move.inverse)) * I.effect m.inverse.expand)
        = I.effect m.expand *
          (I.effect (expandAll ms) * I.effect (expandAll (ms.reverse.map Move.inverse))) *
            I.effect m.inverse.expand := by simp only [mul_assoc]
      _ = I.effect m.expand * I.effect m.inverse.expand := by rw [ih, mul_one]
      _ = 1 := I.effect_expand_mul_inverse m

/-- Executing an algorithm and then its inverse, both as the notation of a size reads them, turns
nothing in the end. -/
theorem effect_algorithm_append_invertAlgorithm (size : PuzzleSize) (text : List Char) :
    I.effect (expandAll ((Notation.ofSize size).algorithm text).value ++
      expandAll ((Notation.ofSize size).algorithm
        ((Notation.ofSize size).invertAlgorithm text).value).value) = 1 := by
  rw [Notation.algorithm_invertAlgorithm, effect_append]
  exact I.effect_expandAll_mul_inverse _

end Interpretation

/-! ### The cells of a cube -/

/-- A cell of a cube, by its layers along the three axes. -/
structure Cell (n : ℕ) where
  x : Fin n
  y : Fin n
  z : Fin n
deriving DecidableEq

section Cells

variable {n : ℕ}

/-- The layer of an axis that a cell is in. -/
def Cell.position (cell : Cell n) : Axis → Fin n
  | .x => cell.x
  | .y => cell.y
  | .z => cell.z

/-- Where a positive quarter turn of the whole cube takes a cell. -/
def Cell.turned : Cell n → Axis → Cell n
  | ⟨x, y, z⟩, .x => ⟨x, z.rev, y⟩
  | ⟨x, y, z⟩, .y => ⟨z, y, x.rev⟩
  | ⟨x, y, z⟩, .z => ⟨y.rev, x, z⟩

/-- A cell stays in its layer of the axis. -/
theorem Cell.position_turned (cell : Cell n) (axis : Axis) :
    (cell.turned axis).position axis = cell.position axis := by
  cases axis <;> rfl

/-- Four quarter turns take it back. -/
theorem Cell.turned_four_times (cell : Cell n) (axis : Axis) :
    (((cell.turned axis).turned axis).turned axis).turned axis = cell := by
  cases axis <;> simp [turned]

variable (n)

/-- The positive quarter turn of the whole cube. -/
def cubeTurn (axis : Axis) : Equiv.Perm (Cell n) where
  toFun cell := cell.turned axis
  invFun cell := ((cell.turned axis).turned axis).turned axis
  left_inv cell := cell.turned_four_times axis
  right_inv cell := cell.turned_four_times axis

theorem cubeTurn_pow_four (axis : Axis) : cubeTurn n axis ^ 4 = 1 :=
  Equiv.ext fun cell => cell.turned_four_times axis

/-- The positive quarter turn of a layer, if the cube has it. -/
def layerTurn (axis : Axis) (p : ℕ) : Equiv.Perm (Cell n) :=
  Equiv.Perm.ofSubtype ((cubeTurn n axis).subtypePerm (p := fun cell => (cell.position axis : ℕ) = p)
    fun cell => by rw [← cell.position_turned axis]; rfl)

theorem layerTurn_pow_four (axis : Axis) (p : ℕ) : layerTurn n axis p ^ 4 = 1 := by
  rw [layerTurn, ← map_pow, Equiv.Perm.subtypePerm_pow]
  simp only [cubeTurn_pow_four]
  exact map_one _

/-- The layers of an axis share no cells. -/
theorem layerTurn_commute (axis : Axis) (p p' : ℕ) :
    Commute (layerTurn n axis p) (layerTurn n axis p') := by
  by_cases hp : p = p'
  · rw [hp]
  · refine Equiv.Perm.Disjoint.commute fun cell => ?_
    by_cases hcell : (cell.position axis : ℕ) = p
    · exact .inr (Equiv.Perm.ofSubtype_apply_of_not_mem _ fun h => hp (hcell.symm.trans h))
    · exact .inl (Equiv.Perm.ofSubtype_apply_of_not_mem _ hcell)

/-- Rotations as they move the cells of a cube. -/
def Interpretation.cells : Interpretation (Equiv.Perm (Cell n)) where
  layer := layerTurn n
  whole := cubeTurn n
  layer_pow_four := layerTurn_pow_four n
  whole_pow_four := cubeTurn_pow_four n
  commute := layerTurn_commute n

end Cells

namespace Interpretation

/-- Some turns move a corner of a cube of size 3, and in another order they leave it where it is.
With their inverse behind them they move nothing. -/
theorem effect_cancels_on_cells :
    let n := Notation.ofSize .three
    let rotations := fun text : String => expandAll (n.algorithm text.toList).value
    let corner : Cell 3 := ⟨2, 2, 2⟩
    (cells 3).effect (rotations "u2 R q x'") corner = ⟨0, 2, 0⟩ ∧
      (cells 3).effect (rotations "R u2 q x'") corner = corner ∧
      (cells 3).effect (rotations "u2 R q x'" ++
        expandAll (n.algorithm (n.invertAlgorithm "u2 R q x'".toList).value).value) = 1 := by
  refine ⟨?_, ?_, (cells 3).effect_algorithm_append_invertAlgorithm .three _⟩
  · decide
  · decide

end Interpretation

end Twisty
