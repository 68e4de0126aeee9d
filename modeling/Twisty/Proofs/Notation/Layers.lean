import Mathlib.Data.Nat.Notation
import Twisty.Proofs.Notation.Canonical

/-!
# The layers of a move

A move either rotates the whole puzzle or turns some of its layers. `MoveKind.WellFormed` says of
what a move turns that it can be turned on a puzzle of the given size: its layers are listed in
ascending order, they are layers of the puzzle, and none are listed only where the whole puzzle is
rotated.

Layers are chosen in two places, once for the base moves and once for a layer count in front of a
face. Both choose outermost layers or the middle one, and an outermost layer is a layer of the
puzzle as long as no more of them are chosen than there are. So the turn of every stem is
well-formed (`Stem.turn?_wellFormed`), and a move and its inverse turn the same layers.

Layers are words of 16 bits. The subtractions that find them at the positive end of an axis take
away at most the layer count, so that they are those of the numbers
(`PuzzleSize.toNat_count_sub_add`).
-/

namespace Twisty

/-- What a move turns can be turned on a puzzle of the given size. -/
structure MoveKind.WellFormed (size : PuzzleSize) (kind : MoveKind) : Prop where
  /-- The layers are listed from the negative end of the axis to the positive one, each once. -/
  ascending : kind.positions.Pairwise (· < ·)
  /-- They are layers of the puzzle. -/
  lt_layers : ∀ p ∈ kind.positions, p < size.layers
  /-- A rotation of the whole puzzle lists none, and a turn of layers lists some. -/
  eq_nil_iff : kind.positions = [] ↔ kind = .whole

namespace PuzzleSize

variable {size : PuzzleSize} {face : Face} {count : ℕ}

/-- The outermost layers are listed in ascending order. -/
theorem pairwise_outerLayers : (size.outerLayers face count).Pairwise (· < ·) := by
  unfold outerLayers
  split
  · exact List.pairwise_lt_range'
  · exact List.pairwise_lt_range

/-- The outermost layers of a face at the positive end are the last ones, and those of a face at the
negative end are the first ones. -/
theorem mem_outerLayers_iff (h : count ≤ size.layers) {p : ℕ} :
    p ∈ size.outerLayers face count ↔
      if face.isPositive then size.layers ≤ p + count ∧ p < size.layers else p < count := by
  unfold outerLayers
  split
  · rw [List.mem_range'_1]
    omega
  · exact List.mem_range

/-- As many outermost layers as there are layers are all layers of the puzzle. -/
theorem lt_of_mem_outerLayers (h : count ≤ size.layers) {p : ℕ}
    (hp : p ∈ size.outerLayers face count) : p < size.layers := by
  rw [mem_outerLayers_iff h] at hp
  split at hp
  · exact hp.2
  · exact Nat.lt_of_lt_of_le hp h

/-- There are as many outermost layers as were asked for. -/
theorem length_outerLayers : (size.outerLayers face count).length = count := by
  unfold outerLayers
  split
  · exact List.length_range'
  · exact List.length_range

/-- A layer with as many layers below as above is a layer of the puzzle. -/
theorem lt_of_middleIndex?_eq_some {middle : ℕ} (h : size.middleIndex? = some middle) :
    middle < size.layers := by
  have htwo := size.two_le_layers
  unfold middleIndex? at h
  split at h
  · cases h
    omega
  · cases h

/-- In words of 16 bits, taking no more layers from the layer count than there are leaves the
others. -/
theorem toNat_count_sub_add (h : count ≤ size.layers) :
    (size.count - count.toUInt16).toNat + count = size.layers := by
  have hlt := size.layers_lt
  have hcount : count.toUInt16.toNat = count := Nat.mod_eq_of_lt (by omega)
  have hle : count.toUInt16 ≤ size.count := by
    rw [UInt16.le_iff_toNat_le, hcount]
    exact h
  rw [UInt16.toNat_sub_of_le _ _ hle, hcount]
  exact Nat.sub_add_cancel h

end PuzzleSize

namespace Turn

variable (size : PuzzleSize)

/-- A turn of outermost layers can be made if there are that many, and it is a turn of one at
least. -/
theorem ofFace_wellFormed (face : Face) {count : ℕ} (hpos : 0 < count) (h : count ≤ size.layers) :
    (ofFace size face count).kind.WellFormed size where
  ascending := PuzzleSize.pairwise_outerLayers
  lt_layers _ hp := PuzzleSize.lt_of_mem_outerLayers h hp
  eq_nil_iff := by
    have hne : size.outerLayers face count ≠ [] := by
      rw [← List.length_pos_iff, PuzzleSize.length_outerLayers]
      exact hpos
    exact ⟨fun hnil => absurd hnil hne, nofun⟩

/-- A rotation of the whole puzzle can always be made. -/
theorem whole_wellFormed : MoveKind.whole.WellFormed size where
  ascending := .nil
  lt_layers := nofun
  eq_nil_iff := ⟨fun _ => rfl, fun _ => rfl⟩

/-- Every wide turn can be made. -/
theorem ofWide_wellFormed (face : Face) : (ofWide size face).kind.WellFormed size := by
  rcases size.eq_two_or_three_le_layers with rfl | hthree
  · rw [ofWide_two]
    exact whole_wellFormed .two
  · rw [ofWide_eq_ofFace hthree]
    exact ofFace_wellFormed size face (by decide) size.two_le_layers

/-- A turn of the middle layer can be made where there is one. -/
theorem ofSlice_wellFormed {middle : ℕ} (h : size.middleIndex? = some middle) (slice : Slice) :
    (ofSlice middle slice).kind.WellFormed size where
  ascending := List.pairwise_singleton ..
  lt_layers p hp := by
    rw [List.mem_singleton.1 hp]
    exact PuzzleSize.lt_of_middleIndex?_eq_some h
  eq_nil_iff := ⟨nofun, nofun⟩

end Turn

/-- The turn that a stem names on a puzzle can be made there. -/
theorem Stem.turn?_wellFormed {size : PuzzleSize} {stem : Stem} {turn : Turn}
    (h : stem.turn? (.ofSize size) = some turn) : turn.kind.WellFormed size := by
  have htwo := size.two_le_layers
  cases stem with
  | counted count f wide =>
    -- There is a turn only if the count is at most that of the layers of the puzzle.
    obtain ⟨hcount, rfl⟩ := turn?_counted_eq_some_iff.1 h
    exact Turn.ofFace_wellFormed size f (by omega) hcount.2
  | base b =>
    rw [turn?, MoveTable.find?_ofSize] at h
    cases b with
    | face f =>
      cases h
      exact Turn.ofFace_wellFormed size f (by decide) (by omega)
    | wide f =>
      cases h
      exact Turn.ofWide_wellFormed size f
    | slice s =>
      obtain ⟨middle, hmiddle, rfl⟩ := Option.map_eq_some_iff.1 h
      exact Turn.ofSlice_wellFormed size hmiddle s
    | rotation a =>
      cases h
      exact Turn.whole_wellFormed size

namespace Move

variable {size : PuzzleSize} {m : Move}

/-- A move of a puzzle turns what can be turned there. -/
theorem IsOn.wellFormed (h : m.IsOn (.ofSize size)) : m.kind.WellFormed size := by
  obtain ⟨turn, hturn, hm⟩ := h
  have hkind : m.kind = turn.kind := by
    rw [hm]
    rfl
  rw [hkind]
  exact Stem.turn?_wellFormed hturn

/-- A counted move of a puzzle turns two layers at least, and at most all of them. -/
theorem IsOn.count_bounds (h : m.IsOn (.ofSize size)) {count : ℕ} {face : Face} {wide : Bool}
    (hstem : m.stem = .counted count face wide) : 2 ≤ count ∧ count ≤ size.layers := by
  obtain ⟨turn, hturn, -⟩ := h
  rw [hstem] at hturn
  exact (Stem.turn?_counted_eq_some_iff.1 hturn).1

/-- The layers that the rotations of a move turn are layers of the move. -/
theorem mem_positions_of_mem_expand {r : Rotation} (hr : r ∈ m.expand) {p : ℕ}
    (hp : r.position? = some p) : p ∈ m.positions := by
  cases hkind : m.kind with
  | whole =>
    rw [expand_of_whole hkind, List.mem_singleton] at hr
    rw [hr] at hp
    cases hp
  | layers ps =>
    rw [expand_of_layers hkind] at hr
    obtain ⟨sweep, hsweep, hr⟩ := List.mem_flatten.1 hr
    rw [(List.mem_replicate.1 hsweep).2] at hr
    obtain ⟨q, hq, rfl⟩ := List.mem_map.1 hr
    cases hp
    rw [positions, hkind]
    exact hq

end Move

end Twisty
