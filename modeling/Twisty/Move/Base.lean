import Twisty.Puzzle.Axis

/-!
# Base moves

The moves that have a name of their own, without a layer count and without a modifier: the turn of a
face, the wide turn of its two outer layers, the turn of a middle slice, and the rotation of the
whole puzzle. `BaseMove.parse` reads one or two characters. A wide turn has two spellings, the
lowercase letter and the uppercase letter with a `w`, of which `BaseMove.render` writes the second.
-/

namespace Twisty

/-- A move with a name of its own. -/
inductive BaseMove where
  /-- The outer layer of a face, such as `R`. -/
  | face (face : Face)
  /-- The two outer layers of a face, such as `Rw` or `r`. -/
  | wide (face : Face)
  /-- A middle slice, such as `M`. -/
  | slice (slice : Slice)
  /-- The whole puzzle, such as `x`. -/
  | rotation (axis : Axis)
deriving DecidableEq, Inhabited

namespace BaseMove

/-- The canonical spelling. -/
def render : BaseMove → List Char
  | face f => [f.letter]
  | wide f => [f.letter, 'w']
  | slice s => [s.letter]
  | rotation a => [a.letter]

/-- The base move that a single letter names. -/
def ofLetter? (c : Char) : Option BaseMove :=
  (Face.ofLetter? c).map face <|> (Face.ofWideLetter? c).map wide <|>
    (Slice.ofLetter? c).map slice <|> (Axis.ofLetter? c).map rotation

/-- The base move with the given spelling. -/
def parse : List Char → Option BaseMove
  | [c] => ofLetter? c
  | [c, 'w'] => (Face.ofLetter? c).map wide
  | _ => none

/-- The canonical spelling reads back. -/
@[simp]
theorem parse_render (b : BaseMove) : parse b.render = some b := by
  cases b with
  | face f => cases f <;> rfl
  | wide f => cases f <;> rfl
  | slice s => cases s <;> rfl
  | rotation a => cases a <;> rfl

/-- A letter names a base move as its canonical spelling or as the lowercase letter of a face. -/
theorem ofLetter?_eq_some_iff {c : Char} {b : BaseMove} :
    ofLetter? c = some b ↔ [c] = b.render ∨ ∃ f, b = wide f ∧ c = f.wideLetter := by
  constructor
  · intro h
    simp only [ofLetter?, Option.orElse_eq_orElse, ← Option.or_eq_orElse, Option.or_eq_some_iff,
      Option.map_eq_some_iff] at h
    rcases h with ⟨f, hf, rfl⟩ | ⟨-, ⟨f, hf, rfl⟩ | ⟨-, ⟨s, hs, rfl⟩ | ⟨-, a, ha, rfl⟩⟩⟩
    · rw [Face.ofLetter?_eq_some_iff.1 hf]
      exact .inl rfl
    · exact .inr ⟨f, rfl, Face.ofWideLetter?_eq_some_iff.1 hf⟩
    · rw [Slice.ofLetter?_eq_some_iff.1 hs]
      exact .inl rfl
    · rw [Axis.ofLetter?_eq_some_iff.1 ha]
      exact .inl rfl
  · rintro (h | ⟨f, rfl, rfl⟩)
    · have hread := parse_render b
      rwa [← h] at hread
    · cases f <;> rfl

/-- The spellings of a base move are the canonical one and the lowercase letter of a wide turn. -/
theorem parse_eq_some_iff {s : List Char} {b : BaseMove} :
    parse s = some b ↔ s = b.render ∨ ∃ f, b = wide f ∧ s = [f.wideLetter] := by
  constructor
  · intro h
    unfold parse at h
    split at h
    · next c =>
      rcases ofLetter?_eq_some_iff.1 h with hc | ⟨f, rfl, rfl⟩
      · exact .inl hc
      · exact .inr ⟨f, rfl, rfl⟩
    · next c =>
      obtain ⟨f, hf, rfl⟩ := Option.map_eq_some_iff.1 h
      rw [Face.ofLetter?_eq_some_iff.1 hf]
      exact .inl rfl
    · cases h
  · rintro (rfl | ⟨f, rfl, rfl⟩)
    · exact parse_render b
    · cases f <;> rfl

end BaseMove

end Twisty
