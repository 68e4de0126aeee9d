import Mathlib.Data.List.Basic
import Mathlib.Data.List.TakeWhile
import Twisty.Proofs.Notation.Grammar
import Twisty.Proofs.Notation.Layers

/-!
# Layers nearest to a face, and the mirror between opposite faces

A layer count in front of a face (`CountsFrom`) takes the layers that are nearest to the face.
`PuzzleSize.depth` is how many layers are between a layer and a face, so that these are the layers
of a depth below the count (`PuzzleSize.mem_outerLayers_iff_depth_lt`). A count from one side and
the rest of the layers from the other share no layer and leave none out
(`PuzzleSize.mem_outerLayers_opposite_iff`).

The puzzle looks the same from both ends of an axis. A turn seen in the mirror (`Turn.mirror`) turns
the layers counted from the other end, the other way round, and it is the turn of the opposite face
(`Stem.turn?_opposite`). In a token, the opposite face has another letter, and all else stays as it
is (`exchange`). What is spelled then is the opposite stem (`Stem.Spelled.map_exchange`), so that
the token names the move in the mirror (`Move.parse_map_exchange`).
-/

namespace Twisty

open Text

/-! ### Exchanging a face for its opposite -/

/-- The letter of the opposite face in the same case. All other characters stay as they are. -/
def exchange (c : Char) : Char :=
  match Face.ofEitherLetter? c with
  | some (f, lower) => f.opposite.letterAs lower
  | none => c

/-- The letter of a face is exchanged for that of the opposite face. -/
theorem exchange_letterAs (f : Face) (lower : Bool) :
    exchange (f.letterAs lower) = f.opposite.letterAs lower := by
  rw [exchange, Face.ofEitherLetter?_letterAs]

/-- A character that is exchanged is the letter of a face. -/
theorem exists_letterAs_or_exchange_eq (c : Char) :
    (∃ f lower, c = Face.letterAs f lower) ∨ exchange c = c := by
  unfold exchange
  split
  · next f lower hread => exact .inl ⟨f, lower, Face.ofEitherLetter?_eq_some_iff.1 hread⟩
  · exact .inr rfl

/-- All letters of faces, and other characters of the notation. -/
example : "RLUDFB rludfb Mxw'2".toList.map exchange = "LRDUBF lrdubf Mxw'2".toList := by decide

/-- The letter of a face is not a blank. -/
theorem Face.isBlank_letterAs (f : Face) (lower : Bool) : isBlank (f.letterAs lower) = false := by
  cases f <;> cases lower <;> rfl

/-- Blanks stay blanks, and nothing else becomes one. -/
theorem isBlank_exchange (c : Char) : isBlank (exchange c) = isBlank c := by
  rcases exists_letterAs_or_exchange_eq c with ⟨f, lower, rfl⟩ | hc
  · rw [exchange_letterAs, Face.isBlank_letterAs, Face.isBlank_letterAs]
  · rw [hc]

/-- Characters that are no letters of faces stay as they are. -/
theorem map_exchange_eq_self {s : List Char} (h : ∀ c ∈ s, ∀ f lower, c ≠ Face.letterAs f lower) :
    s.map exchange = s := by
  refine (List.map_congr_left fun c hc => ?_).trans (List.map_id s)
  rcases exists_letterAs_or_exchange_eq c with ⟨f, lower, hletter⟩ | hsame
  · exact absurd hletter (h c hc f lower)
  · exact hsame

/-- A run of digits stays as it is. -/
theorem map_exchange_of_isDigits {digits : List Char} (h : isDigits digits = true) :
    digits.map exchange = digits := by
  refine map_exchange_eq_self fun c hc f lower hletter => ?_
  have hdigit := isDigit_of_mem h hc
  rw [hletter, f.isDigit_letterAs] at hdigit
  cases hdigit

/-- A suffix that stands for a modifier does not hold the letter of a face. -/
theorem Modifier.letterAs_not_mem_of_ofSuffix? {suffix : List Char} {m : Modifier}
    (h : ofSuffix? suffix = some m) (f : Face) (lower : Bool) : f.letterAs lower ∉ suffix := by
  intro hmem
  rcases (ofSuffix?_eq_some_iff.1 h).1 _ hmem with hmark | hmark
  · cases f <;> cases lower <;> exact absurd hmark (by decide)
  · cases f <;> cases lower <;> exact absurd hmark (by decide)

/-- So it stays as it is. -/
theorem map_exchange_of_ofSuffix? {suffix : List Char} {m : Modifier}
    (h : Modifier.ofSuffix? suffix = some m) : suffix.map exchange = suffix := by
  refine map_exchange_eq_self fun c hc f lower hletter => ?_
  rw [hletter] at hc
  exact Modifier.letterAs_not_mem_of_ofSuffix? h f lower hc

/-- Where blanks stay blanks and nothing else becomes one, the same blanks are taken off. -/
theorem strip_map {g : Char → Char} (h : ∀ c, isBlank (g c) = isBlank c) (s : List Char) :
    strip (s.map g) = (strip s).map g := by
  have hblank : isBlank ∘ g = isBlank := funext h
  have hdrop : ∀ t : List Char, (t.map g).dropWhile isBlank = (t.dropWhile isBlank).map g := by
    intro t
    rw [List.dropWhile_map, hblank]
  rw [strip, strip, stripStart, stripStart, hdrop, stripEnd, stripEnd, ← List.map_reverse, hdrop,
    ← List.map_reverse]

/-- What is not a blank is not taken off. -/
theorem mem_strip {c : Char} (hc : isBlank c = false) {s : List Char} (h : c ∈ s) : c ∈ strip s := by
  have hdrop : ∀ t : List Char, c ∈ t → c ∈ t.dropWhile isBlank := by
    intro t ht
    rw [← List.takeWhile_append_dropWhile (p := isBlank) (l := t)] at ht
    rcases List.mem_append.1 ht with ht | ht
    · rw [List.mem_takeWhile_imp ht] at hc
      cases hc
    · exact ht
  rw [strip, stripEnd, List.mem_reverse]
  exact hdrop _ (List.mem_reverse.2 (hdrop s h))

/-! ### Opposite stems -/

/-- The base move of the opposite face, if it is the move of a face. -/
def BaseMove.opposite : BaseMove → BaseMove
  | face f => face f.opposite
  | wide f => wide f.opposite
  | slice s => slice s
  | rotation a => rotation a

/-- The stem with the opposite face, if it names a face. -/
def Stem.opposite : Stem → Stem
  | base b => base b.opposite
  | counted n f wide => counted n f.opposite wide

/-- Whether a stem names a face. -/
def Stem.hasFace : Stem → Bool
  | base (.face _) | base (.wide _) | counted _ _ _ => true
  | base (.slice _) | base (.rotation _) => false

/-- With the letters exchanged, the text of a base move is that of the opposite base move. -/
theorem BaseMove.render_opposite (b : BaseMove) : b.opposite.render = b.render.map exchange := by
  cases b with
  | face f => cases f <;> rfl
  | wide f => cases f <;> rfl
  | slice s => cases s <;> rfl
  | rotation a => cases a <;> rfl

/-- With the letters exchanged, the spelling of a stem spells the opposite stem. -/
theorem Stem.Spelled.map_exchange {text : List Char} {stem : Stem} (h : stem.Spelled text) :
    stem.opposite.Spelled (text.map exchange) := by
  cases h with
  | named b =>
    rw [← b.render_opposite]
    exact .named b.opposite
  | lowercase f =>
    have hletter : [f.wideLetter].map exchange = [f.opposite.wideLetter] := by
      cases f <;> rfl
    rw [hletter]
    exact .lowercase f.opposite
  | @counted digits hdigits f lower w =>
    have hw : (if w then ['w'] else []).map exchange = if w then ['w'] else [] := by
      cases w <;> rfl
    rw [List.map_append, List.map_cons, map_exchange_of_isDigits hdigits, exchange_letterAs, hw]
    exact .counted hdigits f.opposite lower w

/-- A stem whose spelling holds the letter of a face names a face. -/
theorem Stem.Spelled.hasFace {text : List Char} {stem : Stem} (h : stem.Spelled text) {c : Char}
    (hc : c ∈ text) (hletter : c ∈ faceLetters ++ wideLetters) : stem.hasFace = true := by
  -- The letters of slices and rotations are not among those of the faces.
  have hother : ∀ b : BaseMove, (Stem.base b).hasFace = false →
      ∀ c ∈ b.render, c ∉ faceLetters ++ wideLetters := by
    intro b hb
    cases b with
    | face f => cases hb
    | wide f => cases hb
    | slice s => exact List.forall_mem_singleton.2 (by cases s <;> decide)
    | rotation a => exact List.forall_mem_singleton.2 (by cases a <;> decide)
  cases h with
  | named b =>
    by_contra hface
    exact hother b (Bool.eq_false_iff.2 hface) c hc hletter
  | lowercase f => rfl
  | counted hdigits f lower w => rfl

/-! ### Turns in the mirror -/

/-- The same layers, counted from the other end of the axis. -/
def MoveKind.mirror (size : PuzzleSize) : MoveKind → MoveKind
  | layers ps => layers (ps.map (size.layers - 1 - ·)).reverse
  | whole => whole

/-- The turn as it is seen from the other end of the axis. -/
def Turn.mirror (size : PuzzleSize) (turn : Turn) : Turn :=
  ⟨turn.kind.mirror size, turn.axis, turn.direction.reverse⟩

/-- The move as it is seen from the other end of the axis, named for the opposite face. -/
def Move.mirror (size : PuzzleSize) (m : Move) : Move :=
  ⟨m.stem.opposite, m.turn.mirror size, m.modifier⟩

namespace PuzzleSize

variable {size : PuzzleSize} {f : Face} {count : ℕ}

/-- The outermost layers are numbered from 0 at the negative end, and up to the last layer at the
positive end. -/
theorem getElem_outerLayers {i : ℕ} (hi : i < (size.outerLayers f count).length) :
    (size.outerLayers f count)[i] = if f.isPositive then size.layers - count + i else i := by
  simp only [outerLayers]
  by_cases hf : f.isPositive = true
  · simp [hf]
  · simp [hf]

/-- The layers nearest to the opposite face are those nearest to the face, counted from the other
end. -/
theorem outerLayers_opposite (h : count ≤ size.layers) : size.outerLayers f.opposite count =
    ((size.outerLayers f count).map (size.layers - 1 - ·)).reverse := by
  refine List.ext_getElem (by simp [length_outerLayers]) fun i hi _ => ?_
  rw [length_outerLayers] at hi
  simp only [getElem_outerLayers, List.getElem_reverse, List.getElem_map, List.length_map,
    length_outerLayers, Face.isPositive_opposite]
  cases f.isPositive
  · simp
    omega
  · simp
    omega

end PuzzleSize

section Opposite

variable {size : PuzzleSize}

/-- Layers that are counted from the opposite face turn as in the mirror. -/
theorem Turn.ofFace_opposite {count : ℕ} (h : count ≤ size.layers) (f : Face) :
    ofFace size f.opposite count = (ofFace size f count).mirror size := by
  rw [mirror, ofFace, PuzzleSize.outerLayers_opposite h, Face.axis_opposite,
    Face.direction_opposite]
  rfl

/-- The wide turn of the opposite face is the one in the mirror, also where it turns the whole
puzzle. -/
theorem Turn.ofWide_opposite (size : PuzzleSize) (f : Face) :
    ofWide size f.opposite = (ofWide size f).mirror size := by
  rcases size.eq_two_or_three_le_layers with rfl | hthree
  · rw [ofWide_two, ofWide_two, Face.axis_opposite, Face.direction_opposite]
    rfl
  · rw [ofWide_eq_ofFace hthree, ofWide_eq_ofFace hthree]
    exact ofFace_opposite size.two_le_layers f

/-- The opposite of a stem that names a face turns as in the mirror. -/
theorem Stem.turn?_opposite {stem : Stem} (hface : stem.hasFace = true) :
    stem.opposite.turn? (.ofSize size) =
      (stem.turn? (.ofSize size)).map (Turn.mirror size) := by
  have htwo := size.two_le_layers
  cases stem with
  | counted count f wide =>
    show (if 2 ≤ count ∧ count ≤ size.layers then _ else none) =
      Option.map _ (if 2 ≤ count ∧ count ≤ size.layers then _ else none)
    split_ifs with hcount
    · exact congrArg some (Turn.ofFace_opposite hcount.2 f)
    · rfl
  | base b =>
    simp only [opposite, turn?, MoveTable.find?_ofSize]
    cases b with
    | face f => exact congrArg some (Turn.ofFace_opposite (by omega) f)
    | wide f => exact congrArg some (Turn.ofWide_opposite size f)
    | slice s => cases hface
    | rotation a => cases hface

/-- A modifier alters a turn and the reversed turn alike. -/
theorem Modifier.apply_reverse (modifier : Modifier) (d : Direction) :
    modifier.apply d.reverse = (modifier.apply d).reverse := by
  cases modifier <;> rfl

/-- A move of a face in the mirror is a move of the puzzle. -/
theorem Move.IsOn.mirror {m : Move} (h : m.IsOn (.ofSize size)) (hface : m.stem.hasFace = true) :
    (m.mirror size).IsOn (.ofSize size) := by
  obtain ⟨turn, hturn, hm⟩ := h
  refine ⟨turn.mirror size, ?_, ?_⟩
  · show m.stem.opposite.turn? _ = _
    rw [Stem.turn?_opposite hface, hturn]
    rfl
  · rw [hm]
    simp only [Move.mirror, ofTurn, Turn.mirror, Modifier.apply_reverse]

/-- With the letter of its face exchanged, a token names the move in the mirror. -/
theorem Move.parse_map_exchange {token : List Char} {m : Move}
    (h : parse (.ofSize size) token = .ok m) {c : Char} (hc : c ∈ token)
    (hletter : c ∈ faceLetters ++ wideLetters) :
    parse (.ofSize size) (token.map exchange) = .ok (m.mirror size) := by
  obtain ⟨hon, text, suffix, htoken, hspelled, hmodifier⟩ := Move.parse_eq_ok_iff.1 h
  obtain ⟨f, lower, rfl, -, -⟩ := mem_faceLetters_append_iff.1 hletter
  -- The letter is neither taken off with the blanks nor one of the marks, so the stem holds it.
  have htext : f.letterAs lower ∈ text := by
    have hmem := mem_strip (f.isBlank_letterAs lower) hc
    rw [htoken] at hmem
    exact (List.mem_append.1 hmem).resolve_right
      (Modifier.letterAs_not_mem_of_ofSuffix? hmodifier f lower)
  refine Move.parse_eq_ok_iff.2 ⟨hon.mirror (hspelled.hasFace htext hletter),
    text.map exchange, suffix, ?_, hspelled.map_exchange, hmodifier⟩
  rw [strip_map isBlank_exchange, htoken, List.map_append, map_exchange_of_ofSuffix? hmodifier]

end Opposite

/-- The layers of the move in the mirror are counted from the other end. -/
theorem Move.mem_positions_mirror {size : PuzzleSize} {m : Move} {p : ℕ} :
    p ∈ (m.mirror size).positions ↔ ∃ q ∈ m.positions, p = size.layers - 1 - q := by
  obtain ⟨stem, ⟨kind, axis, direction⟩, modifier⟩ := m
  cases kind with
  | whole => simp [mirror, positions, kind, Turn.mirror, MoveKind.mirror, MoveKind.positions]
  | layers ps =>
    show p ∈ (ps.map (size.layers - 1 - ·)).reverse ↔ ∃ q ∈ ps, p = size.layers - 1 - q
    simp only [List.mem_reverse, List.mem_map, eq_comm]

/-- The move in the mirror rotates the whole puzzle if the move does. -/
theorem Move.isRotation_mirror {size : PuzzleSize} {m : Move} :
    (m.mirror size).isRotation = m.isRotation := by
  obtain ⟨stem, ⟨kind, axis, direction⟩, modifier⟩ := m
  cases kind <;> rfl

/-! ### The layers nearest to a face -/

namespace PuzzleSize

variable {size : PuzzleSize} {f : Face} {count p : ℕ}

/-- How many layers are between a layer and a face. -/
def depth (size : PuzzleSize) : Face → ℕ → ℕ
  | .right, p | .up, p | .front, p => size.layers - 1 - p
  | .left, p | .down, p | .back, p => p

/-- The layers are counted down to a face at the positive end of its axis. -/
theorem depth_eq : size.depth f p = if f.isPositive then size.layers - 1 - p else p := by
  cases f <;> rfl

/-- The `count` outermost layers of a face are those with less than `count` layers in front of
them. -/
theorem mem_outerLayers_iff_depth_lt (h : count ≤ size.layers) :
    p ∈ size.outerLayers f count ↔ p < size.layers ∧ size.depth f p < count := by
  rw [mem_outerLayers_iff h, depth_eq]
  split_ifs <;> omega

/-- A layer that is deep from a face is near to the opposite face. -/
theorem depth_add_depth_opposite (hp : p < size.layers) :
    size.depth f p + size.depth f.opposite p = size.layers - 1 := by
  rw [depth_eq, depth_eq, Face.isPositive_opposite]
  cases f.isPositive
  · exact Nat.add_sub_of_le (Nat.le_sub_one_of_lt hp)
  · exact Nat.sub_add_cancel (Nat.le_sub_one_of_lt hp)

/-- The layers that a count leaves are the outermost layers of the opposite face. -/
theorem mem_outerLayers_opposite_iff (h : count ≤ size.layers) (hp : p < size.layers) :
    p ∈ size.outerLayers f.opposite (size.layers - count) ↔ p ∉ size.outerLayers f count := by
  have hdepth := depth_add_depth_opposite (f := f) hp
  rw [mem_outerLayers_iff_depth_lt (Nat.sub_le ..), mem_outerLayers_iff_depth_lt h]
  omega

/-- All layers are nearest to any face. -/
theorem outerLayers_layers (size : PuzzleSize) (f : Face) :
    size.outerLayers f size.layers = List.range size.layers := by
  unfold outerLayers
  split
  · rw [Nat.sub_self, List.range_eq_range']
  · rfl

end PuzzleSize

/-- A token that counts layers from a face: a layer count in digits, the letter of the face in
either case, a `w` or none, and a suffix of marks. -/
def CountsFrom (f : Face) (count : ℕ) (token : List Char) : Prop :=
  ∃ (digits : List Char) (lower w : Bool) (suffix : List Char),
    strip token = digits ++ f.letterAs lower :: ((if w then ['w'] else []) ++ suffix) ∧
      isDigits digits = true ∧ ofDecimal digits = count ∧ ∀ c ∈ suffix, c = '2' ∨ c = '\''

/-- Such a token turns the outermost layers of the face if there are that many. -/
theorem CountsFrom.exists_move {size : PuzzleSize} {f : Face} {count : ℕ} {token : List Char}
    (h : CountsFrom f count token) (two_le : 2 ≤ count) (le_layers : count ≤ size.layers) :
    ∃ m, (Notation.ofSize size).move token = .ok m ∧ m.isRotation = false ∧
      m.positions = size.outerLayers f count := by
  obtain ⟨digits, lower, w, suffix, htoken, hdigits, rfl, hsuffix⟩ := h
  rw [← List.cons_append, ← List.append_assoc] at htoken
  have hspelled := Stem.Spelled.counted hdigits f lower w
  have hturn : (Stem.counted (ofDecimal digits) f (lower || w)).turn? (.ofSize size) =
      some (.ofFace size f (ofDecimal digits)) :=
    Stem.turn?_counted_eq_some_iff.2 ⟨⟨two_le, le_layers⟩, rfl⟩
  have hmove : (Notation.ofSize size).move token = .ok (.ofTurn _ _ _) :=
    Move.parse_eq_ok_iff.2 ⟨⟨_, hturn, rfl⟩, _, suffix, htoken, hspelled,
      Modifier.ofSuffix?_eq_some_iff.2 ⟨hsuffix, rfl⟩⟩
  exact ⟨_, hmove, rfl, rfl⟩

/-- A layer count in front of a face takes the layers that are nearest to the face, in ascending
order. The letter of the opposite face in a token makes it the move in the mirror: about the same
axis and with the same modifier, the other way round, and with the layers counted from the other
end. The layers that a count leaves are those that the rest of the count takes from the opposite
face, and the layer count of the puzzle takes them all. -/
theorem layers_nearest_and_mirrored (size : PuzzleSize) :
    let n := Notation.ofSize size
    (∀ f count token, 2 ≤ count → count ≤ size.layers → CountsFrom f count token →
      ∃ m, n.move token = .ok m ∧ m.isRotation = false ∧ m.positions.Pairwise (· < ·) ∧
        m.positions.length = count ∧
        ∀ p, p ∈ m.positions ↔ p < size.layers ∧ size.depth f p < count) ∧
    (∀ token m, n.move token = .ok m → (∃ c ∈ token, c ∈ faceLetters ++ wideLetters) →
      ∃ m', n.move (token.map exchange) = .ok m' ∧ m'.axis = m.axis ∧
        m'.modifier = m.modifier ∧ m'.direction = m.direction.reverse ∧
        m'.isRotation = m.isRotation ∧
        ∀ p, p ∈ m'.positions ↔ ∃ q ∈ m.positions, p = size.layers - 1 - q) ∧
    (∀ f count token token', 2 ≤ count → count + 2 ≤ size.layers → CountsFrom f count token →
      CountsFrom f.opposite (size.layers - count) token' →
      ∃ m m', n.move token = .ok m ∧ n.move token' = .ok m' ∧
        (∀ p ∈ m.positions, p ∉ m'.positions) ∧
        ∀ p, p ∈ m.positions ∨ p ∈ m'.positions ↔ p < size.layers) ∧
    ∀ f token, CountsFrom f size.layers token →
      ∃ m, n.move token = .ok m ∧ m.isRotation = false ∧
        m.positions = List.range size.layers := by
  intro n
  refine ⟨?_, ?_, ?_, ?_⟩
  · intro f count token two_le le_layers hcounts
    obtain ⟨m, hm, hrotation, hpositions⟩ := hcounts.exists_move two_le le_layers
    refine ⟨m, hm, hrotation, ?_⟩
    rw [hpositions]
    exact ⟨PuzzleSize.pairwise_outerLayers, PuzzleSize.length_outerLayers,
      fun p => PuzzleSize.mem_outerLayers_iff_depth_lt le_layers⟩
  · rintro token m hm ⟨c, hc, hletter⟩
    exact ⟨m.mirror size, Move.parse_map_exchange hm hc hletter, rfl, rfl, rfl,
      Move.isRotation_mirror, fun p => Move.mem_positions_mirror⟩
  · intro f count token token' two_le hlayers hcounts hcounts'
    have le_layers : count ≤ size.layers := by omega
    have le_layers' : size.layers - count ≤ size.layers := Nat.sub_le ..
    obtain ⟨m, hm, -, hpositions⟩ := hcounts.exists_move two_le le_layers
    obtain ⟨m', hm', -, hpositions'⟩ := hcounts'.exists_move (by omega) le_layers'
    -- A layer is in one of the two turns, by how deep it is.
    have hside : ∀ p, p < size.layers → (p ∈ m'.positions ↔ p ∉ m.positions) := by
      rw [hpositions, hpositions']
      exact fun p => PuzzleSize.mem_outerLayers_opposite_iff le_layers
    have hlt : ∀ p ∈ m.positions, p < size.layers := by
      rw [hpositions]
      exact fun p => PuzzleSize.lt_of_mem_outerLayers le_layers
    have hlt' : ∀ p ∈ m'.positions, p < size.layers := by
      rw [hpositions']
      exact fun p => PuzzleSize.lt_of_mem_outerLayers le_layers'
    refine ⟨m, m', hm, hm', fun p hp hp' => (hside p (hlt p hp)).1 hp' hp, fun p => ?_⟩
    constructor
    · rintro (hp | hp)
      · exact hlt p hp
      · exact hlt' p hp
    · intro hp
      rw [hside p hp]
      exact Decidable.em _
  · intro f token hcounts
    obtain ⟨m, hm, hrotation, hpositions⟩ := hcounts.exists_move size.two_le_layers le_rfl
    rw [PuzzleSize.outerLayers_layers] at hpositions
    exact ⟨m, hm, hrotation, hpositions⟩

/-- On a puzzle of size 5, `02Rw'` and `3l2` share no layer and leave none out, and `5U` takes all
layers. The token ` 2r' ` turns layers 3 and 4, and ` 2l' ` layers 0 and 1 the other way round. -/
theorem layers_nearest_and_mirrored_of_five :
    let n := Notation.ofSize ⟨5, by decide⟩
    (∃ m, n.move "02Rw'".toList = .ok m ∧ m.positions.length = 2 ∧
      ∀ p, p ∈ m.positions ↔ p < 5 ∧ 4 - p < 2) ∧
    (∃ m', n.move " 2l' ".toList = .ok m' ∧ m'.axis = .x ∧ m'.modifier = .prime ∧
      m'.direction = .negative ∧ m'.isRotation = false ∧
      ∀ p, p ∈ m'.positions ↔ ∃ q ∈ [3, 4], p = 5 - 1 - q) ∧
    (∃ m m', n.move "02Rw'".toList = .ok m ∧ n.move "3l2".toList = .ok m' ∧
      (∀ p ∈ m.positions, p ∉ m'.positions) ∧
      ∀ p, p ∈ m.positions ∨ p ∈ m'.positions ↔ p < 5) ∧
    ∃ m, n.move "5U".toList = .ok m ∧ m.positions = [0, 1, 2, 3, 4] := by
  intro n
  have htwo : CountsFrom .right 2 "02Rw'".toList :=
    ⟨['0', '2'], false, true, ['\''], by decide, by decide, by decide, by simp⟩
  have hthree : CountsFrom .left 3 "3l2".toList :=
    ⟨['3'], true, false, ['2'], by decide, by decide, by decide, by simp⟩
  have hfive : CountsFrom .up 5 "5U".toList :=
    ⟨['5'], false, false, [], by decide, by decide, by decide, by simp⟩
  obtain ⟨hnearest, hmirror, hrest, hall⟩ := layers_nearest_and_mirrored ⟨5, by decide⟩
  refine ⟨?_, ?_, ?_, ?_⟩
  · obtain ⟨m, hm, -, -, hlength, hdepth⟩ :=
      hnearest .right 2 _ (by decide) (by decide) htwo
    exact ⟨m, hm, hlength, hdepth⟩
  · have hread : n.move " 2r' ".toList = .ok ⟨.counted 2 .right true,
        ⟨.layers [3, 4], .x, .positive⟩, .prime⟩ := by rfl
    exact hmirror _ _ hread ⟨'r', by decide, by decide⟩
  · exact hrest .right 2 _ _ (by decide) (by decide) htwo hthree
  · obtain ⟨m, hm, -, hpositions⟩ := hall .up _ hfive
    exact ⟨m, hm, hpositions⟩

end Twisty
