import Twisty.Proofs.Notation.Mirror

/-!
# Moves on a larger puzzle

A move that is read on one puzzle can be read on every larger one, except that there are no slices
on a puzzle of even size. Nothing of it changes but the numbers of its layers, and these depend on
where they are counted from (`Side`): those of a face at the negative end of its axis keep their
numbers, those of a face at the positive end move up by as many layers as there are more, and the
middle layer moves up by half as many (`Side.rise`). So the turn of a stem on the larger puzzle is
its turn on the smaller one, raised by a number that the side of the stem gives
(`Stem.exists_turn?_of_le`).

The smallest puzzle is apart. A wide turn is a rotation of the whole puzzle there, and a turn of two
layers on every other one.

The side of a stem can be told from its letter (`Stem.Spelled.exists_mem_letters_iff`), and no other
part of a token has such a letter.
-/

namespace Twisty

open Text

/-! ### Sides -/

/-- Where the layers of a move are counted from. -/
inductive Side where
  /-- The negative end of the axis. -/
  | low
  /-- The positive end of the axis. -/
  | high
  /-- The middle of the axis. -/
  | middle
  /-- No layers are counted. -/
  | whole
deriving DecidableEq

/-- The letters that say where the layers of a move are counted from. -/
def Side.letters : Side → List Char
  | low => ['L', 'D', 'B', 'l', 'd', 'b']
  | high => ['R', 'U', 'F', 'r', 'u', 'f']
  | middle => sliceLetters
  | whole => rotationLetters

/-- By how much the numbers of layers grow from a puzzle to a larger one. -/
def Side.rise (small large : PuzzleSize) : Side → ℕ
  | low | whole => 0
  | high => large.layers - small.layers
  | middle => (large.layers - small.layers) / 2

/-- The side of a face. -/
def Face.side (f : Face) : Side :=
  if f.isPositive then .high else .low

/-- The side of a stem. -/
def Stem.side : Stem → Side
  | base (.face f) | base (.wide f) | counted _ f _ => f.side
  | base (.slice _) => .middle
  | base (.rotation _) => .whole

/-- The letters are no blanks, no digits and no marks, and there is no `w` among them. -/
theorem Side.apart_of_mem_letters {side : Side} {c : Char} (h : c ∈ side.letters) :
    isBlank c = false ∧ c.isDigit = false ∧ (c ≠ '2' ∧ c ≠ '\'') ∧ c ≠ 'w' := by
  have hall : side.letters.all (fun c => decide (isBlank c = false ∧ c.isDigit = false ∧
      (c ≠ '2' ∧ c ≠ '\'') ∧ c ≠ 'w')) = true := by
    cases side <;> decide
  exact of_decide_eq_true (List.all_eq_true.1 hall c h)

/-- The letter of a face in either case is one of its side only. -/
theorem Face.letterAs_mem_letters_iff (f : Face) (lower : Bool) (side : Side) :
    f.letterAs lower ∈ side.letters ↔ side = f.side := by
  cases f <;> cases lower <;> cases side <;> decide

/-- The letter of a slice is one of the middle only. -/
theorem Slice.letter_mem_letters_iff (s : Slice) (side : Side) :
    s.letter ∈ side.letters ↔ side = .middle := by
  cases s <;> cases side <;> decide

/-- The letter of a rotation of the whole puzzle is one of no side. -/
theorem Axis.letter_mem_letters_iff (a : Axis) (side : Side) :
    a.letter ∈ side.letters ↔ side = .whole := by
  cases a <;> cases side <;> decide

/-- The letters in the spelling of a stem are those of the side of the stem. -/
theorem Stem.Spelled.exists_mem_letters_iff {text : List Char} {stem : Stem}
    (h : stem.Spelled text) (side : Side) :
    (∃ c ∈ text, c ∈ side.letters) ↔ side = stem.side := by
  -- A `w` after the letter is none of the letters.
  have hfirst : ∀ (c : Char) (w : Bool),
      (∃ d ∈ c :: (if w then ['w'] else []), d ∈ side.letters) ↔ c ∈ side.letters := by
    intro c w
    have hw : ¬ ∃ d ∈ (if w then ['w'] else []), d ∈ side.letters := by
      rintro ⟨d, hd, hletter⟩
      cases w with
      | false => cases hd
      | true => exact (Side.apart_of_mem_letters hletter).2.2.2 (List.mem_singleton.1 hd)
    rw [List.exists_mem_cons_iff, or_iff_left hw]
  have hface : ∀ (f : Face) (lower w : Bool),
      (∃ c ∈ f.letterAs lower :: (if w then ['w'] else []), c ∈ side.letters) ↔ side = f.side :=
    fun f lower w => (hfirst _ w).trans (f.letterAs_mem_letters_iff lower side)
  cases h with
  | named b =>
    cases b with
    | face f => exact hface f false false
    | wide f => exact hface f false true
    | slice s => exact (hfirst s.letter false).trans (s.letter_mem_letters_iff side)
    | rotation a => exact (hfirst a.letter false).trans (a.letter_mem_letters_iff side)
  | lowercase f => exact hface f true false
  | counted hdigits f lower w =>
    refine Iff.trans ⟨?_, ?_⟩ (hface f lower w)
    · rintro ⟨c, hc, hletter⟩
      refine ⟨c, (List.mem_append.1 hc).resolve_left fun hdigit => ?_, hletter⟩
      have hno := (Side.apart_of_mem_letters hletter).2.1
      rw [isDigit_of_mem hdigits hdigit] at hno
      cases hno
    · rintro ⟨c, hc, hletter⟩
      exact ⟨c, List.mem_append_right _ hc, hletter⟩

/-! ### Turns on a larger puzzle -/

/-- The same layers, numbered from further below. -/
def MoveKind.raise (k : ℕ) : MoveKind → MoveKind
  | layers ps => layers (ps.map (· + k))
  | whole => whole

/-- The same turn, with the layers numbered from further below. -/
def Turn.raise (k : ℕ) (turn : Turn) : Turn :=
  { turn with kind := turn.kind.raise k }

section Larger

variable {small large : PuzzleSize}

/-- The outermost layers of a larger puzzle. -/
theorem PuzzleSize.outerLayers_of_le (hle : small.layers ≤ large.layers) (f : Face) {count : ℕ}
    (hcount : count ≤ small.layers) :
    large.outerLayers f count = (small.outerLayers f count).map (· + f.side.rise small large) := by
  unfold outerLayers Face.side
  cases f.isPositive with
  | false => exact (List.map_id _).symm
  | true =>
    have hstart : large.layers - count =
        (large.layers - small.layers) + (small.layers - count) := by omega
    simp only [if_true, Side.rise]
    rw [hstart, ← List.map_add_range']
    exact List.map_congr_left fun p _ => Nat.add_comm ..

/-- The turn of the outermost layers of a larger puzzle. -/
theorem Turn.ofFace_of_le (hle : small.layers ≤ large.layers) (f : Face) {count : ℕ}
    (hcount : count ≤ small.layers) :
    ofFace large f count = (ofFace small f count).raise (f.side.rise small large) := by
  rw [ofFace, PuzzleSize.outerLayers_of_le hle f hcount]
  rfl

/-- The middle layer of a larger puzzle, unless that puzzle has none. -/
theorem PuzzleSize.middleIndex?_of_le (hle : small.layers ≤ large.layers)
    (hparity : small.layers % 2 = 0 ∨ large.layers % 2 = 1) {middle : ℕ}
    (h : small.middleIndex? = some middle) :
    large.middleIndex? = some (middle + Side.middle.rise small large) := by
  unfold middleIndex? at h ⊢
  split at h
  · next hodd =>
    cases h
    have hodd' : large.layers % 2 = 1 := hparity.resolve_left (by omega)
    rw [if_pos hodd', Side.rise]
    exact congrArg some (by omega)
  · cases h

/-- A stem that names a turn on a puzzle names one on a larger puzzle, about the same axis and in
the same direction. Unless the puzzle is the smallest one, it is the same turn with the layers
numbered from where the stem counts them. -/
theorem Stem.exists_turn?_of_le (hle : small.layers ≤ large.layers)
    (hparity : small.layers % 2 = 0 ∨ large.layers % 2 = 1) {stem : Stem} {turn : Turn}
    (h : stem.turn? (.ofSize small) = some turn) :
    ∃ turn', stem.turn? (.ofSize large) = some turn' ∧ turn'.axis = turn.axis ∧
      turn'.direction = turn.direction ∧
      (3 ≤ small.layers → turn' = turn.raise (stem.side.rise small large)) := by
  have htwo := small.two_le_layers
  cases stem with
  | counted count f wide =>
    obtain ⟨⟨two_le, le_small⟩, rfl⟩ := turn?_counted_eq_some_iff.1 h
    exact ⟨_, turn?_counted_eq_some_iff.2 ⟨⟨two_le, le_small.trans hle⟩, rfl⟩, rfl, rfl,
      fun _ => Turn.ofFace_of_le hle f le_small⟩
  | base b =>
    rw [turn?, MoveTable.find?_ofSize] at h
    simp only [turn?, MoveTable.find?_ofSize]
    cases b with
    | face f =>
      cases h
      exact ⟨_, rfl, rfl, rfl, fun _ => Turn.ofFace_of_le hle f (by omega)⟩
    | wide f =>
      cases h
      obtain ⟨haxis, hdirection⟩ := Turn.ofWide_axis_direction small f
      obtain ⟨haxis', hdirection'⟩ := Turn.ofWide_axis_direction large f
      refine ⟨_, rfl, haxis'.trans haxis.symm, hdirection'.trans hdirection.symm, fun hthree => ?_⟩
      rw [Turn.ofWide_eq_ofFace hthree, Turn.ofWide_eq_ofFace (hthree.trans hle)]
      exact Turn.ofFace_of_le hle f htwo
    | slice s =>
      obtain ⟨middle, hmiddle, rfl⟩ := Option.map_eq_some_iff.1 h
      rw [PuzzleSize.middleIndex?_of_le hle hparity hmiddle]
      exact ⟨_, rfl, rfl, rfl, fun _ => rfl⟩
    | rotation a =>
      cases h
      exact ⟨_, rfl, rfl, rfl, fun _ => rfl⟩

/-- Unless the puzzle is the smallest one, the stems without a side to count layers from are those
that rotate the whole puzzle. -/
theorem Stem.kind_eq_whole_iff {size : PuzzleSize} (hthree : 3 ≤ size.layers) {stem : Stem}
    {turn : Turn} (h : stem.turn? (.ofSize size) = some turn) :
    turn.kind = .whole ↔ stem.side = .whole := by
  -- A turn of layers is no rotation of the whole puzzle, and the side of its stem is another one.
  have hlayers : ∀ {positions : List ℕ} {side : Side}, side ≠ .whole →
      (MoveKind.layers positions = .whole ↔ side = .whole) := by
    intro positions side hside
    simp [hside]
  have hface : ∀ f : Face, f.side ≠ .whole := by
    intro f
    cases f <;> decide
  cases stem with
  | counted count f wide =>
    obtain ⟨-, rfl⟩ := turn?_counted_eq_some_iff.1 h
    exact hlayers (hface f)
  | base b =>
    rw [turn?, MoveTable.find?_ofSize] at h
    cases b with
    | face f =>
      cases h
      exact hlayers (hface f)
    | wide f =>
      cases h
      rw [Turn.ofWide_eq_ofFace hthree]
      exact hlayers (hface f)
    | slice s =>
      obtain ⟨middle, -, rfl⟩ := Option.map_eq_some_iff.1 h
      exact hlayers (by decide : Side.middle ≠ .whole)
    | rotation a =>
      cases h
      exact iff_of_true rfl rfl

end Larger

/-! ### Tokens on a larger puzzle -/

/-- What is left of a text without the blanks around it was in the text. -/
theorem mem_of_mem_strip {c : Char} {s : List Char} (h : c ∈ strip s) : c ∈ s := by
  rw [strip, stripEnd, List.mem_reverse] at h
  have hstart := List.mem_reverse.1 ((List.dropWhile_sublist _).subset h)
  exact (List.dropWhile_sublist _).subset hstart

/-- The letters in a token are those of the side of the stem that it spells. -/
theorem Stem.Spelled.exists_mem_token_iff {token text suffix : List Char} {stem : Stem}
    {modifier : Modifier} (h : stem.Spelled text) (htoken : strip token = text ++ suffix)
    (hmodifier : Modifier.ofSuffix? suffix = some modifier) (side : Side) :
    (∃ c ∈ token, c ∈ side.letters) ↔ side = stem.side := by
  rw [← h.exists_mem_letters_iff]
  constructor
  · rintro ⟨c, hc, hletter⟩
    obtain ⟨hblank, -, ⟨htwo, hprime⟩, -⟩ := Side.apart_of_mem_letters hletter
    have hmem : c ∈ text ++ suffix := by
      rw [← htoken]
      exact mem_strip hblank hc
    refine ⟨c, (List.mem_append.1 hmem).resolve_right fun hsuffix => ?_, hletter⟩
    rcases (Modifier.ofSuffix?_eq_some_iff.1 hmodifier).1 c hsuffix with hmark | hmark
    · exact htwo hmark
    · exact hprime hmark
  · rintro ⟨c, hc, hletter⟩
    refine ⟨c, mem_of_mem_strip ?_, hletter⟩
    rw [htoken]
    exact List.mem_append_left _ hc

/-- A token that names a move on a puzzle names one on every larger puzzle, unless the size of the
puzzle is odd and that of the larger one even. The two moves have the same canonical text, modifier,
axis and direction. The letters of the token are those of one side, and unless the puzzle is the
smallest one, they say how the move has to be changed: a rotation of the whole puzzle is one on the
larger puzzle, and the layers of any other move are numbered from the side. -/
theorem Notation.moves_on_larger_puzzle {small large : PuzzleSize}
    (hle : small.layers ≤ large.layers) (hparity : small.layers % 2 = 0 ∨ large.layers % 2 = 1)
    {token : List Char} {m : Move} (h : (ofSize small).move token = .ok m) :
    ∃ m', (ofSize large).move token = .ok m' ∧ m'.render = m.render ∧ m'.modifier = m.modifier ∧
      m'.axis = m.axis ∧ m'.direction = m.direction ∧
      ∃ side : Side, (∀ other : Side, (∃ c ∈ token, c ∈ other.letters) ↔ other = side) ∧
        (3 ≤ small.layers → (m.kind = .whole ↔ side = .whole) ∧
          m'.kind = m.kind.raise (side.rise small large)) := by
  obtain ⟨⟨turn, hturn, hm⟩, text, suffix, htoken, hspelled, hmodifier⟩ :=
    Move.parse_eq_ok_iff.1 h
  obtain ⟨turn', hturn', haxis, hdirection, hraise⟩ := Stem.exists_turn?_of_le hle hparity hturn
  have hmove : (ofSize large).move token = .ok (.ofTurn m.stem turn' m.modifier) :=
    Move.parse_eq_ok_iff.2 ⟨⟨turn', hturn', rfl⟩, text, suffix, htoken, hspelled, hmodifier⟩
  have hkind : m.kind = turn.kind := congrArg Move.kind hm
  refine ⟨_, hmove, rfl, rfl, haxis.trans (congrArg Move.axis hm).symm,
    (congrArg m.modifier.apply hdirection).trans (congrArg Move.direction hm).symm, m.stem.side,
    hspelled.exists_mem_token_iff htoken hmodifier, fun hthree => ⟨?_, ?_⟩⟩
  · rw [hkind]
    exact Stem.kind_eq_whole_iff hthree hturn
  · rw [hkind]
    exact congrArg Turn.kind (hraise hthree)

/-- From size 3 to size 5, the layers of ` 2r'` move up by 2 and that of `M2` by 1. From size 2 to
size 4, nothing is said about what `Rw` turns, only that it is about the same axis. -/
theorem Notation.moves_on_puzzles_of_five_and_four :
    (∃ m', (ofSize ⟨5, by decide⟩).move " 2r'".toList = .ok m' ∧ m'.render = "2Rw'".toList ∧
      m'.axis = .x ∧ m'.direction = .positive ∧ m'.kind = .layers [3, 4]) ∧
    (∃ m', (ofSize ⟨5, by decide⟩).move "M2".toList = .ok m' ∧ m'.render = "M2".toList ∧
      m'.modifier = .double ∧ m'.kind = .layers [2]) ∧
    ∃ m', (ofSize ⟨4, by decide⟩).move "Rw".toList = .ok m' ∧ m'.render = "Rw".toList ∧
      m'.axis = .x := by
  have hfive : PuzzleSize.layers ⟨3, by decide⟩ ≤ PuzzleSize.layers ⟨5, by decide⟩ := by decide
  have hfour : PuzzleSize.layers ⟨2, by decide⟩ ≤ PuzzleSize.layers ⟨4, by decide⟩ := by decide
  have hcounted : (ofSize ⟨3, by decide⟩).move " 2r'".toList =
      .ok ⟨.counted 2 .right true, ⟨.layers [1, 2], .x, .positive⟩, .prime⟩ := by rfl
  have hslice : (ofSize ⟨3, by decide⟩).move "M2".toList =
      .ok ⟨.base (.slice .middle), ⟨.layers [1], .x, .positive⟩, .double⟩ := by rfl
  have hwide : (ofSize ⟨2, by decide⟩).move "Rw".toList =
      .ok ⟨.base (.wide .right), ⟨.whole, .x, .negative⟩, .plain⟩ := by rfl
  refine ⟨?_, ?_, ?_⟩
  · obtain ⟨m', hm', hrender, -, haxis, hdirection, side, hside, hkind⟩ :=
      moves_on_larger_puzzle hfive (.inr (by decide)) hcounted
    have hhigh : side = .high := ((hside .high).1 ⟨'r', by decide, by decide⟩).symm
    subst hhigh
    exact ⟨m', hm', hrender, haxis, hdirection, (hkind (by decide)).2⟩
  · obtain ⟨m', hm', hrender, hmodifier, -, -, side, hside, hkind⟩ :=
      moves_on_larger_puzzle hfive (.inr (by decide)) hslice
    have hmiddle : side = .middle := ((hside .middle).1 ⟨'M', by decide, by decide⟩).symm
    subst hmiddle
    exact ⟨m', hm', hrender, hmodifier, (hkind (by decide)).2⟩
  · obtain ⟨m', hm', hrender, -, haxis, -⟩ :=
      moves_on_larger_puzzle hfour (.inl (by decide)) hwide
    exact ⟨m', hm', hrender, haxis⟩

end Twisty
