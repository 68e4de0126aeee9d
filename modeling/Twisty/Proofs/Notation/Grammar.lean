import Twisty.Proofs.Notation.Spelling

/-!
# The grammar of moves

The grammar of the notation, letter by letter. `StemText` says which texts may stand before the
suffix of a move on a puzzle, each with its canonical text, and `MoveText` which texts are moves:
such a text with a suffix of the marks `2` and `'`, in any number and order.

Reading accepts exactly these texts, and the move that is read has the canonical text and the
modifier that the grammar gives (`Notation.move_reads_grammar`). The grammar speaks of letters and
the reader of faces, slices and axes. `stemText_iff` joins the two: the texts of the grammar are
those that spell a stem which names a turn on the puzzle.
-/

namespace Twisty

open Text

/-! ### Letters -/

/-- The uppercase letters of the faces. -/
def faceLetters : List Char :=
  ['R', 'L', 'U', 'D', 'F', 'B']

/-- The lowercase letters of the faces, which spell wide turns. -/
def wideLetters : List Char :=
  ['r', 'l', 'u', 'd', 'f', 'b']

/-- The letters of the middle slices. -/
def sliceLetters : List Char :=
  ['M', 'E', 'S']

/-- The letters of the rotations of the whole puzzle. -/
def rotationLetters : List Char :=
  ['x', 'y', 'z']

/-- The uppercase letters are those of the faces. -/
theorem mem_faceLetters_iff {c : Char} : c ∈ faceLetters ↔ ∃ f : Face, f.letter = c := by
  have hletters : faceLetters = Face.all.map Face.letter := rfl
  simp [hletters]

/-- The lowercase letters are those of the wide turns. -/
theorem mem_wideLetters_iff {c : Char} : c ∈ wideLetters ↔ ∃ f : Face, f.wideLetter = c := by
  have hletters : wideLetters = Face.all.map Face.wideLetter := rfl
  simp [hletters]

/-- The letters of the slices are those that the slices have. -/
theorem mem_sliceLetters_iff {c : Char} : c ∈ sliceLetters ↔ ∃ s : Slice, s.letter = c := by
  have hletters : sliceLetters = Slice.all.map Slice.letter := rfl
  simp [hletters]

/-- The letters of the rotations are those that the axes have. -/
theorem mem_rotationLetters_iff {c : Char} : c ∈ rotationLetters ↔ ∃ a : Axis, a.letter = c := by
  have hletters : rotationLetters = Axis.all.map Axis.letter := rfl
  simp [hletters]

/-- The uppercase form of the letter of a face names the face. -/
theorem Face.toUpper_letterAs (f : Face) (lower : Bool) : (f.letterAs lower).toUpper = f.letter := by
  cases f <;> cases lower <;> rfl

/-- The letter of a face is lowercase as it is spelled. -/
theorem Face.isLower_letterAs (f : Face) (lower : Bool) : (f.letterAs lower).isLower = lower := by
  cases f <;> cases lower <;> rfl

/-- A letter of a face in either case is that of a face, which its uppercase form names and whose
wide turn it spells if it is lowercase. -/
theorem mem_faceLetters_append_iff {c : Char} : c ∈ faceLetters ++ wideLetters ↔
    ∃ (f : Face) (lower : Bool),
      f.letterAs lower = c ∧ c.toUpper = f.letter ∧ c.isLower = lower := by
  rw [List.mem_append, mem_faceLetters_iff, mem_wideLetters_iff]
  constructor
  · rintro (⟨f, rfl⟩ | ⟨f, rfl⟩)
    · exact ⟨f, false, rfl, f.toUpper_letterAs false, f.isLower_letterAs false⟩
    · exact ⟨f, true, rfl, f.toUpper_letterAs true, f.isLower_letterAs true⟩
  · rintro ⟨f, lower, rfl, -, -⟩
    cases lower with
    | false => exact .inl ⟨f, rfl⟩
    | true => exact .inr ⟨f, rfl⟩

/-! ### Texts -/

/-- A text that may stand before the suffix of a move on a puzzle, and its canonical text. -/
inductive StemText (size : PuzzleSize) : List Char → List Char → Prop where
  /-- A layer count from 2 to the size, in digits with any leading zeros, then the letter of a face
  in either case, then a `w` or none. The canonical text has no leading zeros and an uppercase
  letter, and it has a `w` if the letter was lowercase or a `w` was written. -/
  | counted {digits : List Char} {c : Char} (hdigits : isDigits digits = true)
      (two_le : 2 ≤ ofDecimal digits) (le_layers : ofDecimal digits ≤ size.layers)
      (hc : c ∈ faceLetters ++ wideLetters) (w : Bool) :
      StemText size (digits ++ c :: if w then ['w'] else [])
        (decimal (ofDecimal digits) ++ c.toUpper :: if c.isLower || w then ['w'] else [])
  /-- The turn of a face. -/
  | face {c : Char} (hc : c ∈ faceLetters) : StemText size [c] [c]
  /-- The wide turn of a face in lowercase, for which the canonical text has the `w`. -/
  | lowercase {c : Char} (hc : c ∈ wideLetters) : StemText size [c] [c.toUpper, 'w']
  /-- The wide turn of a face. -/
  | wide {c : Char} (hc : c ∈ faceLetters) : StemText size [c, 'w'] [c, 'w']
  /-- A slice of a puzzle of odd size. -/
  | slice {c : Char} (hc : c ∈ sliceLetters) (odd : size.layers % 2 = 1) : StemText size [c] [c]
  /-- A rotation of the whole puzzle. -/
  | rotation {c : Char} (hc : c ∈ rotationLetters) : StemText size [c] [c]

/-- A text that is a move on a puzzle, with the canonical text of its stem and its modifier: a half
turn if there is a `2` among the marks of the suffix, and a turn back if there are only primes. -/
def MoveText (size : PuzzleSize) (text base : List Char) (modifier : Modifier) : Prop :=
  ∃ stem suffix, text = stem ++ suffix ∧ StemText size stem base ∧
    (∀ c ∈ suffix, c = '2' ∨ c = '\'') ∧
      modifier = if '2' ∈ suffix then .double else if suffix = [] then .plain else .prime

/-! ### The grammar and the reader -/

/-- A slice has a turn on the puzzles of odd size. -/
theorem exists_find?_slice_iff {size : PuzzleSize} {s : Slice} :
    (∃ turn, (MoveTable.ofSize size).find? (.slice s) = some turn) ↔ size.layers % 2 = 1 := by
  rw [MoveTable.find?_ofSize, PuzzleSize.middleIndex?]
  by_cases hodd : size.layers % 2 = 1
  · simp [hodd]
  · simp [hodd]

/-- The texts of the grammar are the spellings of the stems that name a turn on the puzzle. -/
theorem stemText_iff {size : PuzzleSize} {text base : List Char} :
    StemText size text base ↔ ∃ (stem : Stem) (turn : Turn), stem.Spelled text ∧
      stem.turn? (.ofSize size) = some turn ∧ stem.render = base := by
  constructor
  · intro h
    cases h with
    | counted hdigits two_le le_layers hc w =>
      obtain ⟨f, lower, rfl, hupper, hlower⟩ := mem_faceLetters_append_iff.1 hc
      refine ⟨_, _, .counted hdigits f lower w,
        Stem.turn?_counted_eq_some_iff.2 ⟨⟨two_le, le_layers⟩, rfl⟩, ?_⟩
      rw [hupper, hlower]
      rfl
    | face hc =>
      obtain ⟨f, rfl⟩ := mem_faceLetters_iff.1 hc
      exact ⟨.base (.face f), _, .named (.face f), MoveTable.find?_ofSize size (.face f), rfl⟩
    | lowercase hc =>
      obtain ⟨f, rfl⟩ := mem_wideLetters_iff.1 hc
      refine ⟨.base (.wide f), _, .lowercase f, MoveTable.find?_ofSize size (.wide f), ?_⟩
      cases f <;> rfl
    | wide hc =>
      obtain ⟨f, rfl⟩ := mem_faceLetters_iff.1 hc
      exact ⟨.base (.wide f), _, .named (.wide f), MoveTable.find?_ofSize size (.wide f), rfl⟩
    | slice hc odd =>
      obtain ⟨s, rfl⟩ := mem_sliceLetters_iff.1 hc
      obtain ⟨turn, hturn⟩ := exists_find?_slice_iff (s := s).2 odd
      exact ⟨.base (.slice s), turn, .named (.slice s), hturn, rfl⟩
    | rotation hc =>
      obtain ⟨a, rfl⟩ := mem_rotationLetters_iff.1 hc
      exact ⟨.base (.rotation a), _, .named (.rotation a),
        MoveTable.find?_ofSize size (.rotation a), rfl⟩
  · -- Only a slice and a counted turn may lack a turn: the others are in the grammar on every size.
    rintro ⟨stem, turn, hspelled, hturn, rfl⟩
    cases hspelled with
    | named b =>
      cases b with
      | face f => exact .face (mem_faceLetters_iff.2 ⟨f, rfl⟩)
      | wide f => exact .wide (mem_faceLetters_iff.2 ⟨f, rfl⟩)
      | slice s =>
        exact .slice (mem_sliceLetters_iff.2 ⟨s, rfl⟩) (exists_find?_slice_iff.1 ⟨turn, hturn⟩)
      | rotation a => exact .rotation (mem_rotationLetters_iff.2 ⟨a, rfl⟩)
    | lowercase f =>
      have hupper : f.wideLetter.toUpper = f.letter := f.toUpper_letterAs true
      have htext : StemText size [f.wideLetter] [f.wideLetter.toUpper, 'w'] :=
        .lowercase (mem_wideLetters_iff.2 ⟨f, rfl⟩)
      rwa [hupper] at htext
    | counted hdigits f lower w =>
      obtain ⟨⟨two_le, le_layers⟩, -⟩ := Stem.turn?_counted_eq_some_iff.1 hturn
      have hc : f.letterAs lower ∈ faceLetters ++ wideLetters :=
        mem_faceLetters_append_iff.2
          ⟨f, lower, rfl, f.toUpper_letterAs lower, f.isLower_letterAs lower⟩
      have htext := StemText.counted hdigits two_le le_layers hc w
      rwa [f.toUpper_letterAs, f.isLower_letterAs] at htext

/-- A token is read as a move exactly if it is one without the blanks around it, and the move has
the stem and the modifier that the grammar gives. -/
theorem Notation.move_reads_grammar (size : PuzzleSize) (token : List Char) :
    ((∃ m, (ofSize size).move token = .ok m) ↔
        ∃ base modifier, MoveText size (strip token) base modifier) ∧
      ∀ base modifier, MoveText size (strip token) base modifier ↔
        ∃ m, (ofSize size).move token = .ok m ∧ m.stem.render = base ∧ m.modifier = modifier := by
  have hmove : ∀ base modifier, MoveText size (strip token) base modifier ↔
      ∃ m, (ofSize size).move token = .ok m ∧ m.stem.render = base ∧ m.modifier = modifier := by
    intro base modifier
    constructor
    · rintro ⟨text, suffix, htoken, htext, hsuffix⟩
      obtain ⟨stem, turn, hspelled, hturn, rfl⟩ := stemText_iff.1 htext
      have hread : (ofSize size).move token = .ok (.ofTurn stem turn modifier) :=
        Move.parse_eq_ok_iff.2 ⟨⟨turn, hturn, rfl⟩, text, suffix, htoken, hspelled,
          Modifier.ofSuffix?_eq_some_iff.2 hsuffix⟩
      exact ⟨_, hread, rfl, rfl⟩
    · rintro ⟨m, hread, rfl, rfl⟩
      obtain ⟨⟨turn, hturn, -⟩, text, suffix, htoken, hspelled, hmodifier⟩ :=
        Move.parse_eq_ok_iff.1 hread
      exact ⟨text, suffix, htoken, stemText_iff.2 ⟨m.stem, turn, hspelled, hturn, rfl⟩,
        Modifier.ofSuffix?_eq_some_iff.1 hmodifier⟩
  refine ⟨⟨?_, ?_⟩, hmove⟩
  · rintro ⟨m, hread⟩
    exact ⟨m.stem.render, m.modifier, (hmove _ _).2 ⟨m, hread, rfl, rfl⟩⟩
  · rintro ⟨base, modifier, htext⟩
    obtain ⟨m, hread, -, -⟩ := (hmove base modifier).1 htext
    exact ⟨m, hread⟩

/-- A `w` goes with the lowercase letter of a counted turn, but not with that of a base move. -/
example : (∃ m, (Notation.ofSize .three).move ['2', 'r', 'w'] = .ok m) ∧
    (Notation.ofSize .three).move ['r', 'w'] = .error (.unknownToken ['r', 'w']) :=
  ⟨⟨_, rfl⟩, rfl⟩

end Twisty
