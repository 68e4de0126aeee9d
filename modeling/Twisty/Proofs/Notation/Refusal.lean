import Mathlib.Algebra.Group.Nat.Defs
import Twisty.Proofs.Notation.Diagnostics
import Twisty.Proofs.Notation.Grammar

/-!
# Why a token is refused

A text that is not a move may be wrong in several places at once, and is refused for the first of
them. `Refusal` says for which, letter by letter: `CountedText` is what makes a text that begins
with a digit a counted turn, and `BasedText` is where any other text is cut into a base and a rest.
Reading refuses a token for this reason and for no other (`Notation.move_eq_error_iff_refusal`).

As in the reader, a text is first taken apart and then judged. The reader takes it apart where the
two predicates do (`Spelling.exists_ofToken_eq_counted`, `Spelling.ofToken_eq_named`), and finds
nothing to judge in a text that begins with a digit and is no counted turn
(`Spelling.ofToken_eq_countedOther`). Of the parts, the front one is judged first
(`CountedText.resolve_eq_error_iff`, `BasedText.resolve_eq_error_iff`).
-/

namespace Twisty

open Text

/-! ### The parts of a text -/

/-- A text without the `w` at its start, if there is one. -/
def dropWide : List Char → List Char
  | 'w' :: rest => rest
  | rest => rest

/-- A text is a counted turn if it is a run of digits, the letter of a face in either case, and a
rest that is on one line. -/
structure CountedText (text digits : List Char) (c : Char) (rest : List Char) : Prop where
  /-- The three parts make up the text. -/
  text_eq : text = digits ++ c :: rest
  /-- The first part is one or more digits. -/
  digits : isDigits digits = true
  /-- The letter is that of a face. -/
  letter : c ∈ faceLetters ++ wideLetters
  /-- The rest does not hold a line end. -/
  line : '\n' ∉ rest

/-- A text that does not begin with a digit is a base and a rest. The base is the first character,
together with the second one if that is a `w`. -/
inductive BasedText : List Char → List Char → List Char → Prop where
  /-- No `w` is second. -/
  | letter {c : Char} {rest : List Char} (hc : c.isDigit = false) (hw : rest.head? ≠ some 'w') :
      BasedText (c :: rest) [c] rest
  /-- A `w` is second. -/
  | wide {c : Char} {rest : List Char} (hc : c.isDigit = false) :
      BasedText (c :: 'w' :: rest) [c, 'w'] rest

/-- The texts that spell a base move: the letters of faces, wide turns, slices and rotations, and
the letters of faces with a `w`. -/
def baseTexts : List (List Char) :=
  (faceLetters ++ wideLetters ++ sliceLetters ++ rotationLetters).map (fun c => [c]) ++
    faceLetters.map (fun c => [c, 'w'])

/-- Why a text is not a move on a puzzle. -/
inductive Refusal (size : PuzzleSize) : List Char → MoveError → Prop where
  /-- There is no character. -/
  | empty : Refusal size [] .empty
  /-- The layer count of a counted turn is not from 2 to the size. Its suffix does not matter. -/
  | count {text digits rest : List Char} {c : Char} (htext : CountedText text digits c rest)
      (hcount : ofDecimal digits < 2 ∨ size.layers < ofDecimal digits) :
      Refusal size text (.layerCountOutOfRange text (min (ofDecimal digits) (2 ^ 32 - 1)) size)
  /-- The layer count is right, but the text after the letter and its `w` is not a suffix. -/
  | countedSuffix {text digits rest : List Char} {c : Char} (htext : CountedText text digits c rest)
      (two_le : 2 ≤ ofDecimal digits) (le_layers : ofDecimal digits ≤ size.layers)
      (hsuffix : ∃ x ∈ dropWide rest, x ≠ '2' ∧ x ≠ '\'') :
      Refusal size text (.badModifier text (dropWide rest))
  /-- The text begins with a digit, but is not a counted turn. -/
  | countedOther {c : Char} {rest : List Char} (hc : c.isDigit = true)
      (htext : ∀ digits d after, ¬ CountedText (c :: rest) digits d after) :
      Refusal size (c :: rest) (.unknownNumericFace (c :: rest))
  /-- The base is not a base move. -/
  | base {text base rest : List Char} (htext : BasedText text base rest)
      (hbase : base ∉ baseTexts) : Refusal size text (.unknownToken text)
  /-- The base is a slice, which a puzzle of even size does not have. The suffix does not matter. -/
  | slice {text rest : List Char} {s : Slice} (htext : BasedText text [s.letter] rest)
      (heven : size.layers % 2 = 0) : Refusal size text (.sliceOnEvenSize s size)
  /-- The puzzle has the base, but the text after it is not a suffix. -/
  | suffix {text base rest : List Char} (htext : BasedText text base rest)
      (hbase : base ∈ baseTexts) (hslice : ∀ s : Slice, base = [s.letter] → size.layers % 2 = 1)
      (hsuffix : ∃ x ∈ rest, x ≠ '2' ∧ x ≠ '\'') : Refusal size text (.badModifier text rest)

/-! ### Taking a text apart -/

/-- A line end is not lost with a `w`. -/
theorem newline_mem_dropWide_iff {s : List Char} : '\n' ∈ dropWide s ↔ '\n' ∈ s := by
  unfold dropWide
  split
  · simp
  · rfl

/-- The letters of faces in either case are those that name a face. -/
theorem mem_faceLetters_append_wideLetters_iff {c : Char} :
    c ∈ faceLetters ++ wideLetters ↔ ∃ p, Face.ofEitherLetter? c = some p := by
  rw [mem_faceLetters_append_iff]
  constructor
  · rintro ⟨f, lower, rfl, -, -⟩
    exact ⟨(f, lower), f.ofEitherLetter?_letterAs lower⟩
  · rintro ⟨⟨f, lower⟩, hc⟩
    rw [Face.ofEitherLetter?_eq_some_iff.1 hc]
    exact ⟨f, lower, rfl, f.toUpper_letterAs lower, f.isLower_letterAs lower⟩

namespace Spelling

/-- The letter behind a layer count decides about the face, and a `w` after it is not left over. -/
theorem face?_cons (c : Char) (rest : List Char) :
    face? (c :: rest) = (Face.ofEitherLetter? c).map fun p =>
      (p.1, p.2 || rest.head? == some 'w', dropWide rest) := by
  cases rest with
  | nil => simp [face?, dropWide]
  | cons d r =>
    by_cases hd : d = 'w'
    · subst hd
      simp [face?, dropWide]
    · have hw : (d == 'w') = false := beq_eq_false_iff_ne.2 hd
      simp [face?, dropWide, hd, hw]

/-- What is taken for a counted turn is one, if the text begins with a digit. -/
theorem countedText_of_ofCounted {text digits suffix : List Char} {f : Face} {wide : Bool}
    (hdigit : isDigits (text.takeWhile Char.isDigit) = true)
    (h : ofCounted text = .counted digits f wide suffix) :
    ∃ c rest, CountedText text digits c rest ∧ suffix = dropWide rest := by
  unfold ofCounted at h
  split at h
  · next f' wide' suffix' hface =>
    split at h
    · cases h
    · next hline =>
      cases h
      cases hrest : text.dropWhile Char.isDigit with
      | nil =>
        rw [hrest] at hface
        cases hface
      | cons c rest =>
        rw [hrest, face?_cons] at hface
        obtain ⟨p, hc, hp⟩ := Option.map_eq_some_iff.1 hface
        cases hp
        have htext : text = text.takeWhile Char.isDigit ++ c :: rest := by
          rw [← hrest, List.takeWhile_append_dropWhile]
        exact ⟨c, rest, ⟨htext, hdigit, mem_faceLetters_append_wideLetters_iff.2 ⟨p, hc⟩,
          fun hmem => hline (newline_mem_dropWide_iff.2 hmem)⟩, rfl⟩
  · cases h

/-- The parts of a counted turn are its digits, its face and its suffix. -/
theorem exists_ofToken_eq_counted {text digits rest : List Char} {c : Char}
    (h : CountedText text digits c rest) :
    ∃ f wide, ofToken text = .counted digits f wide (dropWide rest) := by
  obtain ⟨rfl, hdigits, hletter, hline⟩ := h
  obtain ⟨⟨f, lower⟩, hc⟩ := mem_faceLetters_append_wideLetters_iff.1 hletter
  have hdigit : ∀ x ∈ (c :: rest).head?, x.isDigit = false := by
    intro x hx
    cases hx
    rw [Face.ofEitherLetter?_eq_some_iff.1 hc]
    exact f.isDigit_letterAs lower
  have hface : face? (c :: rest) =
      some (f, lower || rest.head? == some 'w', dropWide rest) := by
    rw [face?_cons, hc]
    rfl
  exact ⟨f, _, ofToken_digits_append hdigits hdigit hface
    fun hmem => hline (newline_mem_dropWide_iff.1 hmem)⟩

/-- A text that begins with a digit and is no counted turn has no parts. -/
theorem ofToken_eq_countedOther {c : Char} {rest : List Char} (hc : c.isDigit = true)
    (htext : ∀ digits d after, ¬ CountedText (c :: rest) digits d after) :
    ofToken (c :: rest) = .countedOther := by
  have hread : ofToken (c :: rest) = ofCounted (c :: rest) := if_pos hc
  rw [hread]
  cases h : ofCounted (c :: rest) with
  | countedOther => rfl
  | counted digits f wide suffix =>
    obtain ⟨d, after, hcounted, -⟩ := countedText_of_ofCounted (by simp [isDigits, hc]) h
    exact absurd hcounted (htext digits d after)
  | empty | named =>
    unfold ofCounted at h
    split at h
    · split at h <;> cases h
    · cases h

/-- The parts of any other text are its base and its rest. -/
theorem ofToken_eq_named {text base rest : List Char} (h : BasedText text base rest) :
    ofToken text = .named base rest := by
  cases h with
  | letter hc hw =>
    cases rest with
    | nil => simp [ofToken, hc]
    | cons d r =>
      have hd : d ≠ 'w' := fun hd => hw (congrArg some hd)
      simp [ofToken, hc, hd]
  | wide hc => simp [ofToken, hc]

end Spelling

/-- A text that does not begin with a digit has a base. -/
theorem exists_basedText {c : Char} (hc : c.isDigit = false) (rest : List Char) :
    ∃ base after, BasedText (c :: rest) base after := by
  by_cases hw : rest.head? = some 'w'
  · obtain ⟨r, rfl⟩ := List.head?_eq_some_iff.1 hw
    exact ⟨_, _, .wide hc⟩
  · exact ⟨_, _, .letter hc hw⟩

/-- The texts that spell a base move are those that are read as one. -/
theorem mem_baseTexts_iff {text : List Char} :
    text ∈ baseTexts ↔ ∃ b, BaseMove.parse text = some b := by
  constructor
  · intro h
    have hread : ∀ s ∈ baseTexts, (BaseMove.parse s).isSome = true := by decide
    exact Option.isSome_iff_exists.1 (hread text h)
  · rintro ⟨b, hb⟩
    rcases BaseMove.parse_eq_some_iff.1 hb with rfl | ⟨f, -, rfl⟩
    · cases b with
      | face f => cases f <;> decide
      | wide f => cases f <;> decide
      | slice s => cases s <;> decide
      | rotation a => cases a <;> decide
    · cases f <;> decide

/-- The only text that spells a slice is its letter. -/
theorem BaseMove.parse_eq_some_slice_iff {text : List Char} {s : Slice} :
    parse text = some (.slice s) ↔ text = [s.letter] := by
  rw [parse_eq_some_iff]
  constructor
  · rintro (h | ⟨f, hs, -⟩)
    · exact h
    · cases hs
  · exact .inl

/-! ### Judging the parts -/

/-- A suffix is refused if it stands for no modifier. -/
theorem Modifier.ofSuffix_eq_error_iff {token suffix : List Char} {e : MoveError} :
    ofSuffix token suffix = .error e ↔
      ofSuffix? suffix = none ∧ e = .badModifier token suffix := by
  unfold ofSuffix
  cases ofSuffix? suffix <;> simp [eq_comm]

namespace MoveTable

variable {size : PuzzleSize} {b : BaseMove}

/-- A puzzle has all base moves but the slices, which it has if its size is odd. -/
theorem exists_find?_ofSize_iff :
    (∃ turn, (ofSize size).find? b = some turn) ↔ ∀ s, b = .slice s → size.layers % 2 = 1 := by
  cases b with
  | slice s =>
    rw [exists_find?_slice_iff]
    exact ⟨fun hodd _ _ => hodd, fun h => h s rfl⟩
  | face f => exact ⟨nofun, fun _ => ⟨_, find?_ofSize size (.face f)⟩⟩
  | wide f => exact ⟨nofun, fun _ => ⟨_, find?_ofSize size (.wide f)⟩⟩
  | rotation a => exact ⟨nofun, fun _ => ⟨_, find?_ofSize size (.rotation a)⟩⟩

/-- A base move is refused if it is a slice and the size is even. -/
theorem turn_ofSize_eq_error_iff {token : List Char} {e : MoveError} :
    (ofSize size).turn token b = .error e ↔
      ∃ s, b = .slice s ∧ size.layers % 2 = 0 ∧ e = .sliceOnEvenSize s size := by
  cases hfind : (ofSize size).find? b with
  | some turn =>
    have hodd := exists_find?_ofSize_iff.1 ⟨turn, hfind⟩
    rw [turn_eq_ok_iff.2 hfind]
    refine ⟨nofun, fun ⟨s, hs, heven, _⟩ => ?_⟩
    have := hodd s hs
    omega
  | none =>
    have hnone : ¬ ∀ s, b = .slice s → size.layers % 2 = 1 := by
      rw [← exists_find?_ofSize_iff, hfind]
      simp
    push Not at hnone
    obtain ⟨s, rfl, heven⟩ := hnone
    have hturn : (ofSize size).turn token (.slice s) = .error (.sliceOnEvenSize s size) := by
      unfold MoveTable.turn
      rw [hfind]
      rfl
    rw [hturn, Except.error.injEq, eq_comm]
    constructor
    · intro h
      exact ⟨s, rfl, by omega, h⟩
    · rintro ⟨s', hs, -, h⟩
      cases hs
      exact h

end MoveTable

namespace Spelling

/-- A counted turn is refused for its count, or else for its suffix. -/
theorem resolve_counted_eq_error_iff {table : MoveTable} {token digits suffix : List Char}
    {f : Face} {wide : Bool} {e : MoveError} :
    (counted digits f wide suffix).resolve table token = .error e ↔
      (ofDecimal digits < 2 ∨ table.size.layers < ofDecimal digits) ∧
          e = .layerCountOutOfRange token (min (ofDecimal digits) maxShownCount) table.size ∨
        (2 ≤ ofDecimal digits ∧ ofDecimal digits ≤ table.size.layers) ∧
          Modifier.ofSuffix? suffix = none ∧ e = .badModifier token suffix := by
  by_cases hcount : 2 ≤ ofDecimal digits ∧ ofDecimal digits ≤ table.size.layers
  · have hout : ¬(ofDecimal digits < 2 ∨ table.size.layers < ofDecimal digits) := by omega
    rw [resolve, if_pos hcount, bind_eq_error_iff, Modifier.ofSuffix_eq_error_iff]
    constructor
    · rintro (hsuffix | ⟨m, -, hm⟩)
      · exact .inr ⟨hcount, hsuffix⟩
      · cases hm
    · rintro (⟨h, -⟩ | ⟨-, hsuffix⟩)
      · exact absurd h hout
      · exact .inl hsuffix
  · have hout : ofDecimal digits < 2 ∨ table.size.layers < ofDecimal digits := by omega
    rw [resolve, if_neg hcount, Except.error.injEq, eq_comm]
    constructor
    · exact fun he => .inl ⟨hout, he⟩
    · rintro (⟨-, he⟩ | ⟨h, -⟩)
      · exact he
      · exact absurd h hcount

/-- A base and a rest are refused if the base is not a base move, if it is one that the puzzle does
not have, or else for the rest. -/
theorem resolve_named_eq_error_iff {size : PuzzleSize} {token text suffix : List Char}
    {e : MoveError} : (named text suffix).resolve (.ofSize size) token = .error e ↔
      BaseMove.parse text = none ∧ e = .unknownToken token ∨
        ∃ b, BaseMove.parse text = some b ∧
          ((∃ s, b = .slice s ∧ size.layers % 2 = 0 ∧ e = .sliceOnEvenSize s size) ∨
            (∀ s, b = .slice s → size.layers % 2 = 1) ∧
              Modifier.ofSuffix? suffix = none ∧ e = .badModifier token suffix) := by
  cases hparse : BaseMove.parse text with
  | none =>
    have hresolve : (named text suffix).resolve (.ofSize size) token =
        .error (.unknownToken token) := by rw [resolve, hparse]
    rw [hresolve, Except.error.injEq, eq_comm]
    simp
  | some b =>
    have hresolve : (named text suffix).resolve (.ofSize size) token =
        ((MoveTable.ofSize size).turn token b >>= fun turn =>
          Modifier.ofSuffix token suffix >>= fun modifier =>
            .ok (.ofTurn (.base b) turn modifier)) := by
      rw [resolve, hparse]
      rfl
    have hsuffix : ∀ turn, (Modifier.ofSuffix token suffix >>= fun modifier =>
        Except.ok (Move.ofTurn (.base b) turn modifier)) = .error e ↔
          Modifier.ofSuffix? suffix = none ∧ e = .badModifier token suffix := by
      intro turn
      rw [bind_eq_error_iff, Modifier.ofSuffix_eq_error_iff]
      simp
    rw [hresolve, bind_eq_error_iff, MoveTable.turn_ofSize_eq_error_iff]
    simp only [hsuffix, MoveTable.turn_eq_ok_iff, exists_and_right,
      MoveTable.exists_find?_ofSize_iff, Option.some.injEq, reduceCtorEq, false_and, false_or,
      exists_eq_left']

end Spelling

/-! ### Why a text is refused -/

/-- A counted turn is refused for its count, whatever its suffix is, or else for its suffix. -/
theorem CountedText.resolve_eq_error_iff {size : PuzzleSize} {text digits rest : List Char}
    {c : Char} {e : MoveError} (h : CountedText text digits c rest) :
    (Spelling.ofToken text).resolve (.ofSize size) text = .error e ↔
      (ofDecimal digits < 2 ∨ size.layers < ofDecimal digits) ∧
          e = .layerCountOutOfRange text (min (ofDecimal digits) (2 ^ 32 - 1)) size ∨
        (2 ≤ ofDecimal digits ∧ ofDecimal digits ≤ size.layers) ∧
          (∃ x ∈ dropWide rest, x ≠ '2' ∧ x ≠ '\'') ∧ e = .badModifier text (dropWide rest) := by
  obtain ⟨f, wide, hparts⟩ := Spelling.exists_ofToken_eq_counted h
  rw [hparts, Spelling.resolve_counted_eq_error_iff, Modifier.ofSuffix?_eq_none_iff]
  rfl

/-- A text with a base is refused for its base, whatever follows it, or else for what follows. -/
theorem BasedText.resolve_eq_error_iff {size : PuzzleSize} {text base rest : List Char}
    {e : MoveError} (h : BasedText text base rest) :
    (Spelling.ofToken text).resolve (.ofSize size) text = .error e ↔
      base ∉ baseTexts ∧ e = .unknownToken text ∨
        (∃ s : Slice, base = [s.letter] ∧ size.layers % 2 = 0 ∧ e = .sliceOnEvenSize s size) ∨
        base ∈ baseTexts ∧ (∀ s : Slice, base = [s.letter] → size.layers % 2 = 1) ∧
          (∃ x ∈ rest, x ≠ '2' ∧ x ≠ '\'') ∧ e = .badModifier text rest := by
  rw [Spelling.ofToken_eq_named h, Spelling.resolve_named_eq_error_iff,
    Modifier.ofSuffix?_eq_none_iff]
  simp only [mem_baseTexts_iff, ← BaseMove.parse_eq_some_slice_iff]
  cases BaseMove.parse base with
  | none => simp
  | some b => simp

/-- A token is refused for the reason that its text without the blanks around it gives, and for no
other. Where there is no such reason, the token is not refused. -/
theorem Notation.move_eq_error_iff_refusal (size : PuzzleSize) (token : List Char) (e : MoveError) :
    (ofSize size).move token = .error e ↔ Refusal size (strip token) e := by
  have hmove : (ofSize size).move token =
      (Spelling.ofToken (strip token)).resolve (.ofSize size) (strip token) := rfl
  rw [hmove]
  generalize strip token = text
  constructor
  · intro h
    cases text with
    | nil =>
      cases h
      exact .empty
    | cons c r =>
      by_cases hc : c.isDigit = true
      · by_cases hcounted : ∃ digits d rest, CountedText (c :: r) digits d rest
        · obtain ⟨digits, d, rest, htext⟩ := hcounted
          rcases htext.resolve_eq_error_iff.1 h with
            ⟨hcount, rfl⟩ | ⟨⟨two_le, le_layers⟩, hsuffix, rfl⟩
          · exact .count htext hcount
          · exact .countedSuffix htext two_le le_layers hsuffix
        · have hother : ∀ digits d rest, ¬ CountedText (c :: r) digits d rest :=
            fun digits d rest htext => hcounted ⟨digits, d, rest, htext⟩
          rw [Spelling.ofToken_eq_countedOther hc hother] at h
          cases h
          exact .countedOther hc hother
      · obtain ⟨base, rest, htext⟩ := exists_basedText (Bool.eq_false_iff.2 hc) r
        rcases htext.resolve_eq_error_iff.1 h with
          ⟨hbase, rfl⟩ | ⟨s, rfl, heven, rfl⟩ | ⟨hbase, hslice, hsuffix, rfl⟩
        · exact .base htext hbase
        · exact .slice htext heven
        · exact .suffix htext hbase hslice hsuffix
  · intro h
    cases h with
    | empty => rfl
    | count htext hcount => exact htext.resolve_eq_error_iff.2 (.inl ⟨hcount, rfl⟩)
    | countedSuffix htext two_le le_layers hsuffix =>
      exact htext.resolve_eq_error_iff.2 (.inr ⟨⟨two_le, le_layers⟩, hsuffix, rfl⟩)
    | countedOther hc htext =>
      rw [Spelling.ofToken_eq_countedOther hc htext]
      rfl
    | base htext hbase => exact htext.resolve_eq_error_iff.2 (.inl ⟨hbase, rfl⟩)
    | slice htext heven =>
      exact htext.resolve_eq_error_iff.2 (.inr (.inl ⟨_, rfl, heven, rfl⟩))
    | suffix htext hbase hslice hsuffix =>
      exact htext.resolve_eq_error_iff.2 (.inr (.inr ⟨hbase, hslice, hsuffix, rfl⟩))

/-- On a puzzle of size 2, a count is refused before a suffix, and a slice as well. -/
example : (Notation.ofSize .two).move ['3', 'R', '!'] =
      .error (.layerCountOutOfRange ['3', 'R', '!'] 3 .two) ∧
    (Notation.ofSize .two).move ['M', '!'] = .error (.sliceOnEvenSize .middle .two) :=
  ⟨rfl, rfl⟩

end Twisty
