import Twisty.Notation

/-!
# The spellings of a move

A text spells a stem (`Stem.Spelled`) if it is the canonical text of a base move, the lowercase
letter of a face, or a run of digits before the letter of a face in either case, with or without a
`w`. `Stem.turn?` is the turn that a stem names on a puzzle, and `Move.IsOn` holds of the moves
whose notation names them there.

A token names the moves of the puzzle whose stem it spells before a suffix that stands for their
modifier, and no others (`Move.parse_eq_ok_iff`). The two halves of the reader have a lemma each. A
token is taken apart where it was put together (`Spelling.stem?_ofToken_append`): a suffix of marks
does not begin with a `w`, so that no part of it can be taken for a part of the stem. The parts then
name a move if their stem names a turn and their suffix a modifier (`Spelling.resolve_eq_ok_iff`).
-/

namespace Twisty

open Text

/-! ### Stems -/

/-- The letter of a face, in lowercase as the wide turn is spelled or in uppercase. -/
def Face.letterAs (f : Face) (lower : Bool) : Char :=
  if lower then f.wideLetter else f.letter

/-- A letter names the face whose letter it is, in its case. -/
theorem Face.ofEitherLetter?_eq_some_iff {c : Char} {f : Face} {lower : Bool} :
    ofEitherLetter? c = some (f, lower) ↔ c = f.letterAs lower := by
  constructor
  · intro h
    simp only [ofEitherLetter?, Option.orElse_eq_orElse, ← Option.or_eq_orElse,
      Option.or_eq_some_iff, Option.map_eq_some_iff, Prod.mk.injEq] at h
    rcases h with ⟨f', hf, rfl, rfl⟩ | ⟨-, f', hf, rfl, rfl⟩
    · exact ofLetter?_eq_some_iff.1 hf
    · exact ofWideLetter?_eq_some_iff.1 hf
  · rintro rfl
    cases f <;> cases lower <;> rfl

/-- The letter of a face is read as the face and its case. -/
@[simp]
theorem Face.ofEitherLetter?_letterAs (f : Face) (lower : Bool) :
    ofEitherLetter? (f.letterAs lower) = some (f, lower) :=
  ofEitherLetter?_eq_some_iff.2 rfl

/-- The letter of a face is not a digit. -/
theorem Face.isDigit_letterAs (f : Face) (lower : Bool) : (f.letterAs lower).isDigit = false := by
  cases f <;> cases lower <;> rfl

/-- A text spells a stem. -/
inductive Stem.Spelled : List Char → Stem → Prop where
  /-- A base move has its canonical text. -/
  | named (b : BaseMove) : Spelled b.render (.base b)
  /-- The wide turn of a face has the lowercase letter of the face as well. -/
  | lowercase (f : Face) : Spelled [f.wideLetter] (.base (.wide f))
  /-- A counted turn is wide if the letter is lowercase or a `w` follows it. -/
  | counted {digits : List Char} (hdigits : isDigits digits = true) (f : Face) (lower w : Bool) :
      Spelled (digits ++ f.letterAs lower :: if w then ['w'] else [])
        (.counted (ofDecimal digits) f (lower || w))

/-- A written layer count before the letter of a face spells a counted turn. -/
theorem Stem.Spelled.counted_decimal (n : Nat) (f : Face) (lower w : Bool) :
    (Stem.counted n f (lower || w)).Spelled
      (decimal n ++ f.letterAs lower :: if w then ['w'] else []) := by
  have hspelled := Spelled.counted (isDigits_decimal n) f lower w
  rwa [ofDecimal_decimal] at hspelled

/-- The canonical text of a stem spells it. -/
theorem Stem.spelled_render (stem : Stem) : stem.Spelled stem.render := by
  cases stem with
  | base b => exact .named b
  | counted n f wide => exact .counted_decimal n f false wide

/-- The turn that a stem names on the puzzle of a table, if it names one. -/
def Stem.turn? (table : MoveTable) : Stem → Option Turn
  | base b => table.find? b
  | counted n f _ =>
    if 2 ≤ n ∧ n ≤ table.size.layers then some (.ofFace table.size f n) else none

/-- A counted stem names the turn of as many outermost layers, from 2 up to all of them. -/
theorem Stem.turn?_counted_eq_some_iff {table : MoveTable} {n : Nat} {f : Face} {wide : Bool}
    {turn : Turn} : (counted n f wide).turn? table = some turn ↔
      (2 ≤ n ∧ n ≤ table.size.layers) ∧ turn = .ofFace table.size f n := by
  rw [turn?, Option.ite_none_right_eq_some, Option.some_inj, eq_comm]

/-- A move is on the puzzle of a table if its notation names it there. -/
def Move.IsOn (table : MoveTable) (m : Move) : Prop :=
  ∃ turn, m.stem.turn? table = some turn ∧ m = .ofTurn m.stem turn m.modifier

namespace Spelling

/-! ### Taking a token apart -/

/-- The stem that the parts of a token spell, if they spell one, and the suffix. -/
def stem? : Spelling → Option (Stem × List Char)
  | counted digits f wide suffix => some (.counted (ofDecimal digits) f wide, suffix)
  | named text suffix => (BaseMove.parse text).map fun b => (.base b, suffix)
  | empty | countedOther => none

/-- The letter of a face and its `w` are read up to a suffix that does not begin with a `w`. -/
theorem face?_letterAs {suffix : List Char} (h : suffix.head? ≠ some 'w') (f : Face)
    (lower w : Bool) :
    face? (f.letterAs lower :: ((if w then ['w'] else []) ++ suffix)) =
      some (f, lower || w, suffix) := by
  cases w with
  | true => simp [face?]
  | false =>
    cases suffix with
    | nil => simp [face?]
    | cons c r =>
      have hc : c ≠ 'w' := fun hc => h (by rw [hc]; rfl)
      simp [face?, hc]

/-- What follows a layer count is the letter of a face with its `w`, and then the suffix. -/
theorem eq_of_face?_eq_some {text suffix : List Char} {f : Face} {wide : Bool}
    (h : face? text = some (f, wide, suffix)) :
    ∃ lower w, wide = (lower || w) ∧
      text = f.letterAs lower :: ((if w then ['w'] else []) ++ suffix) := by
  unfold face? at h
  split at h
  · next c r =>
    obtain ⟨⟨f', lower⟩, hface, hp⟩ := Option.map_eq_some_iff.1 h
    cases hp
    exact ⟨lower, true, by simp, by simp [Face.ofEitherLetter?_eq_some_iff.1 hface]⟩
  · next c r _ =>
    obtain ⟨⟨f', lower⟩, hface, hp⟩ := Option.map_eq_some_iff.1 h
    cases hp
    exact ⟨lower, false, by simp, by simp [Face.ofEitherLetter?_eq_some_iff.1 hface]⟩
  · cases h

/-- The digits at the front of a text are a run that something else follows. -/
theorem takeWhile_isDigit_append {digits rest : List Char}
    (hdigits : ∀ c ∈ digits, c.isDigit = true) (hrest : ∀ c ∈ rest.head?, c.isDigit = false) :
    (digits ++ rest).takeWhile Char.isDigit = digits := by
  rw [List.takeWhile_append_of_pos hdigits]
  cases rest with
  | nil => simp
  | cons c r => simp [hrest c rfl]

/-- What is left after the digits at the front of a text is what follows the run. -/
theorem dropWhile_isDigit_append {digits rest : List Char}
    (hdigits : ∀ c ∈ digits, c.isDigit = true) (hrest : ∀ c ∈ rest.head?, c.isDigit = false) :
    (digits ++ rest).dropWhile Char.isDigit = rest := by
  rw [List.dropWhile_append_of_pos hdigits]
  cases rest with
  | nil => rfl
  | cons c r => simp [hrest c rfl]

/-- A run of digits before a face, with a suffix on one line, is a counted turn. -/
theorem ofToken_digits_append {digits rest suffix : List Char} {f : Face} {wide : Bool}
    (hdigits : isDigits digits = true) (hrest : ∀ c ∈ rest.head?, c.isDigit = false)
    (hface : face? rest = some (f, wide, suffix)) (hline : '\n' ∉ suffix) :
    ofToken (digits ++ rest) = .counted digits f wide suffix := by
  simp only [isDigits, Bool.and_eq_true, Bool.not_eq_true', List.isEmpty_eq_false_iff,
    List.all_eq_true] at hdigits
  obtain ⟨hne, hall⟩ := hdigits
  have hcounted : ofToken (digits ++ rest) = ofCounted (digits ++ rest) := by
    obtain ⟨d, ds, rfl⟩ := List.exists_cons_of_ne_nil hne
    exact if_pos (hall d (List.mem_cons_self ..))
  rw [hcounted, ofCounted, takeWhile_isDigit_append hall hrest,
    dropWhile_isDigit_append hall hrest, hface]
  exact if_neg hline

/-- A spelled stem and the text after it are taken apart where they meet, if that text does not
begin with a `w`. After a layer count it has to be on one line. -/
theorem stem?_ofToken_append {text suffix : List Char} {stem : Stem} (h : stem.Spelled text)
    (hw : suffix.head? ≠ some 'w') (hline : (∃ b, stem = .base b) ∨ '\n' ∉ suffix) :
    (ofToken (text ++ suffix)).stem? = some (stem, suffix) := by
  -- A single letter is a base on its own, since no `w` follows it.
  have hletter : ∀ c : Char, c.isDigit = false → ofToken (c :: suffix) = .named [c] suffix := by
    intro c hc
    cases suffix with
    | nil => simp [ofToken, hc]
    | cons d r =>
      have hd : d ≠ 'w' := fun hd => hw (by rw [hd]; rfl)
      simp [ofToken, hc, hd]
  cases h with
  | named b =>
    have hnamed : ofToken (b.render ++ suffix) = .named b.render suffix := by
      cases b with
      | face f => exact hletter _ (by cases f <;> rfl)
      | wide f => cases f <;> rfl
      | slice s => exact hletter _ (by cases s <;> rfl)
      | rotation a => exact hletter _ (by cases a <;> rfl)
    rw [hnamed, stem?, BaseMove.parse_render]
    rfl
  | lowercase f =>
    have hnamed : ofToken ([f.wideLetter] ++ suffix) = .named [f.wideLetter] suffix :=
      hletter _ (f.isDigit_letterAs true)
    rw [hnamed, stem?, BaseMove.parse_eq_some_iff.2 (.inr ⟨f, rfl, rfl⟩)]
    rfl
  | counted hdigits f lower w =>
    have hsuffix : '\n' ∉ suffix := by
      rcases hline with ⟨b, hb⟩ | hsuffix
      · cases hb
      · exact hsuffix
    have hrest : ∀ c ∈ (f.letterAs lower :: ((if w then ['w'] else []) ++ suffix)).head?,
        c.isDigit = false := by
      intro c hc
      cases hc
      exact f.isDigit_letterAs lower
    rw [List.append_assoc, List.cons_append,
      ofToken_digits_append hdigits hrest (face?_letterAs hw f lower w) hsuffix]
    rfl

/-- The parts of a token are a spelling of their stem and the suffix after it. -/
theorem spelled_of_stem?_ofToken {token suffix : List Char} {stem : Stem}
    (h : (ofToken token).stem? = some (stem, suffix)) :
    ∃ text, token = text ++ suffix ∧ stem.Spelled text := by
  -- What a base move is read from is a spelling of it.
  have hnamed : ∀ {text rest : List Char}, (named text rest).stem? = some (stem, suffix) →
      text ++ rest = text ++ suffix ∧ stem.Spelled text := by
    intro text rest h
    obtain ⟨b, hb, hp⟩ := Option.map_eq_some_iff.1 h
    cases hp
    refine ⟨rfl, ?_⟩
    rcases BaseMove.parse_eq_some_iff.1 hb with rfl | ⟨f, rfl, rfl⟩
    · exact .named b
    · exact .lowercase f
  unfold ofToken at h
  split at h
  · cases h
  · next c r =>
    split at h
    -- A digit stands first, and the digits are followed by the letter of a face.
    · next hc =>
      unfold ofCounted at h
      split at h
      · next f wide suffix' hface =>
        split at h
        · cases h
        · cases h
          obtain ⟨lower, w, rfl, hrest⟩ := eq_of_face?_eq_some hface
          have hdigits : isDigits ((c :: r).takeWhile Char.isDigit) = true := by
            simp [isDigits, hc]
          refine ⟨_, ?_, .counted hdigits f lower w⟩
          rw [List.append_assoc, List.cons_append, ← hrest, List.takeWhile_append_dropWhile]
      · cases h
    -- No digit stands first, so that the base is one letter, or two if the second is a `w`.
    · split at h
      · next s => exact ⟨[c, 'w'], hnamed h⟩
      · exact ⟨[c], hnamed h⟩

end Spelling

/-! ### Judging the parts -/

/-- Two steps succeed if each of them does. -/
theorem bind_eq_ok_iff {ε α β : Type} {x : Except ε α} {f : α → Except ε β} {b : β} :
    (x >>= f) = .ok b ↔ ∃ a, x = .ok a ∧ f a = .ok b := by
  cases x with
  | error e => exact ⟨nofun, fun ⟨_, h, _⟩ => nomatch h⟩
  | ok a => exact ⟨fun h => ⟨a, rfl, h⟩, fun ⟨_, rfl, h⟩ => h⟩

/-- Two steps fail if the first does, or the second after it. -/
theorem bind_eq_error_iff {ε α β : Type} {x : Except ε α} {f : α → Except ε β} {e : ε} :
    (x >>= f) = .error e ↔ x = .error e ∨ ∃ a, x = .ok a ∧ f a = .error e := by
  cases x with
  | error e' =>
    constructor
    · intro h
      cases h
      exact .inl rfl
    · rintro (h | ⟨a, h, -⟩)
      · cases h
        rfl
      · cases h
  | ok a =>
    constructor
    · intro h
      exact .inr ⟨a, rfl, h⟩
    · rintro (h | ⟨a, h, hf⟩)
      · cases h
      · cases h
        exact hf

/-- A suffix is accepted if it stands for a modifier. -/
theorem Modifier.ofSuffix_eq_ok_iff {token suffix : List Char} {m : Modifier} :
    ofSuffix token suffix = .ok m ↔ ofSuffix? suffix = some m := by
  unfold ofSuffix
  cases ofSuffix? suffix <;> simp

/-- A suffix that stands for a modifier does not begin with a `w`. -/
theorem Modifier.head?_ne_of_ofSuffix? {suffix : List Char} {m : Modifier}
    (h : ofSuffix? suffix = some m) : suffix.head? ≠ some 'w' := by
  intro hw
  rcases (ofSuffix?_eq_some_iff.1 h).1 'w' (List.mem_of_mem_head? hw) with hc | hc
  · cases hc
  · cases hc

/-- A suffix that stands for a modifier is on one line. -/
theorem Modifier.newline_not_mem_of_ofSuffix? {suffix : List Char} {m : Modifier}
    (h : ofSuffix? suffix = some m) : '\n' ∉ suffix := by
  intro hline
  rcases (ofSuffix?_eq_some_iff.1 h).1 '\n' hline with hc | hc
  · cases hc
  · cases hc

/-- A base move has a turn if the table lists one. -/
theorem MoveTable.turn_eq_ok_iff {table : MoveTable} {token : List Char} {b : BaseMove}
    {turn : Turn} : table.turn token b = .ok turn ↔ table.find? b = some turn := by
  unfold MoveTable.turn
  split
  · next hfind => simp [hfind]
  · next hfind => simp [hfind]
  · next hfind => simp [hfind]

/-- Once the stem of a token names a turn, all depends on the suffix. -/
theorem Spelling.resolve_of_stem? {table : MoveTable} {token suffix : List Char}
    {spelling : Spelling} {stem : Stem} {turn : Turn}
    (hstem : spelling.stem? = some (stem, suffix)) (hturn : stem.turn? table = some turn) :
    spelling.resolve table token =
      (Modifier.ofSuffix token suffix).map (Move.ofTurn stem turn) := by
  cases spelling with
  | empty | countedOther => cases hstem
  | counted digits f wide suffix' =>
    cases hstem
    obtain ⟨hcount, rfl⟩ := Stem.turn?_counted_eq_some_iff.1 hturn
    rw [resolve, if_pos hcount]
    cases Modifier.ofSuffix token suffix <;> rfl
  | named text suffix' =>
    obtain ⟨b, hb, hp⟩ := Option.map_eq_some_iff.1 hstem
    cases hp
    simp only [resolve, hb, MoveTable.turn_eq_ok_iff.2 hturn]
    cases Modifier.ofSuffix token suffix <;> rfl

/-- The parts of a token name a move if their stem names a turn and their suffix a modifier. -/
theorem Spelling.resolve_eq_ok_iff {table : MoveTable} {token : List Char} {spelling : Spelling}
    {m : Move} : spelling.resolve table token = .ok m ↔
      ∃ stem suffix turn modifier, spelling.stem? = some (stem, suffix) ∧
        stem.turn? table = some turn ∧ Modifier.ofSuffix? suffix = some modifier ∧
        m = .ofTurn stem turn modifier := by
  constructor
  · intro h
    cases spelling with
    | empty | countedOther => cases h
    | counted digits f wide suffix =>
      simp only [resolve] at h
      split at h
      · next hcount =>
        obtain ⟨modifier, hmodifier, h⟩ := bind_eq_ok_iff.1 h
        cases h
        exact ⟨_, suffix, _, modifier, rfl, if_pos hcount,
          Modifier.ofSuffix_eq_ok_iff.1 hmodifier, rfl⟩
      · cases h
    | named text suffix =>
      simp only [resolve] at h
      split at h
      · cases h
      · next b hb =>
        obtain ⟨turn, hturn, h⟩ := bind_eq_ok_iff.1 h
        obtain ⟨modifier, hmodifier, h⟩ := bind_eq_ok_iff.1 h
        cases h
        exact ⟨.base b, suffix, turn, modifier, by rw [stem?, hb]; rfl,
          MoveTable.turn_eq_ok_iff.1 hturn, Modifier.ofSuffix_eq_ok_iff.1 hmodifier, rfl⟩
  · rintro ⟨stem, suffix, turn, modifier, hstem, hturn, hmodifier, rfl⟩
    rw [resolve_of_stem? hstem hturn, Modifier.ofSuffix_eq_ok_iff.2 hmodifier]
    rfl

/-- A token names the moves of the puzzle whose stem it spells before a suffix that stands for their
modifier. -/
theorem Move.parse_eq_ok_iff {table : MoveTable} {token : List Char} {m : Move} :
    parse table token = .ok m ↔ m.IsOn table ∧ ∃ text suffix, strip token = text ++ suffix ∧
      m.stem.Spelled text ∧ Modifier.ofSuffix? suffix = some m.modifier := by
  constructor
  · intro h
    obtain ⟨stem, suffix, turn, modifier, hstem, hturn, hmodifier, rfl⟩ :=
      Spelling.resolve_eq_ok_iff.1 h
    obtain ⟨text, htoken, hspelled⟩ := Spelling.spelled_of_stem?_ofToken hstem
    exact ⟨⟨turn, hturn, rfl⟩, text, suffix, htoken, hspelled, hmodifier⟩
  · rintro ⟨⟨turn, hturn, hm⟩, text, suffix, htoken, hspelled, hmodifier⟩
    have hstem := Spelling.stem?_ofToken_append hspelled
      (Modifier.head?_ne_of_ofSuffix? hmodifier)
      (.inr (Modifier.newline_not_mem_of_ofSuffix? hmodifier))
    rw [← htoken] at hstem
    exact Spelling.resolve_eq_ok_iff.2
      ⟨m.stem, suffix, turn, m.modifier, hstem, hturn, hmodifier, hm⟩

end Twisty
