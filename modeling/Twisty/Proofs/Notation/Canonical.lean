import Twisty.Proofs.Notation.Spelling

/-!
# The canonical text of a move names the move

A token names moves of the puzzle only (`Move.IsOn.of_parse`), and the canonical text of such a move
names the move (`Move.IsOn.parse_render`): the text holds no blank, its stem spells itself, and its
suffix stands for the modifier that it writes. The two together say that what was read once can be
written and read again. The inverse of such a move is such a move too (`Move.IsOn.inverse`).

So the canonical text serves as a name: on one puzzle, moves are equal if their texts are, and the
text of the inverse names the inverse (`Notation.canonical_text_names_move`).
-/

namespace Twisty

open Text

/-! ### The characters of canonical texts -/

/-- A digit is not a blank. -/
theorem isBlank_of_isDigit {c : Char} (h : c.isDigit = true) : isBlank c = false := by
  simp only [Char.isDigit, Bool.and_eq_true, decide_eq_true_eq] at h
  have h1 : 48 ≤ c.toNat := h.1
  have h2 : c.toNat ≤ 57 := h.2
  rw [Bool.eq_false_iff]
  intro hb
  rw [isBlank, inRanges_iff] at hb
  obtain ⟨r, hr, hlo, hhi⟩ := hb
  simp only [blankRanges, List.mem_cons, List.not_mem_nil, or_false] at hr
  rcases hr with rfl | rfl | rfl | rfl | rfl | rfl | rfl | rfl | rfl | rfl <;> omega

/-- Whether a text holds a blank can be evaluated. -/
theorem not_isBlank_of_all {s : List Char} (h : s.all (!isBlank ·) = true) :
    ∀ c ∈ s, isBlank c = false := by
  simpa using h

/-- A suffix that stands for a modifier holds no blank. -/
theorem Modifier.not_isBlank_of_ofSuffix? {suffix : List Char} {m : Modifier}
    (h : ofSuffix? suffix = some m) : ∀ c ∈ suffix, isBlank c = false := by
  intro c hc
  rcases (ofSuffix?_eq_some_iff.1 h).1 c hc with rfl | rfl
  · decide
  · decide

/-- The canonical text of a base move holds no blank. -/
theorem BaseMove.not_isBlank_of_mem_render (b : BaseMove) : ∀ c ∈ b.render, isBlank c = false := by
  refine not_isBlank_of_all ?_
  cases b with
  | face f => cases f <;> rfl
  | wide f => cases f <;> rfl
  | slice s => cases s <;> rfl
  | rotation a => cases a <;> rfl

/-- The canonical text of a stem holds no blank. -/
theorem Stem.not_isBlank_of_mem_render (stem : Stem) : ∀ c ∈ stem.render, isBlank c = false := by
  cases stem with
  | base b => exact b.not_isBlank_of_mem_render
  | counted n f wide =>
    intro c hc
    rcases List.mem_append.1 hc with hc | hc
    · exact isBlank_of_isDigit (isDigit_of_mem_decimal hc)
    · refine not_isBlank_of_all ?_ c hc
      cases f <;> cases wide <;> rfl

/-- The canonical text of a stem is not empty. -/
theorem Stem.render_ne_nil (stem : Stem) : stem.render ≠ [] := by
  cases stem with
  | base b => cases b <;> exact List.cons_ne_nil _ _
  | counted n f wide => exact List.append_ne_nil_of_right_ne_nil _ (List.cons_ne_nil _ _)

namespace Move

/-- The canonical text of a move holds no blank. -/
theorem not_isBlank_of_mem_render (m : Move) : ∀ c ∈ m.render, isBlank c = false := by
  intro c hc
  rcases List.mem_append.1 hc with hc | hc
  · exact m.stem.not_isBlank_of_mem_render c hc
  · refine not_isBlank_of_all ?_ c hc
    cases m.modifier <;> rfl

/-- The canonical text of a move is not empty. -/
theorem render_ne_nil (m : Move) : m.render ≠ [] :=
  List.append_ne_nil_of_left_ne_nil m.stem.render_ne_nil _

end Move

/-! ### Tokens that are put together -/

/-- A spelling of a stem holds no blank. -/
theorem Stem.Spelled.not_isBlank {text : List Char} {stem : Stem} (h : stem.Spelled text) :
    ∀ c ∈ text, isBlank c = false := by
  cases h with
  | named b => exact b.not_isBlank_of_mem_render
  | lowercase f =>
    refine not_isBlank_of_all ?_
    cases f <;> rfl
  | counted hdigits f lower w =>
    intro c hc
    rcases List.mem_append.1 hc with hc | hc
    · exact isBlank_of_isDigit (isDigit_of_mem hdigits hc)
    · refine not_isBlank_of_all ?_ c hc
      cases f <;> cases lower <;> cases w <;> rfl

/-- A spelling of a stem is not empty. -/
theorem Stem.Spelled.ne_nil {text : List Char} {stem : Stem} (h : stem.Spelled text) :
    text ≠ [] := by
  cases h with
  | named b => exact (Stem.base b).render_ne_nil
  | lowercase f => exact List.cons_ne_nil _ _
  | counted hdigits f lower w =>
    exact List.append_ne_nil_of_right_ne_nil _ (List.cons_ne_nil _ _)

/-- There is no blank around a spelling of a stem with a text after it that does not end in one. -/
theorem Stem.Spelled.strip_append {text suffix : List Char} {stem : Stem} (h : stem.Spelled text)
    (hblank : ∀ c ∈ suffix.getLast?, isBlank c = false) : strip (text ++ suffix) = text ++ suffix := by
  obtain ⟨c, rest, htext⟩ := List.exists_cons_of_ne_nil h.ne_nil
  have hnot := h.not_isBlank
  refine strip_eq_self_of_ends (fun x hx => ?_) (fun x hx => ?_)
  · rw [htext] at hx
    cases hx
    exact hnot c (by simp [htext])
  -- If there is no text after the spelling, its own last character is the last one.
  · rw [List.getLast?_append] at hx
    cases hlast : suffix.getLast? with
    | none =>
      rw [hlast, Option.none_or] at hx
      exact hnot x (List.mem_of_getLast? hx)
    | some d =>
      rw [hlast, Option.some_or] at hx
      cases hx
      exact hblank _ hlast

namespace Move

variable {table : MoveTable} {text suffix : List Char} {stem : Stem} {turn : Turn}

/-- A spelling of a stem that names a turn, and a text after it, are a move if that text is a
suffix, and are refused for that text if it is none. -/
theorem parse_append (hspelled : stem.Spelled text) (hturn : stem.turn? table = some turn)
    (hw : suffix.head? ≠ some 'w') (hline : (∃ b, stem = .base b) ∨ '\n' ∉ suffix)
    (hblank : ∀ c ∈ suffix.getLast?, isBlank c = false) :
    parse table (text ++ suffix) =
      (Modifier.ofSuffix (text ++ suffix) suffix).map (ofTurn stem turn) := by
  rw [parse, hspelled.strip_append hblank]
  exact Spelling.resolve_of_stem? (Spelling.stem?_ofToken_append hspelled hw hline) hturn

/-- A spelling of a stem and a suffix are a move exactly if the stem names a turn, which the suffix
then alters. -/
theorem parse_append_eq_ok_iff {modifier : Modifier} {m : Move} (hspelled : stem.Spelled text)
    (hmodifier : Modifier.ofSuffix? suffix = some modifier) :
    parse table (text ++ suffix) = .ok m ↔
      ∃ turn, stem.turn? table = some turn ∧ m = .ofTurn stem turn modifier := by
  have hw := Modifier.head?_ne_of_ofSuffix? hmodifier
  have hline := Modifier.newline_not_mem_of_ofSuffix? hmodifier
  have hblank : ∀ c ∈ suffix.getLast?, isBlank c = false := fun c hc =>
    Modifier.not_isBlank_of_ofSuffix? hmodifier c (List.mem_of_getLast? hc)
  constructor
  · intro h
    rw [parse, hspelled.strip_append hblank, Spelling.resolve_eq_ok_iff] at h
    obtain ⟨stem', suffix', turn, modifier', hstem, hturn, hmodifier', rfl⟩ := h
    -- The token is taken apart where it was put together, so that these are the parts given.
    rw [Spelling.stem?_ofToken_append hspelled hw (.inr hline)] at hstem
    cases hstem
    rw [hmodifier] at hmodifier'
    cases hmodifier'
    exact ⟨turn, hturn, rfl⟩
  · rintro ⟨turn, hturn, rfl⟩
    rw [parse_append hspelled hturn hw (.inr hline) hblank, Modifier.ofSuffix_eq_ok_iff.2 hmodifier]
    rfl

/-- A spelling of a stem and a suffix name the turn of the stem as the suffix alters it. -/
theorem parse_of_spelled {modifier : Modifier} (hspelled : stem.Spelled text)
    (hturn : stem.turn? table = some turn) (hmodifier : Modifier.ofSuffix? suffix = some modifier) :
    parse table (text ++ suffix) = .ok (.ofTurn stem turn modifier) :=
  (parse_append_eq_ok_iff hspelled hmodifier).2 ⟨turn, hturn, rfl⟩

end Move

/-! ### Moves that their notation names -/

namespace Move.IsOn

variable {table : MoveTable} {token : List Char} {m : Move}

/-- A token names moves of the puzzle only. -/
theorem of_parse (h : Move.parse table token = .ok m) : m.IsOn table :=
  (Move.parse_eq_ok_iff.1 h).1

/-- The canonical text of a move of the puzzle names that move. -/
theorem parse_render (h : m.IsOn table) : Move.parse table m.render = .ok m := by
  have htoken : strip m.render = m.stem.render ++ m.modifier.render :=
    strip_eq_self m.not_isBlank_of_mem_render
  exact Move.parse_eq_ok_iff.2 ⟨h, m.stem.render, m.modifier.render, htoken,
    m.stem.spelled_render, Modifier.ofSuffix?_render m.modifier⟩

/-- The inverse of a move of the puzzle is a move of the puzzle. -/
theorem inverse (h : m.IsOn table) : m.inverse.IsOn table := by
  obtain ⟨turn, hturn, hm⟩ := h
  refine ⟨turn, hturn, ?_⟩
  rw [hm]
  cases hmod : m.modifier <;>
    simp [Move.inverse, ofTurn, direction, Modifier.inverse, Modifier.apply]

/-- Moves of the puzzle are equal if their canonical texts are. -/
theorem render_inj {m' : Move} (h : m.IsOn table) (h' : m'.IsOn table) :
    m.render = m'.render ↔ m = m' := by
  constructor
  · intro htext
    have hread := h.parse_render
    rw [htext, h'.parse_render] at hread
    exact (Except.ok.inj hread).symm
  · intro hm
    rw [hm]

end Move.IsOn

/-- What a token names is named by its canonical text as well, and its inverse by the canonical text
of the inverse. On one notation, two such moves are equal exactly if their canonical texts are. The
inverse of the inverse is the move itself, and the inverse is so exactly for half turns. -/
theorem Notation.canonical_text_names_move {n : Notation} {token token' : List Char} {m m' : Move}
    (h : n.move token = .ok m) (h' : n.move token' = .ok m') :
    n.move m.render = .ok m ∧ n.move m.inverse.render = .ok m.inverse ∧
      (m = m' ↔ m.render = m'.render) ∧ m.inverse.inverse = m ∧
      (m.inverse = m ↔ m.modifier = .double) := by
  have hm : m.IsOn n.table := Move.IsOn.of_parse h
  have hm' : m'.IsOn n.table := Move.IsOn.of_parse h'
  exact ⟨hm.parse_render, hm.inverse.parse_render, (hm.render_inj hm').symm, m.inverse_inverse,
    Move.inverse_eq_self_iff⟩

/-- On a puzzle of size 4, ` 03rw''` is `3Rw'` and differs from `4L2'`, which is `4L2`. -/
theorem Notation.canonical_text_of_surplus_marks :
    let n := Notation.ofSize ⟨4, by decide⟩
    let m : Move := ⟨.counted 3 .right true, ⟨.layers [1, 2, 3], .x, .positive⟩, .prime⟩
    let m' : Move := ⟨.counted 4 .left false, ⟨.layers [0, 1, 2, 3], .x, .positive⟩, .double⟩
    n.move [' ', '0', '3', 'r', 'w', '\'', '\''] = .ok m ∧ n.move ['4', 'L', '2', '\''] = .ok m' ∧
      n.move m.render = .ok m ∧ n.move m.inverse.render = .ok m.inverse ∧
      (m = m' ↔ m.render = m'.render) ∧ m.inverse.inverse = m ∧
      (m.inverse = m ↔ m.modifier = .double) := by
  intro n m m'
  have h : n.move [' ', '0', '3', 'r', 'w', '\'', '\''] = .ok m := by rfl
  have h' : n.move ['4', 'L', '2', '\''] = .ok m' := by rfl
  exact ⟨h, h', canonical_text_names_move h h'⟩

end Twisty
