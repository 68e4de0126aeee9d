import Mathlib.Data.Nat.Notation
import Twisty.Yaml.Document
import Twisty.Yaml.Line

/-!
# Words in a document

A word of letters, digits and underscores is a plain scalar, at which none of the indicators of the
syntax can begin (`Input.AtWord`). Where such a scalar ends depends on what follows. A key ends at
its colon (`Input.exists_atom?_key`). A value does not end with its line, since a plain scalar may
go on in the next one. It ends at a word in a column that does not belong to it
(`Input.atom?_value`).
-/

namespace Twisty.Yaml

/-! ### Words -/

section Words

variable {c : Char} {w rest text : List Char} {p : Place} {floor : ℕ}

/-- A character of a word is none of those that no word has. -/
theorem ne_of_isWordChar {d : Char} (h : isWordChar c = true) (hd : isWordChar d = false) :
    c ≠ d := by
  rintro rfl
  rw [h] at hd
  cases hd

/-- A character of a word is neither a space nor a tab. -/
theorem isWhite_of_isWordChar (h : isWordChar c = true) : isWhite c = false := by
  have hspace : c ≠ ' ' := ne_of_isWordChar h (by decide)
  have htab : c ≠ '\t' := ne_of_isWordChar h (by decide)
  simp [isWhite, hspace, htab]

/-- The place after a character of a word. -/
theorem step_of_isWordChar (h : isWordChar c = true) :
    p.step c = ⟨p.line, p.column + 1, .text⟩ := by
  have hbreak : c ≠ '\n' := ne_of_isWordChar h (by decide)
  simp [Place.step, hbreak, isWhite_of_isWordChar h]

/-- The place after a word. -/
theorem stepAll_of_isWord (h : IsWord w) :
    p.stepAll w = ⟨p.line, p.column + w.length, .text⟩ := by
  obtain ⟨hne, hchars⟩ := h
  induction w generalizing p with
  | nil => exact absurd rfl hne
  | cons c w ih =>
    obtain ⟨hc, hw⟩ := List.forall_mem_cons.1 hchars
    have hstep : p.stepAll (c :: w) = Place.stepAll ⟨p.line, p.column + 1, .text⟩ w := by
      rw [Place.stepAll, List.foldl_cons, step_of_isWordChar hc]
      rfl
    rw [hstep]
    cases w with
    | nil => rfl
    | cons d w =>
      rw [ih (List.cons_ne_nil d w) hw]
      simp only [List.length_cons, Place.mk.injEq, true_and, and_true]
      omega

/-- No scalar ends before a character of a word on its line. -/
theorem plainEnds_of_isWordChar (h : isWordChar c = true) :
    plainEnds false floor .empty p (c :: rest) = false := by
  have hcolon : c ≠ ':' := ne_of_isWordChar h (by decide)
  simp [plainEnds, hcolon, Fold.isEmpty, Fold.empty, Fold.isBroken]

/-- A plain scalar goes on over the characters of a word. -/
theorem plainFrom_append (h : ∀ c ∈ w, isWordChar c = true) :
    plainFrom false floor text .empty false (w ++ rest) p =
      plainFrom false floor (w.reverse ++ text) .empty false rest (p.stepAll w) := by
  induction w generalizing text p with
  | nil => rfl
  | cons c w ih =>
    obtain ⟨hc, hw⟩ := List.forall_mem_cons.1 h
    have hbreak : c ≠ '\n' := ne_of_isWordChar hc (by decide)
    have hcons : plainFrom false floor text .empty false (c :: (w ++ rest)) p =
        plainFrom false floor (c :: text) .empty false (w ++ rest) (p.step c) := by
      rw [plainFrom, if_neg hbreak, isWhite_of_isWordChar hc, plainEnds_of_isWordChar hc]
      rfl
    rw [List.cons_append, hcons, ih hw, List.reverse_cons, List.append_assoc]
    rfl

/-- A comment is passed over with its line. -/
theorem skipFrom_comment (h : ∀ c ∈ text, isCommentChar c = true) :
    skipFrom floor .comment (text ++ '\n' :: rest) p =
      skipFrom floor .blanks rest ⟨p.line + 1, 0, .indentation⟩ := by
  induction text generalizing p with
  | nil => simp [skipFrom, Place.step]
  | cons c text ih =>
    obtain ⟨hc, htext⟩ := List.forall_mem_cons.1 h
    have hbreak : c ≠ '\n' := by
      rintro rfl
      exact absurd hc (by decide)
    have hline : (p.step c).line = p.line := by
      rw [Place.step, if_neg hbreak]
      split <;> rfl
    rw [List.cons_append, skipFrom, if_neg hbreak, if_pos rfl, ih htext, hline]

/-- A word begins a token. -/
theorem skipFrom_of_isWordChar (h : isWordChar c = true) :
    skipFrom floor .blanks (c :: rest) p = some (c :: rest, p) := by
  have hbreak : c ≠ '\n' := ne_of_isWordChar h (by decide)
  have hspace : c ≠ ' ' := ne_of_isWordChar h (by decide)
  have htab : c ≠ '\t' := ne_of_isWordChar h (by decide)
  have hhash : c ≠ '#' := ne_of_isWordChar h (by decide)
  simp [skipFrom, hbreak, hspace, htab, hhash]

end Words

/-! ### Tokens that are words -/

namespace Input

/-- A word begins here. -/
def AtWord (i : Input) : Prop :=
  ∃ c r, i.rest = c :: r ∧ isWordChar c = true

section AtWord

variable {i : Input} (h : i.AtWord)

include h

/-- Only characters of a word begin one. -/
theorem at?_of_atWord {d : Char} (hd : isWordChar d = false) : i.at? d = false := by
  obtain ⟨c, r, hrest, hc⟩ := h
  simp [at?, hrest, ne_of_isWordChar hc hd]

/-- No indicator begins a word. -/
theorem atIndicator_of_atWord {d : Char} (hd : isWordChar d = false) : i.atIndicator d = false := by
  obtain ⟨c, r, hrest, hc⟩ := h
  simp [atIndicator, hrest, ne_of_isWordChar hc hd]

/-- A word is not the end of a document. -/
theorem atEnd_of_atWord : i.atEnd = false := by
  obtain ⟨c, r, hrest, hc⟩ := h
  have hdash : c ≠ '-' := ne_of_isWordChar hc (by decide)
  have hpoint : c ≠ '.' := ne_of_isWordChar hc (by decide)
  simp [atEnd, hrest, atMark, hdash, hpoint]

/-- There are no properties in front of a word. -/
theorem properties?_of_atWord (floor : ℕ) : i.properties? floor = some (.empty, i) := by
  obtain ⟨c, r, hrest, hc⟩ := h
  have hanchor : c ≠ '&' := ne_of_isWordChar hc (by decide)
  have htag : c ≠ '!' := ne_of_isWordChar hc (by decide)
  simp [properties?, atProperty, hrest, hanchor, htag]

/-- A word begins a plain scalar. -/
theorem atPlain_of_atWord : i.atPlain false = true := by
  obtain ⟨c, r, hrest, hc⟩ := h
  have hne : ∀ d, isWordChar d = false → c ≠ d := fun d => ne_of_isWordChar hc
  have hmark : isFlowMark c = false := by
    simp [isFlowMark, hne, isWordChar]
  simp [atPlain, hrest, hmark, hne, isWordChar]

/-- A word is read as a plain scalar. -/
theorem atom?_of_atWord (fuel floor : ℕ) :
    atom? (fuel + 1) 0 floor i = (i.plain? false floor).map fun (s, j) => (.plain s, j) := by
  have hflow : decide (0 ≠ 0) = false := rfl
  rw [atom?, at?_of_atWord h (by decide), at?_of_atWord h (by decide),
    at?_of_atWord h (by decide), at?_of_atWord h (by decide), at?_of_atWord h (by decide), hflow,
    atPlain_of_atWord h]
  cases i.plain? false floor with
  | none => rfl
  | some r => rfl

end AtWord

/-- The input after some of it was read. -/
def moved (i : Input) (rest : List Char) (place : Place) : Input :=
  { i with rest := rest, place := place }

section Moved

variable (i : Input) (rest rest' : List Char) (p p' : Place)

@[simp]
theorem moved_rest : (i.moved rest p).rest = rest :=
  rfl

@[simp]
theorem moved_line : (i.moved rest p).line = p.line :=
  rfl

@[simp]
theorem moved_column : (i.moved rest p).column = p.column :=
  rfl

@[simp]
theorem moved_moved : (i.moved rest p).moved rest' p' = i.moved rest' p' :=
  rfl

end Moved

/-- A word before more text begins a token. -/
theorem atWord_of_rest_eq {i : Input} {w rest : List Char} (hw : IsWord w)
    (h : i.rest = w ++ rest) : i.AtWord := by
  obtain ⟨hne, hchars⟩ := hw
  obtain ⟨c, r, rfl⟩ := List.exists_cons_of_ne_nil hne
  exact ⟨c, r ++ rest, h, hchars c List.mem_cons_self⟩

/-- A key ends at its colon, which is the next token. -/
theorem exists_atom?_key {i : Input} {key rest : List Char} (hkey : IsWord key)
    (hrest : i.rest = key ++ ':' :: ' ' :: rest) (fuel floor : ℕ) :
    ∃ j, atom? (fuel + 1) 0 floor i = some (.plain key, j) ∧ j.skip floor = some j ∧
      j.atColon false false = true ∧ j.rest = ':' :: ' ' :: rest ∧ j.line = i.line ∧
      j.column = i.column + key.length ∧ ∀ r p, j.moved r p = i.moved r p := by
  have hplain : plainFrom false floor [] .empty false i.rest i.place =
      some (key, ':' :: ' ' :: rest, ⟨i.line, i.column + key.length, .text⟩) := by
    rw [hrest, plainFrom_append hkey.chars, stepAll_of_isWord hkey, List.append_nil]
    simp [plainFrom, plainEnds, isWhite, atGap, line, column]
  refine ⟨i.moved (':' :: ' ' :: rest) ⟨i.line, i.column + key.length, .text⟩, ?_, ?_, rfl, rfl,
    rfl, rfl, fun _ _ => rfl⟩
  · rw [atom?_of_atWord (atWord_of_rest_eq hkey hrest), plain?, hplain]
    rfl
  · simp [skip, skipFrom]
    rfl

/-- A value ends with the text, or where the next line has no blanks in front, which puts it in a
column before the floor. -/
theorem atom?_value {i : Input} {value rest : List Char} (hvalue : IsWord value)
    (hrest : i.rest = value ++ '\n' :: rest) (hnext : atGap rest = false ∨ rest = [])
    (fuel : ℕ) {floor : ℕ} (hfloor : 0 < floor) :
    atom? (fuel + 1) 0 floor i =
      some (.plain value, i.moved rest ⟨i.line + 1, 0, .indentation⟩) := by
  have hplain : plainFrom false floor [] .empty false i.rest i.place =
      some (value, rest, ⟨i.line + 1, 0, .indentation⟩) := by
    rw [hrest, plainFrom_append hvalue.chars, stepAll_of_isWord hvalue, List.append_nil]
    -- The scalar would go on behind the line end, but column 0 is before the floor.
    cases rest with
    | nil => simp [plainFrom, Place.step, line]
    | cons c r =>
      obtain ⟨hwhite, hbreak⟩ : isWhite c = false ∧ c ≠ '\n' := by
        simpa [atGap] using hnext
      simp [plainFrom, Place.step, hbreak, hwhite, plainEnds, Fold.empty, Fold.addBreak,
        Fold.isBroken, hfloor, line]
  rw [atom?_of_atWord (atWord_of_rest_eq hvalue hrest), plain?, hplain]
  rfl

/-- A node that begins with a word has no properties. -/
theorem block?_of_atWord {i : Input} (h : i.AtWord) (ctx : Context) (hfloor : ctx.floor ≤ i.column)
    (fuel : ℕ) : block? (fuel + 1) ctx i = content? fuel ctx i.column .empty .empty i := by
  have hin : i.isIn ctx = true := by
    simp [isIn, atEnd_of_atWord h, hfloor]
  have hrest : i.rest ≠ [] := by
    obtain ⟨c, r, hrest, -⟩ := h
    rw [hrest]
    exact List.cons_ne_nil c r
  simp [block?, hin, properties?_of_atWord h, hrest]

/-- A node that begins with a word is a scalar, or a mapping if a colon follows, which may not be
too far behind. -/
theorem content?_of_atWord {i : Input} (h : i.AtWord) (ctx : Context) (column fuel : ℕ) :
    content? (fuel + 1) ctx column .empty .empty i = do
      let (a, j) ← atom? fuel 0 ctx.floor i
      let j ← j.skip ctx.floor
      if !ctx.inline ∧ j.line = i.line ∧ j.atColon false false then
        if column + keyLimit < j.column then none
        else
          let (entries, k) ← pair? fuel column [] (a.resolve .empty) j
          return (.mapping entries, k)
      else return (a.resolve .empty, j) := by
  rw [content?, atIndicator_of_atWord h (by decide), atIndicator_of_atWord h (by decide),
    at?_of_atWord h (by decide), at?_of_atWord h (by decide)]
  rfl

end Input

end Twisty.Yaml
