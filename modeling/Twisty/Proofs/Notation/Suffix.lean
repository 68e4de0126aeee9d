import Mathlib.Data.Nat.Notation
import Twisty.Proofs.Notation.Refusal

/-!
# One rule for suffixes, and the line end that breaks it

The turn of a face is spelled with a layer count in front of the face or without one. What stands
behind is a suffix of the same marks in both forms, so that both should accept it with the same
effect or refuse it in the same words. They do so for every text on one line
(`suffix_read_alike`): each form is its own spelling of a stem (`Face.exists_spelled_of_mem_texts`),
and once the stem names a turn, only the suffix is judged (`Move.parse_append`).

A line end breaks the rule. With a layer count, the text behind the face has to be on one line for
the token to be taken as a counted turn at all, so that the token is refused for its face, which is
there, and not for its suffix (`CountedText.newline_not_mem`).
-/

namespace Twisty

open Text

/-- The spellings of the turns of a face that need no layer count. -/
def Face.texts (f : Face) : List (List Char) :=
  [[f.letter], [f.letter, 'w'], [f.wideLetter]]

/-- Each of them spells a base move of the face, and a counted turn of the face if digits stand in
front. -/
theorem Face.exists_spelled_of_mem_texts {f : Face} {text : List Char} (h : text ∈ f.texts) :
    (∃ b : BaseMove, (b = .face f ∨ b = .wide f) ∧ (Stem.base b).Spelled text) ∧
      ∀ count, ∃ wide, (Stem.counted count f wide).Spelled (decimal count ++ text) := by
  rcases List.mem_cons.1 h with rfl | h
  · exact ⟨⟨.face f, .inl rfl, .named (.face f)⟩, fun count => ⟨_, .counted_decimal count f false false⟩⟩
  rcases List.mem_cons.1 h with rfl | h
  · exact ⟨⟨.wide f, .inr rfl, .named (.wide f)⟩, fun count => ⟨_, .counted_decimal count f false true⟩⟩
  · rw [List.mem_singleton.1 h]
    exact ⟨⟨.wide f, .inr rfl, .lowercase f⟩, fun count => ⟨_, .counted_decimal count f true false⟩⟩

/-- Every turn of a face is about its axis and clockwise, also where it turns the whole puzzle. -/
theorem exists_find?_of_face (size : PuzzleSize) {f : Face} {b : BaseMove}
    (h : b = .face f ∨ b = .wide f) : ∃ turn, (MoveTable.ofSize size).find? b = some turn ∧
      turn.axis = f.axis ∧ turn.direction = f.direction := by
  rcases h with rfl | rfl
  · exact ⟨_, MoveTable.find?_ofSize size (.face f), rfl, rfl⟩
  · exact ⟨_, MoveTable.find?_ofSize size (.wide f), Turn.ofWide_axis_direction size f⟩

/-- A counted turn is on one line. -/
theorem CountedText.newline_not_mem {text digits rest : List Char} {c : Char}
    (h : CountedText text digits c rest) : '\n' ∉ text := by
  obtain ⟨rfl, hdigits, hletter, hline⟩ := h
  intro hmem
  rcases List.mem_append.1 hmem with hmem | hmem
  · exact absurd (isDigit_of_mem hdigits hmem) (by decide)
  rcases List.mem_cons.1 hmem with rfl | hmem
  · exact absurd hletter (by decide)
  · exact hline hmem

/-- A text that begins with a digit and is not on one line is refused for its face, whatever its
face is. -/
theorem Move.parse_eq_error_of_newline {table : MoveTable} {c : Char} {rest : List Char}
    (hc : c.isDigit = true) (hline : '\n' ∈ c :: rest) (hstrip : strip (c :: rest) = c :: rest) :
    parse table (c :: rest) = .error (.unknownNumericFace (c :: rest)) := by
  have hother : Spelling.ofToken (c :: rest) = .countedOther :=
    Spelling.ofToken_eq_countedOther hc fun _ _ _ htext => htext.newline_not_mem hline
  rw [parse, hstrip, hother]
  rfl

/-- A face with a layer count and the same face without one treat the text behind them alike, as
long as it is on one line: either both accept it as the same modifier and turn about the same axis
and the same way, or both refuse exactly that text. If there is a line end in it, the form without a
layer count still refuses that text, but the form with one is refused for its face. -/
theorem suffix_read_alike {size : PuzzleSize} {count : ℕ} (two_le : 2 ≤ count)
    (le_layers : count ≤ size.layers) {f : Face} {base suffix : List Char} (hbase : base ∈ f.texts)
    (hw : suffix.head? ≠ some 'w') (hblank : ∀ c ∈ suffix.getLast?, isBlank c = false) :
    let n := Notation.ofSize size
    let counted := decimal count ++ base ++ suffix
    let plain := base ++ suffix
    ('\n' ∉ suffix →
      (∃ m m', n.move counted = .ok m ∧ n.move plain = .ok m' ∧ m.modifier = m'.modifier ∧
        m.axis = m'.axis ∧ m.direction = m'.direction) ∨
      (n.move counted = .error (.badModifier counted suffix) ∧
        n.move plain = .error (.badModifier plain suffix))) ∧
    ('\n' ∈ suffix → n.move counted = .error (.unknownNumericFace counted) ∧
      n.move plain = .error (.badModifier plain suffix)) := by
  intro n counted plain
  obtain ⟨⟨b, hb, hspelled⟩, hcounted⟩ := Face.exists_spelled_of_mem_texts hbase
  obtain ⟨wide, hspelled'⟩ := hcounted count
  obtain ⟨turn, hturn, haxis, hdirection⟩ := exists_find?_of_face size hb
  have hturn' : (Stem.counted count f wide).turn? (.ofSize size) = some (.ofFace size f count) :=
    Stem.turn?_counted_eq_some_iff.2 ⟨⟨two_le, le_layers⟩, rfl⟩
  -- Without a layer count, the suffix is all that can be wrong, be it on one line or not.
  have hplain : n.move plain =
      (Modifier.ofSuffix plain suffix).map (Move.ofTurn (.base b) turn) :=
    Move.parse_append hspelled hturn hw (.inl ⟨b, rfl⟩) hblank
  refine ⟨fun hline => ?_, fun hline => ?_⟩
  · have hmove : n.move counted = (Modifier.ofSuffix counted suffix).map
        (Move.ofTurn (.counted count f wide) (.ofFace size f count)) :=
      Move.parse_append hspelled' hturn' hw (.inr hline) hblank
    rw [hplain, hmove]
    unfold Modifier.ofSuffix
    cases Modifier.ofSuffix? suffix with
    | none => exact .inr ⟨rfl, rfl⟩
    | some modifier =>
      refine .inl ⟨_, _, rfl, rfl, rfl, haxis.symm, ?_⟩
      show modifier.apply f.direction = modifier.apply turn.direction
      rw [hdirection]
  · have hsuffix : Modifier.ofSuffix? suffix = none :=
      Modifier.ofSuffix?_eq_none_iff.2 ⟨'\n', hline, by decide, by decide⟩
    refine ⟨?_, ?_⟩
    · obtain ⟨d, ds, hdigits⟩ := List.exists_cons_of_ne_nil (decimal_ne_nil count)
      have hd : d.isDigit = true := isDigit_of_mem_decimal (n := count) (by simp [hdigits])
      have htext : counted = d :: (ds ++ base ++ suffix) := by
        simp [counted, hdigits]
      have hstrip : strip counted = counted := hspelled'.strip_append hblank
      rw [htext] at hstrip ⊢
      exact Move.parse_eq_error_of_newline hd (by simp [hline]) hstrip
    · rw [hplain, Modifier.ofSuffix, hsuffix]
      rfl

/-- On a puzzle of size 4, the marks `'2` make half a turn behind `4Rw` and behind `Rw`, and a blank
before a mark is refused behind both. With a line end between the two marks, `4Rw` is refused for
its face. -/
theorem suffix_read_alike_behind_rw :
    let n := Notation.ofSize ⟨4, by decide⟩
    (∃ m m', n.move "4Rw'2".toList = .ok m ∧ n.move "Rw'2".toList = .ok m' ∧
      m.modifier = m'.modifier ∧ m.axis = m'.axis ∧ m.direction = m'.direction) ∧
    n.move "4Rw '".toList = .error (.badModifier "4Rw '".toList " '".toList) ∧
    n.move "Rw '".toList = .error (.badModifier "Rw '".toList " '".toList) ∧
    n.move "4Rw'\n2".toList = .error (.unknownNumericFace "4Rw'\n2".toList) ∧
    n.move "Rw'\n2".toList = .error (.badModifier "Rw'\n2".toList "'\n2".toList) := by
  intro n
  have hsize : 2 ≤ 4 ∧ 4 ≤ PuzzleSize.layers ⟨4, by decide⟩ := by decide
  have hbase : "Rw".toList ∈ Face.right.texts := by decide
  -- None of the three suffixes begins with a `w` or ends in a blank.
  have hmarks : isBlank '2' = false ∧ isBlank '\'' = false := by decide
  have hread : ∀ suffix ∈ ["'2".toList, " '".toList, "'\n2".toList],
      suffix.head? ≠ some 'w' ∧ ∀ c ∈ suffix.getLast?, isBlank c = false := by
    simp [hmarks]
  have hrule := fun suffix h =>
    suffix_read_alike hsize.1 hsize.2 hbase (hread suffix h).1 (hread suffix h).2
  have hgood := (hrule "'2".toList (by decide)).1 (by decide)
  have hbad := (hrule " '".toList (by decide)).1 (by decide)
  have hline := (hrule "'\n2".toList (by decide)).2 (by decide)
  have haccepted : (n.move "4Rw'2".toList).isOk = true := by decide
  have hrefused : (n.move "4Rw '".toList).isOk = false := by decide
  refine ⟨?_, ?_⟩
  · rcases hgood with hgood | ⟨h, -⟩
    · exact hgood
    · change n.move "4Rw'2".toList = _ at h
      rw [h] at haccepted
      cases haccepted
  · rcases hbad with ⟨m, m', h, -⟩ | hbad
    · change n.move "4Rw '".toList = _ at h
      rw [h] at hrefused
      cases hrefused
    · exact ⟨hbad.1, hbad.2, hline.1, hline.2⟩

/-- The rule for suffixes fails on the smallest puzzle: behind `2R` and `R` stand a prime, a line
end and a `2`, and only `R` is refused for them. -/
theorem suffix_not_read_alike_behind_line_end :
    let n := Notation.ofSize .two
    let suffix := "'\n2".toList
    ¬ ((∃ m m', n.move ("2R".toList ++ suffix) = .ok m ∧ n.move ("R".toList ++ suffix) = .ok m' ∧
          m.modifier = m'.modifier ∧ m.axis = m'.axis ∧ m.direction = m'.direction) ∨
        (n.move ("2R".toList ++ suffix) = .error (.badModifier ("2R".toList ++ suffix) suffix) ∧
          n.move ("R".toList ++ suffix) = .error (.badModifier ("R".toList ++ suffix) suffix))) := by
  intro n suffix
  have hcounted : n.move ("2R".toList ++ suffix) =
      .error (.unknownNumericFace ("2R".toList ++ suffix)) := by rfl
  rw [hcounted]
  rintro (⟨m, m', h, -⟩ | ⟨h, -⟩)
  · cases h
  · cases h

end Twisty
