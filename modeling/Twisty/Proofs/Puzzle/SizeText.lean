import Mathlib.Data.List.TakeWhile
import Mathlib.Data.Nat.Notation
import Twisty.Proofs.Notation.Canonical

/-!
# The texts of puzzle sizes

A size is written as a numeral, or as twice the same numeral around an `x` (`SizeText`). The two
numerals have to be the same text, so that `3x03` is no size. Since no numeral holds an `x`, the
first `x` of a text is where its halves meet (`PuzzleSize.numeral?_eq_some_iff`), and a text has one
value at most (`sizeText_iff`).

What is read depends on that value only (`PuzzleSize.parse_eq_iff`): a value of at least 2 that fits
a word of 16 bits is a size, 0 and 1 are refused as too small, and everything else is refused in the
words of the text itself.
-/

namespace Twisty

open Text

/-! ### Numerals -/

/-- A text is a numeral with a value: one or more digits, with or without a plus sign in front. -/
inductive Text.Numeral : List Char → ℕ → Prop where
  /-- Digits have their decimal value, with any zeros in front. -/
  | digits {ds : List Char} (h : isDigits ds = true) : Numeral ds (ofDecimal ds)
  /-- A plus sign does not change the value. -/
  | plus {ds : List Char} (h : isDigits ds = true) : Numeral ('+' :: ds) (ofDecimal ds)

/-- Numerals are read with their values, and nothing else is. -/
theorem Text.unsigned?_eq_some_iff {s : List Char} {v : ℕ} :
    unsigned? s = some v ↔ Numeral s v := by
  constructor
  · intro h
    obtain ⟨hdigits, hv⟩ := Option.ite_none_right_eq_some.1 h
    cases hv
    unfold dropPlus at hdigits ⊢
    split at hdigits
    · exact .plus hdigits
    · exact .digits hdigits
  · intro h
    cases h with
    | digits h => rw [unsigned?, dropPlus_of_isDigits h, if_pos h]
    | plus h => exact if_pos h

/-- A numeral holds a plus sign and digits only. -/
theorem Text.Numeral.eq_plus_or_isDigit {s : List Char} {v : ℕ} (h : Numeral s v) :
    ∀ c ∈ s, c = '+' ∨ c.isDigit = true := by
  intro c hc
  cases h with
  | digits h => exact .inr (isDigit_of_mem h hc)
  | plus h =>
    rcases List.mem_cons.1 hc with hc | hc
    · exact .inl hc
    · exact .inr (isDigit_of_mem h hc)

/-- There is no `x` in a numeral. -/
theorem Text.Numeral.x_not_mem {s : List Char} {v : ℕ} (h : Numeral s v) : 'x' ∉ s := by
  intro hx
  rcases h.eq_plus_or_isDigit 'x' hx with hplus | hdigit
  · cases hplus
  · cases hdigit

/-- What is written for a number is a numeral with that value. -/
theorem Text.numeral_decimal (n : ℕ) : Numeral (decimal n) n :=
  unsigned?_eq_some_iff.1 (unsigned?_decimal n)

/-! ### Layer counts -/

/-- A text gives a layer count: it is a numeral, or twice the same numeral around an `x`. -/
inductive SizeText : List Char → ℕ → Prop where
  /-- The layers along one axis, such as `4`. -/
  | single {numeral : List Char} {v : ℕ} (h : Numeral numeral v) : SizeText numeral v
  /-- The layers along two axes, such as `4x4`. -/
  | square {numeral : List Char} {v : ℕ} (h : Numeral numeral v) :
    SizeText (numeral ++ 'x' :: numeral) v

namespace PuzzleSize

/-- No character of a text without an `x` is one. -/
theorem decide_ne_x_of_not_mem {text : List Char} (h : 'x' ∉ text) :
    ∀ c ∈ text, decide (c ≠ 'x') = true := by
  intro c hc
  refine decide_eq_true fun hx => h ?_
  rwa [← hx]

/-- A text without an `x` is taken as a whole. -/
theorem numeral?_of_not_mem {text : List Char} (h : 'x' ∉ text) : numeral? text = some text := by
  rw [numeral?, List.dropWhile_eq_nil_iff.2 (decide_ne_x_of_not_mem h)]

/-- Any other text is cut at its first `x`, and the halves have to be equal. -/
theorem numeral?_append_cons {left : List Char} (h : 'x' ∉ left) (right : List Char) :
    numeral? (left ++ 'x' :: right) = if left = right then some right else none := by
  have hleft := decide_ne_x_of_not_mem h
  rw [numeral?, List.dropWhile_append_of_pos hleft, List.takeWhile_append_of_pos hleft]
  simp

/-- The numeral of a text is the text itself or its halves around the only `x`. -/
theorem numeral?_eq_some_iff {text numeral : List Char} :
    numeral? text = some numeral ↔
      'x' ∉ numeral ∧ (text = numeral ∨ text = numeral ++ 'x' :: numeral) := by
  constructor
  · intro h
    by_cases hx : 'x' ∈ text
    · obtain ⟨left, right, rfl, hleft⟩ := List.eq_append_cons_of_mem hx
      rw [numeral?_append_cons hleft] at h
      obtain ⟨rfl, hright⟩ := Option.ite_none_right_eq_some.1 h
      cases hright
      exact ⟨hleft, .inr rfl⟩
    · rw [numeral?_of_not_mem hx] at h
      cases h
      exact ⟨hx, .inl rfl⟩
  · rintro ⟨hx, rfl | rfl⟩
    · exact numeral?_of_not_mem hx
    · rw [numeral?_append_cons hx, if_pos rfl]

end PuzzleSize

/-- What is read of a text as a layer count is the value that the text gives. -/
theorem sizeText_iff {text : List Char} {v : ℕ} :
    SizeText text v ↔ (PuzzleSize.numeral? text).bind unsigned? = some v := by
  simp only [Option.bind_eq_some_iff, PuzzleSize.numeral?_eq_some_iff, unsigned?_eq_some_iff]
  constructor
  · intro h
    cases h with
    | single h => exact ⟨text, ⟨h.x_not_mem, .inl rfl⟩, h⟩
    | square h => exact ⟨_, ⟨h.x_not_mem, .inr rfl⟩, h⟩
  · rintro ⟨numeral, ⟨-, rfl | rfl⟩, h⟩
    · exact .single h
    · exact .square h

/-- A text gives one layer count at most. -/
theorem SizeText.unique {text : List Char} {v v' : ℕ} (h : SizeText text v)
    (h' : SizeText text v') : v = v' := by
  have heq := (sizeText_iff.1 h).symm.trans (sizeText_iff.1 h')
  exact Option.some.inj heq

/-- The canonical text of a size gives its layer count. -/
theorem PuzzleSize.sizeText_render (size : PuzzleSize) : SizeText size.render size.layers :=
  .square (numeral_decimal size.layers)

/-! ### Reading a size -/

/-- What a text without blanks around it is read as. -/
inductive SizeText.Reads (text : List Char) : Except SizeError PuzzleSize → Prop where
  /-- The text gives the layer count of a size. -/
  | size {size : PuzzleSize} (h : SizeText text size.layers) : Reads text (.ok size)
  /-- The text gives a layer count that is too small for a size. -/
  | tooSmall {count : UInt16} (h : SizeText text count.toNat) (hlt : count.toNat < 2) :
    Reads text (.error (.tooSmall count))
  /-- The text gives no layer count, or one that no word of 16 bits can hold. -/
  | malformed (h : ∀ v, SizeText text v → UInt16.size ≤ v) : Reads text (.error (.malformed text))

namespace PuzzleSize

/-- The text of a layer count is read as that count, if a word can hold it. -/
theorem parse_of_sizeText {text : List Char} {v : ℕ} (h : SizeText (strip text) v) :
    parse text =
      if v < UInt16.size then ofCount v.toUInt16 else .error (.malformed (strip text)) := by
  rw [parse, sizeText_iff.1 h]

/-- Any other text is refused as it stands. -/
theorem parse_of_not_sizeText {text : List Char} (h : ∀ v, ¬ SizeText (strip text) v) :
    parse text = .error (.malformed (strip text)) := by
  have hnone : (numeral? (strip text)).bind unsigned? = none :=
    Option.eq_none_iff_forall_ne_some.2 fun v hv => h v (sizeText_iff.2 hv)
  rw [parse, hnone]

/-- The text of a word is read as a size, or as too small for one. -/
theorem ofCount_reads {text : List Char} {count : UInt16} (h : SizeText text count.toNat) :
    SizeText.Reads text (ofCount count) := by
  unfold ofCount
  split
  · exact .size h
  · next hlt => exact .tooSmall h (Nat.lt_of_not_le hlt)

/-- A text is read as what it says without the blanks around it. -/
theorem parse_reads (text : List Char) : SizeText.Reads (strip text) (parse text) := by
  by_cases hex : ∃ v, SizeText (strip text) v
  · obtain ⟨v, hv⟩ := hex
    rw [parse_of_sizeText hv]
    split
    · next hlt =>
      refine ofCount_reads ?_
      rwa [Nat.toUInt16, UInt16.toNat_ofNat_of_lt' hlt]
    · next hge =>
      refine .malformed fun v' hv' => ?_
      rw [hv'.unique hv]
      exact Nat.le_of_not_lt hge
  · rw [not_exists] at hex
    rw [parse_of_not_sizeText hex]
    exact .malformed fun v hv => absurd hv (hex v)

/-- Nothing else is read than what a text says. -/
theorem parse_eq_iff {text : List Char} {r : Except SizeError PuzzleSize} :
    parse text = r ↔ SizeText.Reads (strip text) r := by
  constructor
  · rintro rfl
    exact parse_reads text
  · intro h
    cases h with
    | @size size h =>
      rw [parse_of_sizeText h, if_pos size.layers_lt]
      exact ofCount_eq_ok_iff.2 UInt16.ofNat_toNat.symm
    | @tooSmall count h hlt =>
      have hcount : count.toNat.toUInt16 = count := UInt16.ofNat_toNat
      rw [parse_of_sizeText h, if_pos count.toNat_lt, hcount, ofCount, dif_neg (by omega)]
    | malformed h =>
      by_cases hex : ∃ v, SizeText (strip text) v
      · obtain ⟨v, hv⟩ := hex
        rw [parse_of_sizeText hv, if_neg (Nat.not_lt.2 (h v hv))]
      · rw [not_exists] at hex
        exact parse_of_not_sizeText hex

/-- The sizes that a text gives. -/
theorem parse_eq_ok_iff {text : List Char} {size : PuzzleSize} :
    parse text = .ok size ↔ SizeText (strip text) size.layers := by
  rw [parse_eq_iff]
  constructor
  · rintro ⟨h⟩
    exact h
  · exact .size

/-- The texts that are refused as too small. -/
theorem parse_eq_tooSmall_iff {text : List Char} {count : UInt16} :
    parse text = .error (.tooSmall count) ↔
      SizeText (strip text) count.toNat ∧ count.toNat < 2 := by
  rw [parse_eq_iff]
  constructor
  · rintro (_ | ⟨h, hlt⟩)
    exact ⟨h, hlt⟩
  · rintro ⟨h, hlt⟩
    exact .tooSmall h hlt

/-- The texts that are refused as malformed. -/
theorem parse_eq_malformed_iff {text stripped : List Char} :
    parse text = .error (.malformed stripped) ↔
      stripped = strip text ∧ ∀ v, SizeText (strip text) v → 65535 < v := by
  rw [parse_eq_iff]
  constructor
  · rintro (_ | _ | h)
    exact ⟨rfl, h⟩
  · rintro ⟨rfl, h⟩
    exact .malformed h

/-- There is a size with as many layers for every number from 2 that fits a word. -/
theorem exists_layers_eq_iff {v : ℕ} : (∃ size : PuzzleSize, size.layers = v) ↔
    2 ≤ v ∧ v ≤ 65535 := by
  constructor
  · rintro ⟨size, rfl⟩
    exact ⟨size.two_le_layers, Nat.le_of_lt_succ size.layers_lt⟩
  · rintro ⟨hlow, hhigh⟩
    have hcount : v.toUInt16.toNat = v := UInt16.toNat_ofNat_of_lt' (Nat.lt_succ_of_le hhigh)
    exact ⟨⟨v.toUInt16, hcount.symm ▸ hlow⟩, hcount⟩

/-- There is no blank in the canonical text of a size. -/
theorem not_isBlank_of_mem_render (size : PuzzleSize) : ∀ c ∈ size.render, isBlank c = false := by
  have hdecimal : ∀ c ∈ decimal size.layers, isBlank c = false := fun c hc =>
    isBlank_of_isDigit (isDigit_of_mem_decimal hc)
  intro c hc
  rcases List.mem_append.1 hc with hc | hc
  · exact hdecimal c hc
  · rcases List.mem_cons.1 hc with rfl | hc
    · decide
    · exact hdecimal c hc

/-- The canonical text of a size reads back. -/
theorem parse_render (size : PuzzleSize) : parse size.render = .ok size := by
  rw [parse_eq_ok_iff, strip_eq_self size.not_isBlank_of_mem_render]
  exact size.sizeText_render

/-- A text gives a size exactly if it is the text of a value from 2 to 65535 with any blanks around
it, and it is refused as too small exactly if its value is 0 or 1. Every other text is refused as
malformed, in its own words without the blanks around it. The canonical text of a size gives that
size. -/
theorem size_texts_read_exactly :
    (∀ (text : List Char) (v : ℕ),
      ((∃ size, parse text = .ok size ∧ size.layers = v) ↔
        SizeText (strip text) v ∧ 2 ≤ v ∧ v ≤ 65535) ∧
      ((∃ count, parse text = .error (.tooSmall count) ∧ count.toNat = v) ↔
        SizeText (strip text) v ∧ v ≤ 1)) ∧
    (∀ text stripped : List Char, parse text = .error (.malformed stripped) ↔
      stripped = strip text ∧ ∀ v, SizeText (strip text) v → 65535 < v) ∧
    ∀ size : PuzzleSize, parse size.render = .ok size := by
  refine ⟨fun text v => ⟨?_, ?_⟩, fun text stripped => ?_, parse_render⟩
  · constructor
    · rintro ⟨size, h, rfl⟩
      exact ⟨parse_eq_ok_iff.1 h, exists_layers_eq_iff.1 ⟨size, rfl⟩⟩
    · rintro ⟨h, hbounds⟩
      obtain ⟨size, rfl⟩ := exists_layers_eq_iff.2 hbounds
      exact ⟨size, parse_eq_ok_iff.2 h, rfl⟩
  · constructor
    · rintro ⟨count, h, rfl⟩
      obtain ⟨htext, hlt⟩ := parse_eq_tooSmall_iff.1 h
      exact ⟨htext, Nat.le_of_lt_succ hlt⟩
    · rintro ⟨h, hle⟩
      have hcount : v.toUInt16.toNat = v :=
        UInt16.toNat_ofNat_of_lt' (Nat.lt_of_le_of_lt hle (by decide))
      rw [← hcount] at h hle
      exact ⟨v.toUInt16, parse_eq_tooSmall_iff.2 ⟨h, Nat.lt_succ_of_le hle⟩, hcount⟩
  · exact parse_eq_malformed_iff

/-- Zeros and a plus sign do no harm, but the halves have to be the same text. -/
example : parse " +04x+04\n".toList = .ok ⟨4, by decide⟩ ∧
    parse "4x04".toList = .error (.malformed "4x04".toList) :=
  ⟨rfl, rfl⟩

end PuzzleSize

end Twisty
