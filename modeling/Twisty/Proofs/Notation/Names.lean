import Twisty.Proofs.Notation.Refusal

/-!
# The names of base moves

A base move is named by its canonical text, and the wide turn of a face by the lowercase letter of
the face as well (`BaseMove.Named`). These names are read, each as the base move that it names, and
every other text is refused (`BaseMove.names_read_exactly`).

A wide turn in lowercase is found by a change of case within ASCII (`Face.eq_wideLetter_iff`), so
that no letter from elsewhere can stand for it. Together the names are a short list of texts
(`baseTexts`), and it is seen on that list that whole kinds of texts are refused
(`BaseMove.Misnamed.parse_eq_none`). Since reading gives one base move at most, no text names two of
them (`BaseMove.Named.unique`).
-/

namespace Twisty

/-- A lowercase letter is as far from its uppercase form as `a` is from `A`. -/
theorem val_toUpper_of_isLower {c : Char} (hc : c.isLower = true) :
    c.toUpper.val = c.val + ('A'.val - 'a'.val) := by
  obtain ⟨ha, hz⟩ := Bool.and_eq_true_iff.1 hc
  have hbounds : 'a'.val ≤ c.val ∧ c.val ≤ 'z'.val :=
    ⟨of_decide_eq_true ha, of_decide_eq_true hz⟩
  have hupper : c.toUpper = _ := dif_pos hbounds
  rw [hupper]

/-- Two lowercase letters with one uppercase form are the same letter. -/
theorem eq_of_isLower_of_toUpper_eq {c d : Char} (hc : c.isLower = true) (hd : d.isLower = true)
    (h : c.toUpper = d.toUpper) : c = d := by
  have hval : c.val + ('A'.val - 'a'.val) = d.val + ('A'.val - 'a'.val) := by
    rw [← val_toUpper_of_isLower hc, ← val_toUpper_of_isLower hd, h]
  exact Char.ext ((UInt32.add_left_inj _).1 hval)

/-- The lowercase letter of a face is the only lowercase letter of ASCII that has the letter of the
face for its uppercase form. -/
theorem Face.eq_wideLetter_iff {c : Char} {f : Face} :
    c = f.wideLetter ↔ c.isLower = true ∧ c.toUpper = f.letter := by
  have hface : f.wideLetter.isLower = true ∧ f.wideLetter.toUpper = f.letter :=
    ⟨f.isLower_letterAs true, f.toUpper_letterAs true⟩
  constructor
  · rintro rfl
    exact hface
  · rintro ⟨hlower, hupper⟩
    exact eq_of_isLower_of_toUpper_eq hlower hface.1 (hupper.trans hface.2.symm)

namespace BaseMove

/-- A text names a base move. -/
inductive Named : List Char → BaseMove → Prop where
  /-- Every base move has its canonical text. -/
  | canonical (b : BaseMove) : Named b.render b
  /-- A lowercase letter of ASCII names the wide turn of the face whose letter it is in
  uppercase. -/
  | lowercase {c : Char} {f : Face} (hlower : c.isLower = true) (hupper : c.toUpper = f.letter) :
      Named [c] (.wide f)

/-- Some kinds of texts that name no base move. -/
inductive Misnamed : List Char → Prop where
  /-- There is no character. -/
  | empty : Misnamed []
  /-- There are more than two characters. -/
  | long {text : List Char} (h : 2 < text.length) : Misnamed text
  /-- A `w` is behind a lowercase letter, which is wide without it. -/
  | wide {c : Char} (hc : c.isLower = true) : Misnamed [c, 'w']
  /-- The letter of a rotation is in uppercase. -/
  | rotation {c : Char} (hc : c ∈ rotationLetters) : Misnamed [c.toUpper]
  /-- A character is not in ASCII, whatever letter it becomes in another case. -/
  | foreign {text : List Char} {c : Char} (hc : c ∈ text) (h : 127 < c.toNat) : Misnamed text

/-- The names of a base move are read as that base move, and nothing else is. -/
theorem parse_eq_some_iff_named {text : List Char} {b : BaseMove} :
    parse text = some b ↔ Named text b := by
  rw [parse_eq_some_iff]
  constructor
  · rintro (rfl | ⟨f, rfl, rfl⟩)
    · exact .canonical b
    · obtain ⟨hlower, hupper⟩ := Face.eq_wideLetter_iff.1 (Eq.refl f.wideLetter)
      exact .lowercase hlower hupper
  · intro h
    cases h with
    | canonical => exact .inl rfl
    | @lowercase c f hlower hupper =>
      rw [Face.eq_wideLetter_iff.2 ⟨hlower, hupper⟩]
      exact .inr ⟨f, rfl, rfl⟩

/-- No text names two base moves. -/
theorem Named.unique {text : List Char} {b b' : BaseMove} (h : Named text b)
    (h' : Named text b') : b = b' := by
  have hread := parse_eq_some_iff_named.2 h
  rw [parse_eq_some_iff_named.2 h'] at hread
  exact (Option.some.inj hread).symm

/-- Different base moves have different canonical texts. -/
theorem render_injective : Function.Injective render := by
  intro b b' h
  have hnamed := Named.canonical b
  rw [h] at hnamed
  exact hnamed.unique (.canonical b')

/-- What is refused is a text that names no base move. -/
theorem parse_eq_none_iff {text : List Char} : parse text = none ↔ ∀ b, ¬ Named text b := by
  simp only [Option.eq_none_iff_forall_ne_some, ne_eq, parse_eq_some_iff_named]

/-- Texts of these kinds are refused, since none of them is on the list. -/
theorem Misnamed.parse_eq_none {text : List Char} (h : Misnamed text) : parse text = none := by
  have hrefused : text ∉ baseTexts := by
    intro hmem
    cases h with
    | empty => exact absurd hmem (by decide)
    | long h =>
      have hlength : ∀ s ∈ baseTexts, s.length ≤ 2 := by decide
      exact absurd h (Nat.not_lt.2 (hlength text hmem))
    | @wide c hc =>
      have hface : c ∈ faceLetters := by simpa [baseTexts] using hmem
      obtain ⟨f, rfl⟩ := mem_faceLetters_iff.1 hface
      rw [show f.letter.isLower = false from f.isLower_letterAs false] at hc
      cases hc
    | @rotation c hc =>
      obtain ⟨a, rfl⟩ := mem_rotationLetters_iff.1 hc
      cases a <;> exact absurd hmem (by decide)
    | @foreign _ c hc h =>
      have hascii : ∀ s ∈ baseTexts, (s.all fun c => decide (c.toNat ≤ 127)) = true := by decide
      have hle : c.toNat ≤ 127 := of_decide_eq_true (List.all_eq_true.1 (hascii text hmem) c hc)
      exact absurd h (Nat.not_lt.2 hle)
  rwa [mem_baseTexts_iff, not_exists, ← Option.eq_none_iff_forall_ne_some] at hrefused

/-- A text is read as a base move exactly if it names that base move: it is the canonical text of
the base move, or the lowercase letter of a face whose wide turn the base move is. Every other text
is refused, and among them are the empty text, all texts of more than two characters, a lowercase
letter with a `w` behind it, the uppercase letters of the rotations, and all texts with a character
from beyond ASCII. Different base moves have different canonical texts, and no text names two of
them. -/
theorem names_read_exactly :
    (∀ (text : List Char) (b : BaseMove), parse text = some b ↔ Named text b) ∧
    (∀ text : List Char, parse text = none ↔ ∀ b, ¬ Named text b) ∧
    (∀ text : List Char, Misnamed text → parse text = none) ∧
    (∀ b b' : BaseMove, b ≠ b' → b.render ≠ b'.render) ∧
    ∀ (text : List Char) (b b' : BaseMove), Named text b → Named text b' → b = b' :=
  ⟨fun _ _ => parse_eq_some_iff_named, fun _ => parse_eq_none_iff,
    fun _ h => h.parse_eq_none, fun _ _ => render_injective.ne, fun _ _ _ h h' => h.unique h'⟩

/-- `r` and `Rw` are read as the wide turn of R, and `Rw` does not name the turn of the face, whose
canonical text is another one. A `w` behind the `r`, the letter `X` and a long s, whose uppercase
form in Unicode is the letter of a slice, are refused. -/
theorem names_read_exactly_around_r :
    parse ['r'] = some (.wide .right) ∧ parse ['R', 'w'] = some (.wide .right) ∧
      ¬ Named ['R', 'w'] (.face .right) ∧ render (.wide .right) ≠ render (.face .right) ∧
      parse ['r', 'w'] = none ∧ parse ['X'] = none ∧ parse ['\u017f'] = none := by
  obtain ⟨hread, -, hrefused, hrender, hunique⟩ := names_read_exactly
  have hwide : BaseMove.wide .right ≠ .face .right := by decide
  have hletter : Named ['r'] (.wide .right) := .lowercase (by decide) (by decide)
  have htext : Named ['R', 'w'] (.wide .right) := .canonical (.wide .right)
  have hx : 'x' ∈ rotationLetters := by decide
  refine ⟨(hread _ _).2 hletter, (hread _ _).2 htext, fun h => hwide (hunique _ _ _ htext h),
    hrender _ _ hwide, ?_, ?_, ?_⟩
  · exact hrefused _ (.wide (by decide))
  · exact hrefused _ (.rotation hx)
  · exact hrefused _ (.foreign (List.mem_singleton_self _) (by decide))

end BaseMove

end Twisty
