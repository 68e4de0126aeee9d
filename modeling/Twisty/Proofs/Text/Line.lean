import Mathlib.Data.Nat.Notation
import Mathlib.Tactic.SplitIfs
import Twisty.Text.Numeral
import Twisty.Text.Quoted

/-!
# Text that stays on its line

A text that is shown in the middle of other text must not end the line that it stands on, nor do
anything to the screen but show itself. `Text.InLine` says that it holds no control character and
neither the line separator nor the paragraph separator. Numbers are such texts, and so is what is
put together from such texts. Quoting makes one of any text at all (`Text.inLine_quoted`): a
character that is printable breaks no line, and every other character is written as an escape, which
is made of a backslash, letters, digits and braces.
-/

namespace Twisty.Text

/-- A control character, or the line separator or the paragraph separator. -/
def breaksLine (c : Char) : Bool :=
  isControl c || isLineSeparator c

/-- A text holds no control character and no line or paragraph separator. -/
def InLine (s : List Char) : Prop :=
  ∀ c ∈ s, breaksLine c = false

instance (s : List Char) : Decidable (InLine s) :=
  List.decidableBAll _ s

/-- Texts one after the other stay on the line if each of them does. -/
theorem inLine_append {s t : List Char} : InLine (s ++ t) ↔ InLine s ∧ InLine t :=
  List.forall_mem_append

/-- A character and a text after it stay on the line if both of them do. -/
theorem inLine_cons {c : Char} {s : List Char} :
    InLine (c :: s) ↔ breaksLine c = false ∧ InLine s :=
  List.forall_mem_cons

/-- Joined texts stay on the line if each of them does and what is between them does. -/
theorem inLine_intercalate {separator : List Char} (h : InLine separator) {ts : List (List Char)}
    (hts : ∀ t ∈ ts, InLine t) : InLine (separator.intercalate ts) := by
  induction ts with
  | nil => nofun
  | cons t ts ih =>
    obtain ⟨ht, hts⟩ := List.forall_mem_cons.1 hts
    -- What is between stands only before another text, so the last text is a case of its own.
    cases ts with
    | nil => rwa [List.intercalate_singleton]
    | cons u us =>
      rw [List.intercalate_cons_of_ne_nil (List.cons_ne_nil u us), inLine_append, inLine_append]
      exact ⟨⟨ht, h⟩, ih hts⟩

/-- A text that stays on the line holds no line feed. -/
theorem InLine.newline_not_mem {s : List Char} (h : InLine s) : '\n' ∉ s := fun hmem =>
  absurd (h '\n' hmem) (by decide)

/-! ### Numbers -/

/-- The digits of a number are digits of the base. -/
theorem exists_of_mem_toDigits {b n : ℕ} (hb : 1 < b) {c : Char} (h : c ∈ b.toDigits n) :
    ∃ d < b, c = d.digitChar := by
  induction n using Nat.strongRecOn with
  | ind n ih =>
    rw [Nat.toDigits_eq_if hb] at h
    split at h
    · next hlt => exact ⟨n, hlt, List.mem_singleton.1 h⟩
    · next hge =>
      rcases List.mem_append.1 h with h | h
      · exact ih (n / b) (Nat.div_lt_self (by omega) hb) h
      · exact ⟨n % b, Nat.mod_lt n (by omega), List.mem_singleton.1 h⟩

/-- Numbers up to the base 16 stay on the line. -/
theorem inLine_toDigits {b : ℕ} (hb : 1 < b) (hle : b ≤ 16) (n : ℕ) : InLine (b.toDigits n) := by
  have hdigit : ∀ d < 16, breaksLine d.digitChar = false := by decide
  intro c hc
  obtain ⟨d, hd, rfl⟩ := exists_of_mem_toDigits hb hc
  exact hdigit d (Nat.lt_of_lt_of_le hd hle)

/-- A number in decimal digits stays on the line. -/
theorem inLine_decimal (n : ℕ) : InLine (decimal n) :=
  inLine_toDigits (by decide) (by decide) n

/-! ### Quoted text -/

/-- A printable character breaks no line. -/
theorem not_breaksLine_of_isPrintable {c : Char} (h : isPrintable c = true) :
    breaksLine c = false := by
  rw [breaksLine, isControl_of_isPrintable h, isLineSeparator_of_isPrintable h]
  rfl

/-- The escape of a character by its code point stays on the line. -/
theorem inLine_codePointEscape (c : Char) : InLine (codePointEscape c) := by
  rw [codePointEscape, inLine_append, inLine_append]
  exact ⟨⟨by decide, inLine_toDigits (by decide) (by decide) c.toNat⟩, by decide⟩

/-- The escapes of two characters stay on the line. -/
theorem not_breaksLine_of_shortEscape? {c e : Char} (h : shortEscape? c = some e) :
    breaksLine e = false := by
  unfold shortEscape? at h
  split_ifs at h <;> cases h <;> decide

/-- Whatever the character is, what stands for it between quotes stays on the line. -/
theorem inLine_quotedChar (c : Char) : InLine (quotedChar c) := by
  unfold quotedChar
  split
  · next e he =>
    rw [inLine_cons, inLine_cons]
    exact ⟨by decide, not_breaksLine_of_shortEscape? he, nofun⟩
  · split
    · next h =>
      rw [Bool.and_eq_true] at h
      exact inLine_cons.2 ⟨not_breaksLine_of_isPrintable h.1, nofun⟩
    · exact inLine_codePointEscape c

/-- Whatever the text is, it stays on the line between quotes. -/
theorem inLine_quoted (s : List Char) : InLine (quoted s) := by
  have hchars : InLine (s.flatMap quotedChar) := by
    intro c hc
    obtain ⟨d, -, hc⟩ := List.mem_flatMap.1 hc
    exact inLine_quotedChar d c hc
  rw [quoted, inLine_append, inLine_cons]
  exact ⟨⟨by decide, hchars⟩, by decide⟩

end Twisty.Text
