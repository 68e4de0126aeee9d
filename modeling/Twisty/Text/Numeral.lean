/-!
# Decimal numerals

`decimal` writes a number in ASCII digits without leading zeros, and `ofDecimal` is the value of a
run of digits, so that `ofDecimal (decimal n) = n`. `unsigned?` reads the numerals that the program
accepts for counts: an optional plus sign, then one or more digits, and nothing else.
-/

namespace Twisty.Text

/-- A number in decimal digits, without leading zeros. -/
def decimal (n : Nat) : List Char :=
  Nat.toDigits 10 n

/-- The value of a run of decimal digits. -/
def ofDecimal (digits : List Char) : Nat :=
  Nat.ofDigitChars 10 digits 0

/-- One or more decimal digits and nothing else. -/
def isDigits (s : List Char) : Bool :=
  !s.isEmpty && s.all Char.isDigit

/-- The text without its sign, if it begins with a plus sign. -/
def dropPlus : List Char → List Char
  | '+' :: r => r
  | s => s

/-- The value of an optional plus sign and one or more digits. -/
def unsigned? (s : List Char) : Option Nat :=
  if isDigits (dropPlus s) then some (ofDecimal (dropPlus s)) else none

/-- The value of an optional sign and one or more digits. -/
def signed? : List Char → Option Int
  | '-' :: r => if isDigits r then some (-(ofDecimal r : Int)) else none
  | s => (unsigned? s).map Int.ofNat

/-- Writing a number and reading it gives the number. -/
@[simp]
theorem ofDecimal_decimal (n : Nat) : ofDecimal (decimal n) = n :=
  Nat.ofDigitChars_toDigits (by decide) (by decide)

/-- Zeros in front of a numeral do not change its value. -/
theorem ofDecimal_replicate_zero_append (zeros : Nat) (digits : List Char) :
    ofDecimal (List.replicate zeros '0' ++ digits) = ofDecimal digits := by
  induction zeros with
  | zero => rfl
  | succ zeros ih => exact ih

/-- A written number consists of digits. -/
theorem isDigit_of_mem_decimal {n : Nat} {c : Char} (h : c ∈ decimal n) : c.isDigit = true :=
  Nat.isDigit_of_mem_toDigits (by decide) (by decide) h

/-- A written number has at least one digit. -/
theorem decimal_ne_nil (n : Nat) : decimal n ≠ [] := by
  simp [decimal]

/-- A written number is a run of digits. -/
@[simp]
theorem isDigits_decimal (n : Nat) : isDigits (decimal n) = true := by
  simp only [isDigits, Bool.and_eq_true, Bool.not_eq_true', List.isEmpty_eq_false_iff,
    List.all_eq_true]
  exact ⟨decimal_ne_nil n, fun _ h => isDigit_of_mem_decimal h⟩

/-- What is in a run of digits is a digit. -/
theorem isDigit_of_mem {digits : List Char} (h : isDigits digits = true) {c : Char}
    (hc : c ∈ digits) : c.isDigit = true := by
  simp only [isDigits, Bool.and_eq_true, List.all_eq_true] at h
  exact h.2 c hc

/-- A run of digits has no sign to drop. -/
theorem dropPlus_of_isDigits {s : List Char} (h : isDigits s = true) : dropPlus s = s := by
  cases s with
  | nil => rfl
  | cons c r =>
    have hc : c.isDigit = true := isDigit_of_mem h (List.mem_cons_self ..)
    unfold dropPlus
    split
    · next heq => cases heq; simp at hc
    · rfl

/-- A written number reads back. -/
@[simp]
theorem unsigned?_decimal (n : Nat) : unsigned? (decimal n) = some n := by
  simp [unsigned?, dropPlus_of_isDigits]

end Twisty.Text
