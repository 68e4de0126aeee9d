import Twisty.Text.Numeral

/-!
# Decimal fractions

A decimal fraction is `± m · 10^e` for a whole number `m` and an exponent `e`. `Decimal.parse` reads
the usual notation: an optional sign, digits with an optional point among or around them, and an
optional exponent after the letter `e`.
-/

namespace Twisty

open Text

/-- A decimal fraction. -/
structure Decimal where
  negative : Bool
  /-- All digits, read as a whole number. -/
  digits : Nat
  /-- The power of ten that the digits are to be multiplied by. -/
  exponent : Int
deriving DecidableEq, Inhabited

namespace Decimal

/-- A sign at the start of a text, and the rest. Without a sign a number is not negative. -/
def sign : List Char → Bool × List Char
  | '-' :: r => (true, r)
  | '+' :: r => (false, r)
  | s => (false, s)

/-- The exponent at the end of a number: nothing, or the letter `e` and a whole number. -/
def exponent? : List Char → Option Int
  | [] => some 0
  | c :: r => if c = 'e' ∨ c = 'E' then signed? r else none

/-- The digits after the point, if there is one, and the rest. -/
def fraction : List Char → List Char × List Char
  | '.' :: r => r.span Char.isDigit
  | s => ([], s)

/-- The decimal fraction that a text writes. It has at least one digit before or after the point. -/
def parse (s : List Char) : Option Decimal :=
  let (negative, s) := sign s
  let (whole, s) := s.span Char.isDigit
  let (part, s) := fraction s
  if (whole ++ part).isEmpty then none
  else (exponent? s).map fun e => ⟨negative, ofDecimal (whole ++ part), e - part.length⟩

end Decimal

end Twisty
