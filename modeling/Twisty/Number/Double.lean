import Twisty.Number.Decimal

/-!
# Decimal fractions in double precision

Decimal fractions are kept as the nearest number with a significand of 53 bits and an exponent of at
least -1074, an even significand being preferred of two that are equally near. Only magnitudes are
kept here. `Double.ofRatio` rounds a quotient in this way, exactly and for all quotients, and
`Double.round` gives the nearest whole number, halves going away from zero.
-/

namespace Twisty

/-- The magnitude `significand · 2^exponent`. -/
structure Double where
  significand : Nat
  exponent : Int
deriving DecidableEq, Inhabited

namespace Double

/-- The quotient, rounded to the nearest whole number, and of two equally near to the even one. -/
def divEven (num den : Nat) : Nat :=
  let q := num / den
  let r := num % den
  if 2 * r < den then q
  else if den < 2 * r then q + 1
  else if q % 2 = 0 then q
  else q + 1

/-- The numerator and denominator of a quotient divided by `2^e`. -/
def scaled (num den : Nat) (e : Int) : Nat × Nat :=
  (num <<< (-e).toNat, den <<< e.toNat)

/-- The exponent of the leading bit of a positive quotient. -/
def leadingBit (num den : Nat) : Int :=
  let e : Int := num.log2 - den.log2
  let (n, d) := scaled num den e
  if n < d then e - 1 else e

/-- The least exponent of the format. -/
def minExponent : Int :=
  -1074

/-- The nearest number of the format to a quotient. -/
def ofRatio (num den : Nat) : Double :=
  if num = 0 then ⟨0, minExponent⟩
  else
    -- The leading bit is the 53rd, unless that asks for an exponent below the least.
    let e := max (leadingBit num den - 52) minExponent
    let (n, d) := scaled num den e
    ⟨divEven n d, e⟩

/-- A bound on exponents of ten beyond which all numbers with as many digits round alike. -/
def clampExponent (digits : Nat) (e : Int) : Int :=
  let size : Int := (Nat.toDigits 10 digits).length
  max (-(size + 400)) (min 400 e)

/-- The nearest number of the format to the magnitude of a decimal fraction. -/
def ofDecimal (d : Decimal) : Double :=
  let e := clampExponent d.digits d.exponent
  ofRatio (d.digits * Nat.pow 10 e.toNat) (Nat.pow 10 (-e).toNat)

/-- Whether the number is zero. -/
def isZero (x : Double) : Bool :=
  x.significand = 0

/-- The nearest whole number, of two equally near the one further from zero. -/
def round (x : Double) : Nat :=
  let (n, d) := scaled x.significand 1 (-x.exponent)
  (2 * n + d) / (2 * d)

end Double

end Twisty
