import Twisty.Number.Decimal

/-!
# Values of a YAML document

A document is a tree of sequences and mappings over scalars. A plain scalar, one without quotes, is
resolved by its text: to nothing, to a truth value, to a whole number of 64 bits, to a decimal
fraction, or else to the text itself. A fraction is kept by its text, since that is how it is
spelled as a key.
-/

namespace Twisty.Yaml

open Text

/-- A value without parts. -/
inductive Scalar where
  | null
  | flag (value : Bool)
  /-- A whole number of 64 bits. -/
  | integer (value : Int)
  /-- A decimal fraction, by its text. -/
  | decimal (text : List Char)
  /-- Infinity, or what is not a number, by its text. -/
  | nonfinite (text : List Char)
  | text (text : List Char)
deriving DecidableEq, Inhabited

/-- A value of a document. The keys of a mapping are scalars. -/
inductive Node where
  | scalar (value : Scalar)
  | sequence (items : List Node)
  | mapping (entries : List (Scalar × Node))
deriving Inhabited

namespace Scalar

/-- Whole numbers have 64 bits, the sign included. -/
def int64? (i : Int) : Option Int :=
  if Int64.minValue.toInt ≤ i ∧ i ≤ Int64.maxValue.toInt then some i else none

/-- The value of a digit in a base of at most sixteen. -/
def digit? (base : Nat) (c : Char) : Option Nat :=
  let value :=
    if c.isDigit then some (c.toNat - '0'.toNat)
    else if 'a' ≤ c ∧ c ≤ 'f' then some (c.toNat - 'a'.toNat + 10)
    else if 'A' ≤ c ∧ c ≤ 'F' then some (c.toNat - 'A'.toNat + 10)
    else none
  value.filter (· < base)

/-- The value of a run of digits in a base, which begins with `value`. -/
def digits? (base : Nat) : (value : Nat) → List Char → Option Nat
  | value, [] => some value
  | value, c :: r => (digit? base c).bind fun d => digits? base (base * value + d) r

/-- The value of an optional sign and one or more digits in a base. -/
def radix? (base : Nat) (s : List Char) : Option Int :=
  let (negative, digits) := Decimal.sign s
  if digits.isEmpty then none
  else (digits? base 0 digits).map fun n => if negative then -(n : Int) else n

/-- The whole number that a plain scalar writes: in base sixteen after `0x`, in base eight after
`0o`, and otherwise in base ten, where a plus sign may come before the sign. -/
def integer? : List Char → Option Int
  | '0' :: 'x' :: r => (radix? 16 r).bind int64?
  | '0' :: 'o' :: r => (radix? 8 r).bind int64?
  | '+' :: r => (signed? r).bind int64?
  | s => (signed? s).bind int64?

/-- The texts of infinity and of what is not a number. -/
def isNonfinite (s : List Char) : Bool :=
  let unsigned := [".inf", ".Inf", ".INF"].map String.toList
  let unsignedNan := [".nan", ".NaN", ".NAN"].map String.toList
  (Decimal.sign s).2 ∈ unsigned || s ∈ unsignedNan

/-- The value of a plain scalar. -/
def ofPlain (s : List Char) : Scalar :=
  if s ∈ ["", "~", "null"].map String.toList then null
  else if s ∈ ["true", "True", "TRUE"].map String.toList then flag true
  else if s ∈ ["false", "False", "FALSE"].map String.toList then flag false
  else
    match integer? s with
    | some i => integer i
    | none =>
      if isNonfinite s then nonfinite s
      else if (Decimal.parse s).isSome then decimal s
      else text s

/-- The text of a scalar as a key, which nothing has none of. -/
def key? : Scalar → Option (List Char)
  | null => none
  | flag true => some "true".toList
  | flag false => some "false".toList
  | integer i => some (toString i).toList
  | decimal s | nonfinite s | text s => some s

end Scalar

mutual

/-- Whether every number among the values is finite. -/
def Node.isFinite : Node → Bool
  | .scalar (.nonfinite _) => false
  | .scalar _ => true
  | .sequence items => Node.areFinite items
  | .mapping entries => Node.entriesFinite entries

/-- Whether every number in a list of values is finite. -/
def Node.areFinite : List Node → Bool
  | [] => true
  | n :: ns => n.isFinite && Node.areFinite ns

/-- Whether every number among the values of a mapping is finite. -/
def Node.entriesFinite : List (Scalar × Node) → Bool
  | [] => true
  | (_, n) :: es => n.isFinite && Node.entriesFinite es

end

end Twisty.Yaml
