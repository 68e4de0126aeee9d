import Twisty.Number.Double
import Twisty.Yaml.Node

/-!
# Settings

A setting is the value that a source gives to a key, before anything is known of the type that it
should have. `Setting.toWord?` and `Setting.toFlag?` convert it. Both read the usual words for yes
and no in any case, and a number counts as yes unless it is zero. To a word, a fraction is rounded
to the nearest whole number, and a negative one counts as zero.
-/

namespace Twisty

open Text Yaml

/-- The value that a source gives to a key. -/
inductive Setting where
  | scalar (value : Scalar)
  /-- A sequence or a mapping, which no preference is made of. -/
  | collection
deriving DecidableEq

namespace Setting

/-- The setting that a value of a document gives. -/
def ofNode : Node → Setting
  | .scalar s => scalar s
  | _ => collection

/-- The words that stand for yes, and those that stand for no. -/
def ofWord? (s : List Char) : Option Bool :=
  if ["true", "on", "yes"].any (·.toList = s) then some true
  else if ["false", "off", "no"].any (·.toList = s) then some false
  else none

/-- A whole number as a word of 16 bits, if it fits. -/
def word? (i : Int) : Option UInt16 :=
  if 0 ≤ i ∧ i < UInt16.size then some i.toNat.toUInt16 else none

/-- The setting as a word of 16 bits. -/
def toWord? : Setting → Option UInt16
  | scalar (.flag b) => some (if b then 1 else 0)
  | scalar (.integer i) => word? i
  | scalar (.decimal s) =>
    (Decimal.parse s).bind fun d => if d.negative then some 0 else word? (Double.ofDecimal d).round
  | scalar (.text s) =>
    match ofWord? (s.map Char.toLower) with
    | some b => some (if b then 1 else 0)
    | none => (unsigned? s).bind fun n => word? n
  | _ => none

/-- The setting as a truth value. -/
def toFlag? : Setting → Option Bool
  | scalar (.flag b) => some b
  | scalar (.integer i) => some (i ≠ 0)
  | scalar (.decimal s) => (Decimal.parse s).map fun d => !(Double.ofDecimal d).isZero
  | scalar (.text s) =>
    match ofWord? (s.map Char.toLower) with
    | some b => some b
    | none => if s = ['1'] then some true else if s = ['0'] then some false else none
  | _ => none

end Setting

end Twisty
