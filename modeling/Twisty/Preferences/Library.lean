import Twisty.Text.Numeral

/-!
# What libraries do for preferences

Preferences are loaded from sources of several kinds and saved as a text. Finding and reading a
file, reading the environment, merging sources, converting what they set and writing the text are
the business of libraries. `Library` is what is asked of them, over the values that they work with.
What the program does with the answers is in `Library.load` and `Library.save`.
-/

namespace Twisty

open Text

/-- What a source of settings sets: values for keys, in order. -/
abbrev Source (Value : Type) := List (List Char × Value)

/-- The value of a field that is saved. -/
inductive Field where
  | word (value : UInt16)
  | flag (value : Bool)
deriving DecidableEq

/-- The text of a field's value. -/
def Field.text : Field → List Char
  | word w => decimal w.toNat
  | flag true => "true".toList
  | flag false => "false".toList

/-- What libraries do, for values of some type. -/
structure Library (Value : Type) where
  /-- The text of the file that a path is meant for, among the texts of the files at paths. -/
  find? : (List Char → Option (List Char)) → List Char → Option (List Char)
  /-- What a text sets, if it is acceptable as a document. -/
  read? : List Char → Option (Source Value)
  /-- What the variables of an environment set whose names begin with a stem. -/
  environment : (stem : List Char) → List (List Char × List Char) → Source Value
  /-- What a key is set to by sources, of which the later ones win. -/
  setting? : List (Source Value) → List Char → Option Value
  /-- A value as a word of 16 bits. -/
  toWord? : Value → Option UInt16
  /-- A value as a truth value. -/
  toFlag? : Value → Option Bool
  /-- The text of a record of named fields. -/
  write : List (List Char × Field) → List Char

end Twisty
