import Twisty.Text.Numeral

/-!
# JSON output

Values of JSON and their text over several lines, with two spaces of indentation for each level. An
empty list or object takes no line of its own. Numbers are given by their text.
-/

namespace Twisty.Text

/-- A value of JSON. -/
inductive Json where
  | null
  | number (text : List Char)
  | string (text : List Char)
  | list (items : List Json)
  | object (fields : List (List Char × Json))

namespace Json

/-- A whole number. -/
def ofNat (n : Nat) : Json :=
  number (decimal n)

/-- The escape of a control character: a letter, or four hexadecimal digits. -/
def escape (c : Char) : List Char :=
  if c = '"' then ['\\', '"']
  else if c = '\\' then ['\\', '\\']
  else if c = '\x08' then ['\\', 'b']
  else if c = '\t' then ['\\', 't']
  else if c = '\n' then ['\\', 'n']
  else if c = '\x0c' then ['\\', 'f']
  else if c = '\x0d' then ['\\', 'r']
  else if c.toNat < 32 then
    let digits := Nat.toDigits 16 c.toNat
    ['\\', 'u'] ++ List.replicate (4 - digits.length) '0' ++ digits
  else [c]

/-- A text between quotes. -/
def quote (s : List Char) : List Char :=
  '"' :: s.flatMap escape ++ ['"']

/-- A line break and the indentation of a level. -/
def newLine (level : Nat) : List Char :=
  '\n' :: List.replicate (2 * level) ' '

mutual

/-- The text of a value on a level of indentation. -/
def prettyAt (level : Nat) : Json → List Char
  | null => "null".toList
  | number s => s
  | string s => quote s
  | list [] => "[]".toList
  | list (j :: js) =>
    '[' :: newLine (level + 1) ++ prettyAt (level + 1) j ++ prettyItems (level + 1) js ++
      newLine level ++ [']']
  | object [] => ['\x7b', '\x7d']
  | object ((k, j) :: fs) =>
    '\x7b' :: newLine (level + 1) ++ quote k ++ ':' :: ' ' :: prettyAt (level + 1) j ++
      prettyFields (level + 1) fs ++ newLine level ++ ['\x7d']

/-- The text of the items of a list behind its first. -/
def prettyItems (level : Nat) : List Json → List Char
  | [] => []
  | j :: js => ',' :: newLine level ++ prettyAt level j ++ prettyItems level js

/-- The text of the fields of an object behind its first. -/
def prettyFields (level : Nat) : List (List Char × Json) → List Char
  | [] => []
  | (k, j) :: fs =>
    ',' :: newLine level ++ quote k ++ ':' :: ' ' :: prettyAt level j ++ prettyFields level fs

end

/-- The text of a value. -/
def pretty (j : Json) : List Char :=
  prettyAt 0 j

end Json

end Twisty.Text
