import Twisty.Text.Extending
import Twisty.Text.Printable

/-!
# Quoted text

`quoted` shows a text between double quotes in such a way that it stays on one line and that every
character can be told from its neighbours. The quote, the backslash and the common control
characters have escapes of two characters. All other characters that are not printable or that
extend the character before them are written by their code point in hexadecimal. The rest stands for
itself.
-/

namespace Twisty.Text

/-- The escape of a character by its code point, in lowercase hexadecimal without leading zeros. -/
def codePointEscape (c : Char) : List Char :=
  ['\\', 'u', '\x7b'] ++ Nat.toDigits 16 c.toNat ++ ['\x7d']

/-- The letter that follows the backslash in an escape of two characters. -/
def shortEscape? (c : Char) : Option Char :=
  if c = '\x00' then some '0'
  else if c = '\t' then some 't'
  else if c = '\r' then some 'r'
  else if c = '\n' then some 'n'
  else if c = '"' then some '"'
  else if c = '\\' then some '\\'
  else none

/-- A character as it stands between quotes. -/
def quotedChar (c : Char) : List Char :=
  match shortEscape? c with
  | some e => ['\\', e]
  | none => if isPrintable c && !isExtending c then [c] else codePointEscape c

/-- A text between double quotes. -/
def quoted (s : List Char) : List Char :=
  '"' :: s.flatMap quotedChar ++ ['"']

end Twisty.Text
