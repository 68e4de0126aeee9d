/-!
# Text in columns

`padEnd` and `padStart` fill a text with spaces up to a width, and leave a longer text as it is.
-/

namespace Twisty.Text

/-- A text with spaces after it up to a width. -/
def padEnd (width : Nat) (s : List Char) : List Char :=
  s ++ List.replicate (width - s.length) ' '

/-- A text with spaces before it up to a width. -/
def padStart (width : Nat) (s : List Char) : List Char :=
  List.replicate (width - s.length) ' ' ++ s

end Twisty.Text
