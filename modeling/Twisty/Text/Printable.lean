import Twisty.Text.Unassigned

/-!
# Printable characters

A character is printable unless it is a control or format character, a private use or unassigned
code point, or a separator other than the plain space. Printable text therefore stays on one line:
`isControl_of_isPrintable` and `isLineSeparator_of_isPrintable` say that it holds neither a control
character nor a line or paragraph separator.
-/

namespace Twisty.Text

/-- Control characters are those of the category Cc. -/
def isControl (c : Char) : Bool :=
  inRanges [(0x0, 0x1f), (0x7f, 0x9f)] c

/-- The line separator and the paragraph separator. -/
def isLineSeparator (c : Char) : Bool :=
  inRanges [(0x2028, 0x2029)] c

/-- Separators other than the plain space: the categories Zs, Zl and Zp. -/
def isSeparator (c : Char) : Bool :=
  isLineSeparator c ||
    inRanges [(0xa0, 0xa0), (0x1680, 0x1680), (0x2000, 0x200a), (0x202f, 0x202f), (0x205f, 0x205f),
      (0x3000, 0x3000)] c

/-- The code points of the category Cf. -/
def formatRanges : Ranges :=
  [(0xad, 0xad), (0x600, 0x605), (0x61c, 0x61c), (0x6dd, 0x6dd), (0x70f, 0x70f), (0x890, 0x891),
    (0x8e2, 0x8e2), (0x180e, 0x180e), (0x200b, 0x200f), (0x202a, 0x202e), (0x2060, 0x2064),
    (0x2066, 0x206f), (0xfeff, 0xfeff), (0xfff9, 0xfffb), (0x110bd, 0x110bd), (0x110cd, 0x110cd),
    (0x13430, 0x1343f), (0x1bca0, 0x1bca3), (0x1d173, 0x1d17a), (0xe0001, 0xe0001),
    (0xe0020, 0xe007f)]

/-- Format characters are those of the category Cf. -/
def isFormat (c : Char) : Bool :=
  inRanges formatRanges c

/-- Private use characters are those of the category Co. -/
def isPrivateUse (c : Char) : Bool :=
  inRanges [(0xe000, 0xf8ff), (0xf0000, 0xffffd), (0x100000, 0x10fffd)] c

/-- A character is printable when it is of none of the categories Cc, Cf, Co, Cn, Zs, Zl and Zp, or
the plain space. -/
def isPrintable (c : Char) : Bool :=
  !(isControl c || isSeparator c || isFormat c || isPrivateUse c || isUnassigned c)

/-- A printable character is not a control character. -/
theorem isControl_of_isPrintable {c : Char} (h : isPrintable c = true) : isControl c = false := by
  cases hc : isControl c <;> simp_all [isPrintable]

/-- A printable character is neither the line separator nor the paragraph separator. -/
theorem isLineSeparator_of_isPrintable {c : Char} (h : isPrintable c = true) :
    isLineSeparator c = false := by
  cases hc : isLineSeparator c <;> simp_all [isPrintable, isSeparator]

end Twisty.Text
