import Twisty.Move.Basic
import Twisty.Move.Error

/-!
# Reading a move

A token is first taken apart (`Spelling.ofToken`): a run of digits, a face, an optional `w` and a
suffix make a counted turn, and anything else that does not begin with a digit is a base move of one
or two characters with its suffix. Then the parts are judged (`Spelling.resolve`), the stem before
the suffix, so that of two faults the one that stands first in the token is named. `Move.parse` does
both to the token without the blanks around it.
-/

namespace Twisty

open Text

/-- The parts of a token, before any of them is judged by the size of the puzzle. -/
inductive Spelling where
  /-- No characters. -/
  | empty
  /-- A layer count, the face it counts from, whether a wide turn is spelled, and the rest. -/
  | counted (digits : List Char) (face : Face) (wide : Bool) (suffix : List Char)
  /-- A digit first, but no counted turn. -/
  | countedOther
  /-- The one or two characters that name a base move, and the rest. -/
  | named (base suffix : List Char)
deriving DecidableEq

/-- The face that a letter of either case names, and whether the case makes its turn wide. -/
def Face.ofEitherLetter? (c : Char) : Option (Face × Bool) :=
  (Face.ofLetter? c).map (·, false) <|> (Face.ofWideLetter? c).map (·, true)

/-- The face after a layer count, whether its turn is wide, and the text after it. -/
def Spelling.face? : List Char → Option (Face × Bool × List Char)
  | c :: 'w' :: r => (Face.ofEitherLetter? c).map fun p => (p.1, true, r)
  | c :: r => (Face.ofEitherLetter? c).map fun p => (p.1, p.2, r)
  | [] => none

/-- The parts of a token that begins with a digit. The suffix of a counted turn is on one line. -/
def Spelling.ofCounted (token : List Char) : Spelling :=
  match face? (token.dropWhile Char.isDigit) with
  | some (face, wide, suffix) =>
    if '\n' ∈ suffix then .countedOther
    else .counted (token.takeWhile Char.isDigit) face wide suffix
  | none => .countedOther

/-- The parts of a token. -/
def Spelling.ofToken : List Char → Spelling
  | [] => .empty
  | c :: r =>
    if c.isDigit then ofCounted (c :: r)
    else
      match r with
      | 'w' :: s => .named [c, 'w'] s
      | s => .named [c] s

/-- The largest layer count that a message shows. -/
def maxShownCount : Nat :=
  UInt32.size - 1

/-- The modifier of a suffix, or the complaint about it. -/
def Modifier.ofSuffix (token suffix : List Char) : Except MoveError Modifier :=
  match Modifier.ofSuffix? suffix with
  | some m => .ok m
  | none => .error (.badModifier token suffix)

/-- The turn of a base move, or why the puzzle does not have it. -/
def MoveTable.turn (table : MoveTable) (token : List Char) (base : BaseMove) :
    Except MoveError Turn :=
  match table.find? base, base with
  | some turn, _ => .ok turn
  | none, .slice s => .error (.sliceOnEvenSize s table.size)
  | none, _ => .error (.unknownToken token)

/-- The move that the parts of `token` name on the puzzle of the table. -/
def Spelling.resolve (table : MoveTable) (token : List Char) : Spelling → Except MoveError Move
  | empty => .error .empty
  | countedOther => .error (.unknownNumericFace token)
  | counted digits face wide suffix =>
    -- The count is judged before the suffix, whatever the suffix is.
    let count := ofDecimal digits
    if 2 ≤ count ∧ count ≤ table.size.layers then do
      let modifier ← Modifier.ofSuffix token suffix
      return .ofTurn (.counted count face wide) (.ofFace table.size face count) modifier
    else
      .error (.layerCountOutOfRange token (min count maxShownCount) table.size)
  | named text suffix =>
    match BaseMove.parse text with
    | none => .error (.unknownToken token)
    | some base => do
      let turn ← table.turn token base
      let modifier ← Modifier.ofSuffix token suffix
      return .ofTurn (.base base) turn modifier

/-- The move that a token names on the puzzle of the table. -/
def Move.parse (table : MoveTable) (token : List Char) : Except MoveError Move :=
  (Spelling.ofToken (strip token)).resolve table (strip token)

end Twisty
