import Twisty.Notation

/-!
# Questions to a notation

The operations of a notation as data (`Query`), with the answers they have (`Reply`). A session puts
its questions one after the other (`Notation.converse`), and only a change of size changes what
later questions are answered with.
-/

namespace Twisty

open Text

/-- An operation of a notation. -/
inductive Query where
  /-- The move that a token names, or its error. -/
  | tryMove (token : List Char)
  /-- The move that a token names, if any. -/
  | move (token : List Char)
  /-- The moves of an algorithm. -/
  | algorithm (text : List Char)
  /-- The moves of an algorithm, or its errors. -/
  | algorithmStrict (text : List Char)
  /-- The canonical notation of the moves of an algorithm. -/
  | names (text : List Char)
  /-- The inverse of a token. -/
  | invert (token : List Char)
  /-- The inverse of an algorithm. -/
  | invertAlgorithm (text : List Char)
  /-- The rotations of the move that a token names. -/
  | expand (token : List Char)
  /-- The move table. -/
  | table
  /-- The turn of a base move. -/
  | lookup (base : List Char)
  /-- A change of size. -/
  | setSize (count : UInt16)
deriving DecidableEq

/-- The answer to an operation of a notation or of a sequencer. -/
inductive Reply where
  | nothing
  | move (move : Move)
  | moves (moves : List Move)
  | names (names : List (List Char))
  | text (text : List Char)
  | rotations (rotations : List Rotation)
  | positions (positions : List Nat)
  | count (count : Nat)
  | table (table : MoveTable)
  | turn (turn? : Option Turn)
  | rebuilt (rebuilt : Bool)
  | notBaseMove
  | refused (error : MoveError)
  | refusedAll (errors : List MoveError)
  | sizeRefused (error : SizeError)
deriving DecidableEq

namespace Notation

/-- The answer to a question, and the notation after it. -/
def answer (n : Notation) : Query → Logged (Reply × Notation)
  | .tryMove token =>
    match n.move token with
    | .ok m => ⟨(.move m, n), []⟩
    | .error e => ⟨(.refused e, n), []⟩
  | .move token =>
    match n.move? token with
    | ⟨some m, records⟩ => ⟨(.move m, n), records⟩
    | ⟨none, records⟩ => ⟨(.nothing, n), records⟩
  | .algorithm text => ⟨(.moves (n.algorithm text).value, n), (n.algorithm text).records⟩
  | .algorithmStrict text =>
    match n.algorithmStrict text with
    | .ok ms => ⟨(.moves ms, n), []⟩
    | .error es => ⟨(.refusedAll es, n), []⟩
  | .names text =>
    ⟨(.names ((n.algorithm text).value.map Move.render), n), (n.algorithm text).records⟩
  | .invert token => ⟨(.text (n.invert token).value, n), (n.invert token).records⟩
  | .invertAlgorithm text =>
    ⟨(.text (n.invertAlgorithm text).value, n), (n.invertAlgorithm text).records⟩
  | .expand token =>
    match n.move token with
    | .ok m => ⟨(.rotations m.expand, n), []⟩
    | .error e => ⟨(.refused e, n), []⟩
  | .table => ⟨(.table n.table, n), []⟩
  | .lookup base =>
    match BaseMove.parse base with
    | some b => ⟨(.turn (n.table.find? b), n), []⟩
    | none => ⟨(.notBaseMove, n), []⟩
  | .setSize count =>
    match PuzzleSize.ofCount count with
    | .ok size =>
      let changed := n.setSize size
      ⟨(.rebuilt changed.value.2, changed.value.1), changed.records⟩
    | .error e => ⟨(.sizeRefused e, n), []⟩

/-- The notation after a question. -/
def after (n : Notation) (q : Query) : Notation :=
  (n.answer q).value.2

/-- The answers to questions put one after the other, each with the notation after it. -/
def converse (n : Notation) : List Query → List (Logged (Reply × Notation))
  | [] => []
  | q :: qs => n.answer q :: (n.after q).converse qs

end Notation

end Twisty
