import Twisty.Log
import Twisty.Move.Parser

/-!
# Notation of a puzzle

A `Notation` reads moves and algorithms for a puzzle whose size may change. It keeps the move table
of the current size, and `setSize` builds the table anew when the size differs.

An algorithm is a text of words. Reading it leniently (`algorithm`) skips the words that are not
moves and reports each, and reading it strictly (`algorithmStrict`) gives either all moves or all
errors and reports nothing. `invertAlgorithm` writes the inverse of an algorithm. It takes the words
from the last to the first, and so are the words reported that it leaves out.
-/

namespace Twisty

open Text

/-- The moves that a puzzle understands. -/
structure Notation where
  /-- The table of the current size. -/
  table : MoveTable
deriving DecidableEq

/-- The values among some results and the errors among them, each in order. -/
def partitionResults {ε α : Type} : List (Except ε α) → List α × List ε
  | [] => ([], [])
  | .ok a :: results => ((a :: (partitionResults results).1), (partitionResults results).2)
  | .error e :: results => ((partitionResults results).1, (e :: (partitionResults results).2))

namespace Notation

/-- The notation of a puzzle of the given size. -/
def ofSize (size : PuzzleSize) : Notation :=
  ⟨.ofSize size⟩

instance : Inhabited Notation :=
  ⟨ofSize default⟩

/-- The size that moves are read for. -/
def size (n : Notation) : PuzzleSize :=
  n.table.size

/-- The notation after a change of size, and whether the table was built anew, which is reported. -/
def setSize (n : Notation) (size : PuzzleSize) : Logged (Notation × Bool) :=
  if n.size = size then ⟨(n, false), []⟩ else ⟨(ofSize size, true), [.generated size]⟩

/-- The move that a token names, or why it names none. -/
def move (n : Notation) (token : List Char) : Except MoveError Move :=
  Move.parse n.table token

/-- The move that a token names, if any. A token that names none is reported. -/
def move? (n : Notation) (token : List Char) : Logged (Option Move) :=
  match n.move token with
  | .ok m => ⟨some m, []⟩
  | .error e => ⟨none, [.rejected e]⟩

/-- The moves that the words of a list name. -/
def moves (n : Notation) (tokens : List (List Char)) : List Move :=
  tokens.filterMap fun t => (n.move? t).value

/-- The moves of an algorithm, without the words that are not moves. -/
def algorithm (n : Notation) (text : List Char) : Logged (List Move) :=
  ⟨n.moves (words text), (words text).flatMap fun t => (n.move? t).records⟩

/-- The moves of an algorithm, or the errors of all words that are not moves. -/
def algorithmStrict (n : Notation) (text : List Char) : Except (List MoveError) (List Move) :=
  let (moves, errors) := partitionResults ((words text).map n.move)
  if errors.isEmpty then .ok moves else .error errors

/-- The notation of the inverse of a move, or nothing for a token that is not a move. -/
def invert (n : Notation) (token : List Char) : Logged (List Char) :=
  match n.move? token with
  | ⟨some m, records⟩ => ⟨m.inverse.render, records⟩
  | ⟨none, records⟩ => ⟨[], records⟩

/-- The notation of the inverse of an algorithm: the inverses of its moves from the last to the
first, with single spaces between them. -/
def invertAlgorithm (n : Notation) (text : List Char) : Logged (List Char) where
  value :=
    unwords (((words text).reverse.map fun t => (n.invert t).value).filter fun s => !s.isEmpty)
  records := (words text).reverse.flatMap fun t => (n.invert t).records

/-! ### Strict and lenient reading -/

/-- The errors of the words of a list that name no move. -/
def errors (n : Notation) (tokens : List (List Char)) : List MoveError :=
  tokens.filterMap fun t => match n.move t with
    | .ok _ => none
    | .error e => some e

/-- The moves that are sorted out from the errors are those that are kept when errors are skipped.
-/
theorem partitionResults_map_move (n : Notation) (tokens : List (List Char)) :
    partitionResults (tokens.map n.move) = (n.moves tokens, n.errors tokens) := by
  induction tokens with
  | nil => rfl
  | cons t ts ih =>
    rw [List.map_cons, moves, errors, List.filterMap_cons, List.filterMap_cons, move?]
    cases hm : n.move t with
    | ok m =>
      rw [partitionResults, ih]
      rfl
    | error e =>
      rw [partitionResults, ih]
      rfl

/-- So strict reading gives the moves of lenient reading, unless there are errors. -/
theorem algorithmStrict_eq (n : Notation) (text : List Char) :
    n.algorithmStrict text =
      if n.errors (words text) = [] then .ok (n.algorithm text).value
      else .error (n.errors (words text)) := by
  simp only [algorithmStrict, partitionResults_map_move, List.isEmpty_iff]
  rfl

end Notation

end Twisty
