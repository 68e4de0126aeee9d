import Twisty.Log
import Twisty.Preferences.Basic
import Twisty.Preferences.Library
import Twisty.Yaml.Line

/-!
# Loading preferences

`Library.load` reads preferences from the file that comes with the program, a file of the user and
the environment, of which the later win. Loading is all or nothing: when a file is not acceptable,
or when what a preference is set to in the end does not convert, the built-in preferences are used
for all of them and the failure is reported. A file of the user need not exist.
-/

namespace Twisty

namespace Preferences

/-- The key of the preferred size. -/
def puzzleSizeKey : List Char :=
  "puzzle_size".toList

/-- The key of the smallest size. -/
def minPuzzleSizeKey : List Char :=
  "min_puzzle_size".toList

/-- The key of the largest size. -/
def maxPuzzleSizeKey : List Char :=
  "max_puzzle_size".toList

/-- The key of strictness. -/
def strictKey : List Char :=
  "strict".toList

/-- The lines of the preferences file that comes with the program. -/
def builtInLines : List Yaml.Line :=
  [.comment " Size of the puzzle that notation is parsed for.".toList,
    .entry puzzleSizeKey "3".toList,
    .comment " Range of sizes that a frontend offers.".toList,
    .entry minPuzzleSizeKey "2".toList,
    .entry maxPuzzleSizeKey "5".toList,
    .comment " Reject a whole algorithm if any move in it is invalid, instead of skipping".toList,
    .comment " the invalid moves.".toList,
    .entry strictKey "false".toList]

/-- The names of the variables of the environment that are meant begin with this and an underscore.
-/
def environmentStem : List Char :=
  "CUBESEQ".toList

end Preferences

open Preferences

namespace Library

variable {Value : Type} (L : Library Value)

/-- The sources that a file of the user is. There is none without a path, and an empty one if no
file is found. There is no list if the file is not acceptable. -/
def userSources? (files : List Char → Option (List Char)) :
    (path : Option (List Char)) → Option (List (Source Value))
  | none => some []
  | some path =>
    match L.find? files path with
    | none => some [[]]
    | some text => (L.read? text).map fun source => [source]

/-- The sources of preferences, the lowest one first. -/
def sources? (files : List Char → Option (List Char)) (path : Option (List Char))
    (environment : List (List Char × List Char)) : Option (List (Source Value)) := do
  let builtIn ← L.read? (Yaml.renderLines builtInLines)
  let user ← L.userSources? files path
  return builtIn :: user ++ [L.environment environmentStem environment]

/-- A preference: what its key is set to, or else what is built in. -/
def field? {α : Type} (convert : Value → Option α) (builtIn : α) (sources : List (Source Value))
    (key : List Char) : Option α :=
  match L.setting? sources key with
  | some v => convert v
  | none => some builtIn

/-- The preferences that sources set, if all settings convert. -/
def preferences? (sources : List (Source Value)) : Option Preferences := do
  let puzzleSize ← L.field? L.toWord? builtIn.puzzleSize sources puzzleSizeKey
  let minPuzzleSize ← L.field? L.toWord? builtIn.minPuzzleSize sources minPuzzleSizeKey
  let maxPuzzleSize ← L.field? L.toWord? builtIn.maxPuzzleSize sources maxPuzzleSizeKey
  let strict ← L.field? L.toFlag? builtIn.strict sources strictKey
  return ⟨puzzleSize, minPuzzleSize, maxPuzzleSize, strict⟩

/-- The preferences of a file and an environment, if they can be loaded. -/
def load? (files : List Char → Option (List Char)) (path : Option (List Char))
    (environment : List (List Char × List Char)) : Option Preferences :=
  (L.sources? files path environment).bind L.preferences?

/-- The preferences of a file and an environment, or the built-in ones and a report. -/
def load (files : List Char → Option (List Char)) (path : Option (List Char))
    (environment : List (List Char × List Char)) : Logged Preferences :=
  match L.load? files path environment with
  | some p => ⟨p, []⟩
  | none => ⟨builtIn, [.preferencesFailed]⟩

end Library

end Twisty
