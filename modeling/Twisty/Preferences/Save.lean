import Twisty.Preferences.Files
import Twisty.Preferences.Load

/-!
# Saving preferences

`Library.save` writes preferences to a file, and gives the files that there are afterwards. It fails
where no file can be written.
-/

namespace Twisty

/-- The fields of preferences, in the order in which they are saved. -/
def Preferences.fields (p : Preferences) : List (List Char × Field) :=
  [(puzzleSizeKey, .word p.puzzleSize), (minPuzzleSizeKey, .word p.minPuzzleSize),
    (maxPuzzleSizeKey, .word p.maxPuzzleSize), (strictKey, .flag p.strict)]

/-- The files after preferences were saved at a path, if that is possible. -/
def Library.save {Value : Type} (L : Library Value) (p : Preferences) (path : Path)
    (files : Files) : Option Files :=
  files.write path (L.write p.fields)

end Twisty
