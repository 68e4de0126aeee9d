import Twisty.Preferences.Layer
import Twisty.Preferences.Save
import Twisty.Yaml.Document

/-!
# Preferences in YAML

`Library.yaml` does by the readers of this library what is asked of libraries for preferences. Files
are looked for with and without an extension, documents are read as YAML, and a record is written as
one line for each field. `Preferences.load` and `Preferences.save` load and save preferences so.
-/

namespace Twisty

/-- Documents in YAML, and settings as they are read from them. -/
def Library.yaml : Library Setting where
  find? files path := (Path.candidates path).findSome? files
  read? text := (Yaml.read text).map Source.ofDocument
  environment := Source.ofEnvironment
  setting? sources key := Source.setting? sources.flatten key
  toWord? := Setting.toWord?
  toFlag? := Setting.toFlag?
  write fields := Yaml.renderLines (fields.map fun (key, field) => .entry key field.text)

namespace Preferences

/-- The preferences of an environment and a file that is given by its text, if there is one. -/
def load (file : Option (List Char)) (environment : List (List Char × List Char)) :
    Logged Preferences :=
  Library.yaml.load (fun _ => file) (some []) environment

/-- The files after preferences were saved in YAML at a path, if that is possible. -/
def save (p : Preferences) (path : Path) (files : Files) : Option Files :=
  Library.yaml.save p path files

end Preferences

end Twisty
