/-!
# Files and paths

A file can be written at a path (`Path.canSave`) when the path ends in the name of a file and does
not run through one: the directories on the way are made as they are needed. `Files.read?` and
`Files.write` read and write the files that can be reached from a directory. `Path.candidates` are
the paths at which the file of a path is looked for, as its name may lack an extension.
-/

namespace Twisty

/-- A relative path, as the names between its slashes. -/
structure Path where
  components : List (List Char)
deriving DecidableEq

namespace Path

/-- The path that a text spells. -/
def ofText (s : List Char) : Path :=
  ⟨s.splitOnP (· = '/')⟩

/-- Whether a component names something: it is neither empty nor a dot. -/
def isStep (c : List Char) : Bool :=
  !(c.isEmpty || c = ['.'])

/-- A component that a file system takes: without NUL, and of at most 255 bytes. -/
def isAllowed (c : List Char) : Bool :=
  !c.contains '\x00' && (String.ofList c).utf8ByteSize ≤ 255

/-- Where one gets to from a place by a component. Places are lists of names, the last name first.
-/
def walk (place : List (List Char)) (c : List Char) : List (List Char) :=
  if c = ['.', '.'] then
    match place with
    | [] => [c]
    | d :: r => if d = ['.', '.'] then c :: place else r
  else if isStep c then c :: place
  else place

/-- The places on the way along some components, the first one first. -/
def places (cs : List (List Char)) : List (List (List Char)) :=
  (List.range (cs.length + 1)).map fun n => (cs.take n).foldl walk []

/-- Whether a file can be written at a path when some files exist already. -/
def canSave (path : Path) (existing : List (List (List Char))) : Bool :=
  match path.components.getLast? with
  | none => false
  | some name =>
    let directories := places path.components.dropLast
    isStep name && name ≠ ['.', '.'] && path.components.all isAllowed &&
      directories.all (fun d => !existing.contains d) &&
      !directories.contains (path.components.foldl walk [])

/-- The place that a path leads to. -/
def place (path : Path) : List (List Char) :=
  path.components.foldl walk []

/-- The directories on the way to the place, the one that it is in included. -/
def directories (path : Path) : List (List (List Char)) :=
  places path.components.dropLast

/-- The text of a path whose last name has an extension more. Empty components and dots behind the
last name are left out. There is no such path if the last step leads to a directory above. -/
def addExtension (path extension : List Char) : Option (List Char) :=
  match (ofText path).components.reverse.dropWhile fun c => !isStep c with
  | [] => none
  | name :: above =>
    if name = ['.', '.'] then none
    else some (['/'].intercalate ((name ++ '.' :: extension) :: above).reverse)

/-- The paths at which the file of a path is looked for: the path itself, and then with the
extensions of YAML files. -/
def candidates (path : List Char) : List (List Char) :=
  path :: ["yaml", "yml"].filterMap fun extension => addExtension path extension.toList

end Path

/-- What there is to be reached from a directory. -/
structure Files where
  /-- The places of the files and their texts, the last one written first. -/
  texts : List (List (List Char) × List Char)
  /-- The places of the directories. -/
  directories : List (List (List Char))

namespace Files

/-- The text of the file at a path, if the path leads to one. -/
def read? (files : Files) (path : Path) : Option (List Char) :=
  if path.directories.all files.directories.contains then files.texts.lookup path.place else none

/-- The texts of the files, by the texts of paths that lead to them. -/
def textAt? (files : Files) (path : List Char) : Option (List Char) :=
  files.read? (.ofText path)

/-- The files after a text was written at a path, if that is possible. -/
def write (files : Files) (path : Path) (text : List Char) : Option Files :=
  if path.canSave (files.texts.map (·.1)) && !files.directories.contains path.place then
    some ⟨(path.place, text) :: files.texts, path.directories ++ files.directories⟩
  else none

end Files

end Twisty
