import Twisty.Preferences.Library
import Twisty.Preferences.Setting

/-!
# Sources of settings

A document and an environment each set keys, the same key at most once (`Source.ofList`). A key may
be a path to something below a preference (`strict.x`, `strict[0]`), and then makes a collection of
it. Of the entries for a key the last one wins, of whatever source (`Source.setting?`).
-/

namespace Twisty

open Text Yaml

namespace Key

/-- The characters of the names in a path. -/
def isNameChar (c : Char) : Bool :=
  c.isAlphanum || c = '_' || c = '-'

/-- Whether a text is the part of a path after its first name: names after points, and whole numbers
in brackets. -/
def isPathRest : (fuel : Nat) → List Char → Bool
  | _, [] => true
  | 0, _ => false
  | fuel + 1, '.' :: r =>
    !(r.takeWhile isNameChar).isEmpty && isPathRest fuel (r.dropWhile isNameChar)
  | fuel + 1, '[' :: r =>
    match r.span (· ≠ ']') with
    | (index, _ :: s) => (signed? index).isSome && index.head? ≠ some '+' && isPathRest fuel s
    | (_, []) => false
  | _, _ => false

/-- Whether a key is a path to something below its first name. -/
def isPath (key : List Char) : Bool :=
  let rest := key.dropWhile isNameChar
  !(key.takeWhile isNameChar).isEmpty && !rest.isEmpty && isPathRest rest.length rest

/-- The key itself, or the first name of a path. -/
def root (key : List Char) : List Char :=
  if isPath key then key.takeWhile isNameChar else key

end Key

namespace Source

/-- A source with a key set. A key that was set before keeps its place. -/
def insert (source : Source Setting) (entry : List Char × Setting) : Source Setting :=
  if source.any (·.1 = entry.1) then source.map fun e => if e.1 = entry.1 then entry else e
  else source ++ [entry]

/-- The source that entries make up, in order. -/
def ofList (entries : List (List Char × Setting)) : Source Setting :=
  entries.foldl insert []

/-- The entry of a document: its key as a text. -/
def ofPair? (pair : Scalar × Node) : Option (List Char × Setting) :=
  pair.1.key?.map fun key => (key, .ofNode pair.2)

/-- What a document sets. -/
def ofDocument (root : List (Scalar × Node)) : Source Setting :=
  ofList (root.filterMap ofPair?)

/-- The names of the variables with a stem begin with this, in any case. -/
def prefixOf (stem : List Char) : List Char :=
  stem.map Char.toLower ++ ['_']

/-- The entry of a variable of the environment, if it is meant. Its value is always a text. -/
def ofBinding? (stem : List Char) (binding : List Char × List Char) :
    Option (List Char × Setting) :=
  let name := binding.1.map Char.toLower
  if (prefixOf stem).isPrefixOf name then
    some (name.drop (prefixOf stem).length, .scalar (.text binding.2))
  else none

/-- What an environment sets. -/
def ofEnvironment (stem : List Char) (environment : List (List Char × List Char)) :
    Source Setting :=
  ofList (environment.filterMap (ofBinding? stem))

/-- What a key becomes by an entry for it. A path sets something below its first name, which thereby
becomes a collection. -/
def settingOf (entry : List Char × Setting) : Setting :=
  if Key.isPath entry.1 then .collection else entry.2

/-- What a key is set to by the last entry that sets it. -/
def setting? (source : Source Setting) (key : List Char) : Option Setting :=
  (source.filter fun e => Key.root e.1 = key).getLast?.map settingOf

end Source

end Twisty
