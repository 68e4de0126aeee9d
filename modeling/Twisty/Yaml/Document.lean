import Twisty.Text.Blank
import Twisty.Yaml.Reader

/-!
# Reading a document

`read` gives the root mapping of a text that holds one document, and an empty mapping for a text
that holds none. A text is refused when its syntax is broken, when it holds a second document, when
the root is not a mapping, and when one of its numbers is infinite.
-/

namespace Twisty.Yaml

open Text

namespace Input

/-- Passes over marks that end a document. Each stands on a line of its own. -/
def skipEnds : Nat → Input → Option Input
  | 0, i => some i
  | fuel + 1, i =>
    if i.column = 0 ∧ atMark i.rest ∧ i.at? '.' then do
      let j ← (i.drop 3).skip 0
      if j.line = i.line ∧ !j.rest.isEmpty then none else skipEnds fuel j
    else some i

/-- Whether a text is a version number: two runs of digits around a point. -/
def isVersion (s : List Char) : Bool :=
  match s.span (· ≠ '.') with
  | (major, '.' :: minor) => isDigits major && isDigits minor
  | _ => false

/-- What a directive says: whether it is the version, and the handle and prefix that it declares. -/
def directive? (line : List Char) : Option (Bool × Option (List Char × List Char)) :=
  let parts := (Text.words line).takeWhile fun w => w.head? ≠ some '#'
  match parts with
  | name :: arguments =>
    if name = "%YAML".toList then
      match arguments with
      | [v] => if isVersion v then some (true, none) else none
      | _ => none
    else if name = "%TAG".toList then
      match arguments with
      | [handle, tag] =>
        if handle.head? = some '!' ∧ handle.getLast? = some '!' then
          some (false, some (handle, tag))
        else none
      | _ => none
    else some (false, none)
  | [] => none

/-- Reads directives, of which one at most gives the version. Says whether there were any. -/
def directives? : Nat → (version any : Bool) → Input → Option (Bool × Input)
  | 0, _, any, i => some (any, i)
  | fuel + 1, version, any, i =>
    if i.column = 0 ∧ i.at? '%' then do
      let (isVersion, handle) ← directive? (firstLine i.rest)
      if version && isVersion then none
      else
        let j := { i with handles := handle.toList ++ i.handles }
        let j := j.drop (firstLine i.rest).length
        directives? fuel (version || isVersion) true (← j.skip 0)
    else some (any, i)

/-- The fuel that is enough for a text. -/
def fuel (i : Input) : Nat :=
  4 * i.rest.length + 8

/-- The root of the one document from here on. -/
def root? (i : Input) : Option Node := do
  let (any, i) ← directives? i.fuel false false i
  let explicit := i.column = 0 && atMark i.rest && i.at? '-'
  if any && !explicit then none
  else
    let j ← if explicit then (i.drop 3).skip 0 else some i
    let (n, j) ← block? i.fuel ⟨0, 0, explicit && j.line = i.line⟩ j
    let k ← skipEnds i.fuel j
    if k.rest.isEmpty then some n else none

end Input

/-- The root mapping of a text, if the text is acceptable. -/
def read (text : List Char) : Option (List (Scalar × Node)) := do
  let i := Input.start (prepare text)
  let i ← i.skip 0
  let i ← Input.skipEnds i.fuel i
  if i.rest.isEmpty then return []
  else
    match ← i.root? with
    | .mapping entries => if Node.entriesFinite entries then some entries else none
    | _ => none

end Twisty.Yaml
