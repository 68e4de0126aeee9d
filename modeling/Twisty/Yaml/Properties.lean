import Twisty.Yaml.Place

/-!
# Properties of nodes

A node may have an anchor, by which later aliases refer to it, and a tag, which says of what kind it
is. Both stand before the node, in either order. Of tags only those of the core schema matter, and
only to plain scalars.
-/

namespace Twisty.Yaml

open Text

/-- A tag: a kind of the core schema, or some other. -/
inductive Tag where
  | core (kind : List Char)
  | other
deriving DecidableEq, Inhabited

/-- What is said of a node before it. -/
structure Properties where
  anchor : Option (List Char)
  tag : Option Tag
deriving DecidableEq, Inhabited

namespace Properties

/-- Nothing is said. -/
def empty : Properties :=
  ⟨none, none⟩

/-- Whether nothing is said. -/
def isEmpty (p : Properties) : Bool :=
  p.anchor.isNone && p.tag.isNone

end Properties

/-- A text that is one of the truth values. -/
def flag? (s : List Char) : Option Bool :=
  if s = "true".toList then some true
  else if s = "false".toList then some false
  else none

/-- The value of a plain scalar with a tag. A text that does not fit its tag is worth nothing. -/
def Tag.resolve (s : List Char) : Tag → Scalar
  | other => .text s
  | core kind =>
    if kind = "bool".toList then ((flag? s).map Scalar.flag).getD .null
    else if kind = "int".toList then
      (((signed? s).bind Scalar.int64?).map Scalar.integer).getD .null
    else if kind = "float".toList then
      if Scalar.isNonfinite s then .nonfinite s
      else if (Decimal.parse s).isSome then .decimal s
      else .null
    else if kind = "null".toList then .null
    else .text s

/-- The value of a plain scalar. -/
def Properties.resolve (p : Properties) (s : List Char) : Scalar :=
  match p.tag with
  | some t => t.resolve s
  | none => .ofPlain s

/-- The characters of a name or a tag: no blanks, line breaks or marks of flow collections. -/
def isNameChar (c : Char) : Bool :=
  !(isWhite c || c = '\n' || isFlowMark c)

/-- The prefix of the tags of the core schema. -/
def corePrefix : List Char :=
  "tag:yaml.org,2002:".toList

/-- The tag with a handle and a suffix, if the handle is known. The plain handle always is. -/
def Input.tag? (i : Input) (handle suffix : List Char) : Option Tag :=
  match i.handles.lookup handle with
  | some p => some (if p = corePrefix then .core suffix else .other)
  | none => if handle = ['!'] then some .other else none

/-- The tag that is spelled by the characters after an exclamation mark. -/
def Input.tagOf? (i : Input) (spelling : List Char) : Option Tag :=
  match spelling with
  | '<' :: r => if r.getLast? = some '>' then some .other else none
  | '!' :: suffix => if suffix.isEmpty then none else i.tag? "!!".toList suffix
  | s =>
    match s.span (· ≠ '!') with
    | (suffix, []) => i.tag? ['!'] suffix
    | (handle, _ :: suffix) =>
      if suffix.isEmpty then none else i.tag? ('!' :: handle ++ ['!']) suffix

/-- The name at the start of the input. -/
def Input.name (i : Input) : List Char :=
  i.rest.takeWhile isNameChar

/-- One property, added to those before it, and the input after it. -/
def Input.property? (i : Input) (p : Properties) : Option (Properties × Input) :=
  match i.rest with
  | '&' :: _ =>
    let j := i.drop 1
    if p.anchor.isSome ∨ j.name.isEmpty then none
    else some ({ p with anchor := some j.name }, j.drop j.name.length)
  | '!' :: _ => do
    let j := i.drop 1
    if p.tag.isSome then none
    else
      let t ← i.tagOf? j.name
      return ({ p with tag := some t }, j.drop j.name.length)
  | _ => none

/-- Whether a property begins here. -/
def Input.atProperty (i : Input) : Bool :=
  match i.rest with
  | '&' :: _ | '!' :: _ => true
  | _ => false

/-- The properties at the start of the input, of which there are at most two, and the input at the
token after them. -/
def Input.properties? (i : Input) (floor : Nat) : Option (Properties × Input) :=
  if i.atProperty then do
    let (p, i) ← i.property? .empty
    let i ← i.skip floor
    if i.atProperty then do
      let (p, i) ← i.property? p
      return (p, ← i.skip floor)
    else return (p, i)
  else some (.empty, i)

end Twisty.Yaml
