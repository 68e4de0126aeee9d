import Twisty.Yaml.Folded
import Twisty.Yaml.Literal
import Twisty.Yaml.Properties

/-!
# Reading nodes

A node in block context is read from the column it stands in. `Context` says from which column on a
node belongs to the one around it, and whether it stands behind a key on the same line, where
neither a mapping nor a sequence may begin without brackets. A mapping goes on for as long as
entries begin in the column of its first key, and a sequence for as long as dashes stand in the
column of its first. A key without a question mark is on one line with its colon, which may not be
far behind (`keyLimit`), and collections in brackets and braces may not be nested too deeply
(`depthLimit`).

All functions take fuel, of which each call passes on less. A call that does not take a character
from the input is followed by one that does, so that a small multiple of the length of the text is
enough.
-/

namespace Twisty.Yaml

open Text

/-- Where a node in block context may stand. -/
structure Context where
  /-- The column from which on a node belongs to this context. -/
  floor : Nat
  /-- The column from which on a dash does. -/
  dashFloor : Nat
  /-- Whether the node is behind a key on the same line. -/
  inline : Bool

/-- How far behind the start of a key its colon may stand. -/
def keyLimit : Nat :=
  1024

/-- How many collections in brackets or braces may be nested. -/
def depthLimit : Nat :=
  255

/-- A node without its properties, which may still decide what a plain scalar is worth. -/
inductive Atom where
  | plain (text : List Char)
  | quoted (text : List Char)
  | node (node : Node)

/-- Whether the atom shows its end, so that a colon may follow right behind it in a collection. -/
def Atom.isClosed : Atom → Bool
  | plain _ => false
  | _ => true

/-- The value of an atom with its properties. -/
def Atom.resolve (p : Properties) : Atom → Node
  | plain s => .scalar (p.resolve s)
  | quoted s => .scalar (.text s)
  | node n => n

/-- The scalar that a node is as a key. Nothing is not a key, and neither is a collection. -/
def Node.key? : Node → Option Scalar
  | .scalar .null => none
  | .scalar s => some s
  | _ => none

namespace Input

/-- The input after a node with properties: its anchor stands for the node from now on. -/
def define (i : Input) (p : Properties) (n : Node) : Input :=
  match p.anchor with
  | some name => { i with anchors := (name, n) :: i.anchors }
  | none => i

/-- Whether the indicator `c` stands here, which a blank or a line break follows. -/
def atIndicator (i : Input) (c : Char) : Bool :=
  match i.rest with
  | d :: r => d = c && atGap r
  | [] => false

/-- Whether a colon stands here that separates a key from its value. -/
def atColon (i : Input) (flow closed : Bool) : Bool :=
  match i.rest with
  | ':' :: r =>
    atGap r || (flow && ((r.head?.map isFlowMark).getD false || (closed && i.place.before = .text)))
  | _ => false

/-- Whether the next character is `c`. -/
def at? (i : Input) (c : Char) : Bool :=
  i.rest.head? = some c

/-- Whether a plain scalar may begin here. Dashes, question marks and colons begin one only before
another character of it. -/
def atPlain (i : Input) (flow : Bool) : Bool :=
  match i.rest with
  | [] => false
  | c :: r =>
    if c = '-' ∨ c = '?' ∨ c = ':' then
      !atGap r && !(flow && (r.head?.map isFlowMark).getD false)
    else !(isFlowMark c || c ∈ ['#', '&', '*', '!', '\'', '"', '%', '@', '\x60'])

/-- The value of an alias, and the input after it. -/
def alias? (i : Input) : Option (Node × Input) :=
  let j := i.drop 1
  (j.anchors.lookup j.name).map fun n => (n, j.drop j.name.length)

/-- Whether a node of a context stands here. -/
def isIn (i : Input) (ctx : Context) : Bool :=
  !i.atEnd && (ctx.floor ≤ i.column || (ctx.dashFloor ≤ i.column && i.atIndicator '-'))

/-- The input at the value behind a colon. A tab alone does not set a value off that begins with a
letter, a digit, an underscore or a dash. -/
def value? (i : Input) (floor : Nat) : Option Input := do
  let gap := (i.rest.drop 1).takeWhile isWhite
  let next := ((i.rest.drop 1).dropWhile isWhite).head?
  let isWord := (next.map fun c => c.isAlphanum || c = '_' || c = '-').getD false
  if gap.head? = some '\t' ∧ ' ' ∉ gap ∧ isWord then none
  else (i.drop 1).skip floor

mutual

/-- A node in block context, or nothing where none stands, and the input at the token after it. -/
def block? : Nat → Context → Input → Option (Node × Input)
  | 0, _, _ => none
  | fuel + 1, ctx, i =>
    if !i.isIn ctx then some (.scalar .null, i)
    else do
      let (p, j) ← i.properties? ctx.floor
      if j.line = i.line ∧ !j.rest.isEmpty then content? fuel ctx i.column p .empty j
      else if j.isIn ctx then
        content? fuel { ctx with inline := false } j.column .empty p j
      else
        let n := Node.scalar (p.resolve [])
        return (n, j.define p n)

/-- A node in block context behind its properties. Those in `first` stand on the same line and
belong to the key if the node is a mapping, those in `whole` belong to the node. -/
def content? : Nat → Context → (column : Nat) → (first whole : Properties) → Input →
    Option (Node × Input)
  | 0, _, _, _, _, _ => none
  | fuel + 1, ctx, column, first, whole, i =>
    if i.atIndicator '-' then
      if ctx.inline ∨ !first.isEmpty then none
      else do
        let (items, j) ← items? fuel column [] i
        return (.sequence items, j.define whole (.sequence items))
    else if i.atIndicator '?' then
      if ctx.inline ∨ !first.isEmpty then none
      else do
        let (entries, j) ← entries? fuel column [] i
        return (.mapping entries, j.define whole (.mapping entries))
    else if i.at? '|' ∨ i.at? '>' then do
      let (s, j) ← (i.drop 1).literal? (i.at? '>') ctx.floor
      let n := Node.scalar (.text s)
      return (n, (← j.skip ctx.floor).define first n |>.define whole n)
    else do
      let (a, j) ← atom? fuel 0 ctx.floor i
      let j ← j.skip ctx.floor
      let n := a.resolve (if first.isEmpty then whole else first)
      if !ctx.inline ∧ j.line = i.line ∧ j.atColon false false then
        if column + keyLimit < j.column then none
        else
          let key := a.resolve first
          let (entries, k) ← pair? fuel column [] key (j.define first key)
          return (.mapping entries, k.define whole (.mapping entries))
      else return (n, j.define first n |>.define whole n)

/-- The entries of a mapping in block context from the one that begins here on, behind those in
`entries`. -/
def entries? : Nat → (column : Nat) → (entries : List (Scalar × Node)) → Input →
    Option (List (Scalar × Node) × Input)
  | 0, _, _, _ => none
  | fuel + 1, column, entries, i =>
    if i.atEnd ∨ i.column < column then some (entries.reverse, i)
    else if i.column ≠ column then none
    else if i.atIndicator '?' then do
      let j ← (i.drop 1).skip (column + 1)
      let (key, j) ← block? fuel ⟨column + 1, column + 1, false⟩ j
      if j.atIndicator ':' ∧ j.column = column then pair? fuel column entries key j
      else
        let key ← key.key?
        if entries.any (·.1 = key) then none
        else entries? fuel column ((key, .scalar .null) :: entries) j
    else do
      let (p, j) ← i.properties? (column + 1)
      let (a, j) ← atom? fuel 0 (column + 1) j
      let j ← j.skip (column + 1)
      if j.line = i.line ∧ j.atColon false false ∧ j.column ≤ column + keyLimit then
        let key := a.resolve p
        pair? fuel column entries key (j.define p key)
      else none

/-- The entries of a mapping in block context from the one on whose colon the input is. -/
def pair? : Nat → (column : Nat) → (entries : List (Scalar × Node)) → (key : Node) → Input →
    Option (List (Scalar × Node) × Input)
  | 0, _, _, _, _ => none
  | fuel + 1, column, entries, key, i => do
    let key ← key.key?
    if entries.any (·.1 = key) then none
    else
      let j ← i.value? (column + 1)
      let inline := j.line = i.line ∧ i.column ≠ column
      let (n, j) ← block? fuel ⟨column + 1, column, inline⟩ j
      entries? fuel column ((key, n) :: entries) j

/-- The items of a sequence in block context from the one that begins here on. -/
def items? : Nat → (column : Nat) → (items : List Node) → Input → Option (List Node × Input)
  | 0, _, _, _ => none
  | fuel + 1, column, items, i =>
    if i.atEnd ∨ i.column ≠ column ∨ !i.atIndicator '-' then some (items.reverse, i)
    else do
      let j ← (i.drop 1).skip (column + 1)
      let (n, j) ← block? fuel ⟨column + 1, column + 1, false⟩ j
      items? fuel column (n :: items) j

/-- A scalar, an alias or a collection in brackets or braces, and the input right after it. The
depth is the number of collections in brackets or braces around it. -/
def atom? : Nat → (depth : Nat) → (floor : Nat) → Input → Option (Atom × Input)
  | 0, _, _, _ => none
  | fuel + 1, depth, floor, i =>
    if i.at? '[' ∨ i.at? '\x7b' then
      if depth = depthLimit then none
      else do
        let j ← (i.drop 1).skip floor
        if i.at? '[' then
          let (items, j) ← flowItems? fuel (depth + 1) floor [] j
          return (.node (.sequence items), j)
        else
          let (entries, j) ← flowEntries? fuel (depth + 1) floor [] j
          return (.node (.mapping entries), j)
    else if i.at? '"' then do
      let (s, j) ← (i.drop 1).double? floor
      return (.quoted s, j)
    else if i.at? '\'' then do
      let (s, j) ← (i.drop 1).single? floor
      return (.quoted s, j)
    else if i.at? '*' then do
      let (n, j) ← i.alias?
      return (.node n, j)
    else if i.atPlain (depth ≠ 0) then do
      let (s, j) ← i.plain? (depth ≠ 0) floor
      return (.plain s, j)
    else none

/-- A node in a collection, whether its end shows, and the input at the token after it. -/
def flow? : Nat → (depth floor : Nat) → Input → Option (Node × Bool × Input)
  | 0, _, _, _ => none
  | fuel + 1, depth, floor, i =>
    if i.atEnd ∨ i.column < floor then none
    else do
      let (p, j) ← i.properties? floor
      if !p.isEmpty ∧ (j.at? ',' ∨ j.at? ']' ∨ j.at? '\x7d' ∨ j.atColon true false) then
        let n := Node.scalar (p.resolve [])
        return (n, false, j.define p n)
      else
        let (a, j) ← atom? fuel depth floor j
        let j ← j.skip floor
        let n := a.resolve p
        return (n, a.isClosed, j.define p n)

/-- The value behind a colon in a collection, which may be nothing. -/
def flowValue? : Nat → (depth floor : Nat) → Input → Option (Node × Input)
  | 0, _, _, _ => none
  | fuel + 1, depth, floor, i => do
    let j ← (i.drop 1).skip floor
    if j.at? ',' ∨ j.at? ']' ∨ j.at? '\x7d' then return (.scalar .null, j)
    else
      let (n, _, j) ← flow? fuel depth floor j
      return (n, j)

/-- A key in a collection, and its value if a colon follows. In a sequence, a key without a question
mark and its colon stand on one line. -/
def flowPair? : Nat → (depth floor : Nat) → (inSequence : Bool) → Input →
    Option (Node × Option Node × Input)
  | 0, _, _, _, _ => none
  | fuel + 1, depth, floor, inSequence, i =>
    if i.atIndicator '?' then do
      let j ← (i.drop 1).skip floor
      let (key, closed, j) ← flow? fuel depth floor j
      if j.atColon true closed then
        let (n, j) ← flowValue? fuel depth floor j
        return (key, some n, j)
      else return (key, some (.scalar .null), j)
    else do
      let (key, closed, j) ← flow? fuel depth floor i
      if !j.atColon true closed then return (key, none, j)
      else if inSequence ∧ j.line ≠ i.line then none
      else
        let (n, k) ← flowValue? fuel depth floor j
        return (key, some n, k)

/-- The items of a sequence in brackets from the one that begins here on. A single pair is an item
that is a mapping. -/
def flowItems? : Nat → (depth floor : Nat) → (items : List Node) → Input →
    Option (List Node × Input)
  | 0, _, _, _, _ => none
  | fuel + 1, depth, floor, items, i =>
    if i.column < floor then none
    else if i.at? ']' then some (items.reverse, i.drop 1)
    else do
      let (key, value, j) ← flowPair? fuel depth floor true i
      let item ← match value with
        | some n => key.key?.map fun k => Node.mapping [(k, n)]
        | none => some key
      if j.at? ',' then flowItems? fuel depth floor (item :: items) (← (j.drop 1).skip floor)
      else if j.at? ']' then flowItems? fuel depth floor (item :: items) j
      else none

/-- The entries of a mapping in braces from the one that begins here on. -/
def flowEntries? : Nat → (depth floor : Nat) → (entries : List (Scalar × Node)) → Input →
    Option (List (Scalar × Node) × Input)
  | 0, _, _, _, _ => none
  | fuel + 1, depth, floor, entries, i =>
    if i.column < floor then none
    else if i.at? '\x7d' then some (entries.reverse, i.drop 1)
    else do
      let (key, value, j) ← flowPair? fuel depth floor false i
      let key ← key.key?
      if entries.any (·.1 = key) then none
      else
        let entries := (key, value.getD (.scalar .null)) :: entries
        if j.at? ',' then flowEntries? fuel depth floor entries (← (j.drop 1).skip floor)
        else if j.at? '\x7d' then flowEntries? fuel depth floor entries j
        else none

end

end Input

end Twisty.Yaml
