import Twisty.Yaml.Node

/-!
# Places in a document

What a reader has before it, and where it stands. The place counts lines and columns, and knows
whether the characters before it on the line are only indentation, end in a blank, or end in text. A
line break is a line feed, and a blank is a space or a tab. `prepare` brings a text into this form.

`Input.skip` goes on to the next token over blanks, line breaks and comments. A comment has a blank
or nothing before it on its line. A line with a tab in the columns that belong to the indentation
may hold no more than a comment.
-/

namespace Twisty.Yaml

/-- What comes before a place on its line. -/
inductive Before where
  /-- Nothing but blanks. -/
  | indentation
  /-- Some text, then a blank. -/
  | blank
  /-- Some text, right before the place. -/
  | text
deriving DecidableEq, Inhabited

/-- A place in a text. -/
structure Place where
  line : Nat
  column : Nat
  before : Before
deriving DecidableEq, Inhabited

/-- What a reader has before it. -/
structure Input where
  rest : List Char
  place : Place
  /-- The values that have been given a name, the latest first. -/
  anchors : List (List Char × Node)
  /-- The meaning of the handles of tags. -/
  handles : List (List Char × List Char)
deriving Inhabited

/-- Spaces and tabs. -/
def isWhite (c : Char) : Bool :=
  c = ' ' || c = '\t'

/-- Whether a text is at its end, or goes on with a blank or a line break. -/
def atGap : List Char → Bool
  | [] => true
  | c :: _ => isWhite c || c = '\n'

/-- The characters that have a meaning inside brackets and braces. -/
def isFlowMark (c : Char) : Bool :=
  c ∈ [',', '[', ']', '{', '}']

/-- Whether a text begins with one of the two marks between documents. -/
def atMark (s : List Char) : Bool :=
  match s with
  | '-' :: '-' :: '-' :: r => atGap r
  | '.' :: '.' :: '.' :: r => atGap r
  | _ => false

/-- The text without a byte order mark, up to the first NUL, with a line feed for every line break.
-/
def prepare (s : List Char) : List Char :=
  let s := match s with
    | '\ufeff' :: r => r
    | s => s
  breaks (s.takeWhile (· ≠ '\x00'))
where
  /-- Every line break as a line feed. -/
  breaks : List Char → List Char
    | '\x0d' :: '\n' :: r => '\n' :: breaks r
    | '\x0d' :: r => '\n' :: breaks r
    | c :: r => c :: breaks r
    | [] => []

/-- The place after a character. -/
def Place.step (p : Place) (c : Char) : Place :=
  if c = '\n' then ⟨p.line + 1, 0, .indentation⟩
  else if isWhite c then ⟨p.line, p.column + 1, if p.before = .text then .blank else p.before⟩
  else ⟨p.line, p.column + 1, .text⟩

/-- The place after some characters. -/
def Place.stepAll (p : Place) (s : List Char) : Place :=
  s.foldl Place.step p

/-- What is being passed over between two tokens. -/
inductive Gap where
  | blanks
  /-- Blanks, after a tab in the indentation. -/
  | tabbed
  | comment
deriving DecidableEq

/-- Goes on to the next token. Columns before `floor` belong to the indentation. -/
def skipFrom (floor : Nat) : Gap → List Char → Place → Option (List Char × Place)
  | _, [], p => some ([], p)
  | gap, c :: r, p =>
    if c = '\n' then skipFrom floor .blanks r (p.step c)
    else if gap = .comment then skipFrom floor .comment r (p.step c)
    else if c = ' ' then skipFrom floor gap r (p.step c)
    else if c = '\t' then
      let inside := p.before = .indentation ∧ p.column < floor
      skipFrom floor (if inside then .tabbed else gap) r (p.step c)
    else if c = '#' then
      if p.before = .text then none else skipFrom floor .comment r (p.step c)
    else if gap = .tabbed then none
    else some (c :: r, p)

namespace Input

/-- The beginning of a text. -/
def start (s : List Char) : Input :=
  ⟨s, ⟨0, 0, .indentation⟩, [], [("!!".toList, "tag:yaml.org,2002:".toList)]⟩

/-- The column of the next character. -/
def column (i : Input) : Nat :=
  i.place.column

/-- The line of the next character. -/
def line (i : Input) : Nat :=
  i.place.line

/-- The input after its first `n` characters. -/
def drop (i : Input) (n : Nat) : Input :=
  { i with rest := i.rest.drop n, place := i.place.stepAll (i.rest.take n) }

/-- The input at its next token. -/
def skip (i : Input) (floor : Nat) : Option Input :=
  (skipFrom floor .blanks i.rest i.place).map fun (rest, place) =>
    { i with rest := rest, place := place }

/-- Whether the document ends here: the text ends, or there is a mark at the start of the line. -/
def atEnd (i : Input) : Bool :=
  i.rest.isEmpty || (i.column = 0 && atMark i.rest)

end Input

end Twisty.Yaml
