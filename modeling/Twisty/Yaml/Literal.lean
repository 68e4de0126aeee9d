import Twisty.Yaml.Place

/-!
# Literal and folded scalars

After a bar or a greater-than sign, the scalar is the indented lines that follow. A literal scalar
keeps its line breaks. A folded one joins its lines with spaces, except next to empty lines and to
lines that are indented further. The header says what becomes of the line breaks at the end, and may
give the indentation, which otherwise is that of the first line that is not empty.
-/

namespace Twisty.Yaml

/-- What becomes of the line breaks at the end of a scalar. -/
inductive Chomping where
  /-- One is kept. -/
  | clip
  /-- None is kept. -/
  | strip
  /-- All are kept. -/
  | keep
deriving DecidableEq, Inhabited

/-- The header of a scalar: its line breaks at the end, and the indentation it gives. -/
structure LiteralHeader where
  chomping : Chomping
  indentation : Option Nat
deriving DecidableEq, Inhabited

namespace LiteralHeader

/-- The chomping that a sign stands for. -/
def chomping? : Char → Option Chomping
  | '+' => some .keep
  | '-' => some .strip
  | _ => none

/-- The indentation that a digit gives, which is not zero. -/
def indentation? (c : Char) : Option Nat :=
  if c.isDigit ∧ c ≠ '0' then some (c.toNat - '0'.toNat) else none

/-- A header, with its two parts in either order and each of them optional, and its length. -/
def ofText : List Char → LiteralHeader × Nat
  | c :: r =>
    match chomping? c, indentation? c with
    | some k, _ =>
      match r.head?.bind indentation? with
      | some n => (⟨k, some n⟩, 2)
      | none => (⟨k, none⟩, 1)
    | none, some n =>
      match r.head?.bind chomping? with
      | some k => (⟨k, some n⟩, 2)
      | none => (⟨.clip, some n⟩, 1)
    | none, none => (⟨.clip, none⟩, 0)
  | [] => (⟨.clip, none⟩, 0)

end LiteralHeader

/-- How many spaces a line begins with. -/
def indentation (line : List Char) : Nat :=
  (line.takeWhile (· = ' ')).length

/-- Whether a line holds nothing but spaces. -/
def isEmptyLine (line : List Char) : Bool :=
  line.all (· = ' ')

/-- The first line of a text. -/
def firstLine (s : List Char) : List Char :=
  s.takeWhile (· ≠ '\n')

/-- The text after its first line and the break that ends it. -/
def afterLine (s : List Char) : List Char :=
  (s.dropWhile (· ≠ '\n')).drop 1

theorem length_afterLine_lt {s : List Char} (h : s ≠ []) :
    (afterLine s).length < s.length := by
  have hs : (s.dropWhile (· ≠ '\n')).length ≤ s.length := (List.dropWhile_sublist _).length_le
  have hp : 0 < s.length := List.length_pos_iff.2 h
  simp only [afterLine, List.length_drop]
  omega

/-- The lines at the start of a text that are empty or indented by `n` columns, and the rest. The
indentation is taken off the lines. -/
def indentedLines (n : Nat) : List Char → List (List Char) × List Char
  | [] => ([], [])
  | c :: r =>
    let line := firstLine (c :: r)
    if isEmptyLine line || (n ≤ indentation line && !(n = 0 && atMark (c :: r))) then
      let (lines, rest) := indentedLines n (afterLine (c :: r))
      (line.drop n :: lines, rest)
    else ([], c :: r)
termination_by s => s.length
decreasing_by exact length_afterLine_lt (List.cons_ne_nil c r)

/-- The indentation of the first line that is not empty. -/
def firstIndentation : List Char → Nat
  | [] => 0
  | c :: r =>
    if isEmptyLine (firstLine (c :: r)) then firstIndentation (afterLine (c :: r))
    else indentation (firstLine (c :: r))
termination_by s => s.length
decreasing_by exact length_afterLine_lt (List.cons_ne_nil c r)

/-- Lines with a break between any two of them. -/
def joinLines : List (List Char) → List Char
  | [] => []
  | [l] => l
  | l :: ls => l ++ '\n' :: joinLines ls

/-- Whether a line begins with a blank, which keeps it from being folded. -/
def isIndented (line : List Char) : Bool :=
  (line.head?.map isWhite).getD false

/-- Lines with a space between any two, and the breaks that folding keeps. `empty` counts the empty
lines that have just been passed, and `last` is the line before them. -/
def foldLines (last : Option (List Char)) (empty : Nat) : List (List Char) → List Char
  | [] => []
  | [] :: ls => foldLines last (empty + 1) ls
  | l :: ls =>
    let between := match last with
      | none => List.replicate empty '\n'
      | some k =>
        if isIndented k || isIndented l then List.replicate (empty + 1) '\n'
        else if empty = 0 then [' ']
        else List.replicate empty '\n'
    between ++ l ++ foldLines (some l) 0 ls

/-- The text of a scalar from its lines. -/
def literalText (folded : Bool) (chomping : Chomping) (lines : List (List Char)) : List Char :=
  let trailing := (lines.reverse.takeWhile List.isEmpty).length
  let content := lines.take (lines.length - trailing)
  let text := if folded then foldLines none 0 content else joinLines content
  match chomping with
  | .strip => text
  | .clip => if content.isEmpty then [] else text ++ ['\n']
  | .keep => text ++ List.replicate (if content.isEmpty then trailing else trailing + 1) '\n'

namespace Input

/-- The input after the rest of its line, which holds no more than a comment. -/
def endLine? (i : Input) : Option Input := do
  let j ← i.skip 0
  if j.rest.isEmpty ∨ j.line ≠ i.line then
    return { i with rest := afterLine i.rest, place := ⟨i.line + 1, 0, .indentation⟩ }
  else none

/-- The scalar after a bar or a greater-than sign. Its lines are indented by at least `floor`
columns. -/
def literal? (i : Input) (folded : Bool) (floor : Nat) : Option (List Char × Input) := do
  let (header, length) := LiteralHeader.ofText i.rest
  let j ← (i.drop length).endLine?
  let indent := match header.indentation with
    | some n => floor - 1 + n
    | none => max (max floor 1) (firstIndentation j.rest)
  let (lines, rest) := indentedLines indent j.rest
  return (literalText folded header.chomping lines,
    { j with rest := rest, place := ⟨j.line + lines.length, 0, .indentation⟩ })

end Input

end Twisty.Yaml
