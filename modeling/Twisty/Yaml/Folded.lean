import Twisty.Yaml.Place

/-!
# Scalars over several lines

Plain and quoted scalars may go on over several lines. The blanks around a line break do not count:
one break stands for a space, and of several breaks the first is dropped (`Fold`). `Input.plain?`
reads a plain scalar, `Input.single?` and `Input.double?` read what follows an opening quote up to
the closing one.
-/

namespace Twisty.Yaml

open Text

/-- What stands between two words of a scalar. -/
inductive Fold where
  /-- Blanks on one line, the last one first. -/
  | blanks (reversed : List Char)
  /-- Line breaks: whether the first of them is escaped, and how many come after the first. -/
  | breaks (escaped : Bool) (more : Nat)
deriving DecidableEq

namespace Fold

/-- Nothing between two characters. -/
def empty : Fold :=
  blanks []

/-- Nothing at all stands between. -/
def isEmpty : Fold → Bool
  | blanks bs => bs.isEmpty
  | breaks _ _ => false

/-- Whether there is a line break. -/
def isBroken : Fold → Bool
  | blanks _ => false
  | breaks _ _ => true

/-- One more blank, which does not count after a line break. -/
def addBlank (c : Char) : Fold → Fold
  | blanks bs => blanks (c :: bs)
  | breaks e n => breaks e n

/-- One more line break, before which blanks do not count. -/
def addBreak : Fold → Fold
  | blanks _ => breaks false 0
  | breaks e n => breaks e (n + 1)

/-- What a fold stands for, from its end to its beginning. -/
def reversed : Fold → List Char
  | blanks bs => bs
  | breaks false 0 => [' ']
  | breaks _ n => List.replicate n '\n'

end Fold

/-- Whether a plain scalar ends before the next character: at a colon that a blank follows, at a
comment, at a mark of flow collections inside of one, and outside where a line is indented too
little. -/
def plainEnds (flow : Bool) (floor : Nat) (fold : Fold) (p : Place) : List Char → Bool
  | [] => true
  | c :: r =>
    (c = ':' && (atGap r || (flow && (r.head?.map isFlowMark).getD false))) ||
    (c = '#' && !fold.isEmpty) ||
    (flow && isFlowMark c) ||
    (fold.isBroken && ((!flow && p.column < floor) || (p.column = 0 && atMark (c :: r))))

/-- Reads a plain scalar. `text` is what has been read of it, in reverse. -/
def plainFrom (flow : Bool) (floor : Nat) (text : List Char) (fold : Fold) (tabbed : Bool) :
    List Char → Place → Option (List Char × List Char × Place)
  | [], p => some (text.reverse, [], p)
  | c :: r, p =>
    if c = '\n' then plainFrom flow floor text fold.addBreak false r (p.step c)
    else if isWhite c then
      let inside := fold.isBroken ∧ c = '\t' ∧ p.column < floor
      plainFrom flow floor text (fold.addBlank c) (tabbed || inside) r (p.step c)
    else if plainEnds flow floor fold p (c :: r) then
      -- Only a comment may follow a tab in the indentation.
      if tabbed ∧ c ≠ '#' then none else some (text.reverse, c :: r, p)
    else if tabbed then none
    else if flow ∧ c = '-' ∧ (!fold.isEmpty || text.isEmpty) ∧ (r.head?.map isFlowMark).getD false
      then none
    else plainFrom flow floor (c :: fold.reversed ++ text) .empty false r (p.step c)

/-- Whether the line of a quoted scalar begins where none may: in the indentation, or with a mark
between documents. -/
def badLine (floor : Nat) (fold : Fold) (p : Place) (s : List Char) : Bool :=
  fold.isBroken && (p.column < floor || (p.column = 0 && atMark s))

/-- Reads a scalar in single quotes, in which a quote is written twice. -/
def singleFrom (floor : Nat) (text : List Char) (fold : Fold) :
    List Char → Place → Option (List Char × List Char × Place)
  | [], _ => none
  | '\'' :: '\'' :: r, p =>
    if badLine floor fold p ('\'' :: '\'' :: r) then none
    else singleFrom floor ('\'' :: fold.reversed ++ text) .empty r ((p.step '\'').step '\'')
  | c :: r, p =>
    if c = '\n' then singleFrom floor text fold.addBreak r (p.step c)
    else if isWhite c then
      if fold.isBroken ∧ c = '\t' ∧ p.column < floor then none
      else singleFrom floor text (fold.addBlank c) r (p.step c)
    else if badLine floor fold p (c :: r) then none
    else if c = '\'' then some ((fold.reversed ++ text).reverse, r, p.step c)
    else singleFrom floor (c :: fold.reversed ++ text) .empty r (p.step c)

/-- The state of an escape in double quotes. -/
inductive Escape where
  | none
  /-- After the backslash. -/
  | opened
  /-- Among hexadecimal digits: how many are missing, and the value of those read. -/
  | code (missing value : Nat)
deriving DecidableEq

/-- The characters that are escaped by one letter. -/
def escaped? : Char → Option Char
  | '0' => some '\x00'
  | 'a' => some '\x07'
  | 'b' => some '\x08'
  | 't' => some '\t'
  | '\t' => some '\t'
  | 'n' => some '\n'
  | 'v' => some '\x0b'
  | 'f' => some '\x0c'
  | 'r' => some '\x0d'
  | 'e' => some '\x1b'
  | ' ' => some ' '
  | '"' => some '"'
  | '/' => some '/'
  | '\\' => some '\\'
  | 'N' => some '\u0085'
  | '_' => some '\u00a0'
  | 'L' => some '\u2028'
  | 'P' => some '\u2029'
  | _ => none

/-- How many hexadecimal digits follow the letter of an escape by code point. -/
def codeLength? : Char → Option Nat
  | 'x' => some 2
  | 'u' => some 4
  | 'U' => some 8
  | _ => none

/-- The character with a code point. -/
def ofCodePoint? (n : Nat) : Option Char :=
  if n.isValidChar then some (Char.ofNat n) else none

/-- Reads a scalar in double quotes, in which a backslash begins an escape. -/
def doubleFrom (floor : Nat) (escape : Escape) (text : List Char) (fold : Fold) :
    List Char → Place → Option (List Char × List Char × Place)
  | [], _ => none
  | c :: r, p =>
    match escape with
    | .opened =>
      if c = '\n' then doubleFrom floor .none (fold.reversed ++ text) (.breaks true 0) r (p.step c)
      else
        match escaped? c, codeLength? c with
        | some e, _ =>
          doubleFrom floor .none (e :: fold.reversed ++ text) .empty r (p.step c)
        | none, some n =>
          doubleFrom floor (.code n 0) (fold.reversed ++ text) .empty r (p.step c)
        | none, none => none
    | .code missing value =>
      match Scalar.digit? 16 c with
      | none => none
      | some d =>
        if missing ≤ 1 then
          match ofCodePoint? (16 * value + d) with
          | some e => doubleFrom floor .none (e :: text) .empty r (p.step c)
          | none => none
        else doubleFrom floor (.code (missing - 1) (16 * value + d)) text .empty r (p.step c)
    | .none =>
      if c = '\n' then doubleFrom floor .none text fold.addBreak r (p.step c)
      else if isWhite c then
        if fold.isBroken ∧ c = '\t' ∧ p.column < floor then none
        else doubleFrom floor .none text (fold.addBlank c) r (p.step c)
      else if badLine floor fold p (c :: r) then none
      else if c = '"' then some ((fold.reversed ++ text).reverse, r, p.step c)
      else if c = '\\' then doubleFrom floor .opened text fold r (p.step c)
      else doubleFrom floor .none (c :: fold.reversed ++ text) .empty r (p.step c)

namespace Input

/-- The text of a scalar together with the input after it. -/
def withText (i : Input) : List Char × List Char × Place → List Char × Input
  | (text, rest, place) => (text, { i with rest := rest, place := place })

/-- A plain scalar. -/
def plain? (i : Input) (flow : Bool) (floor : Nat) : Option (List Char × Input) :=
  (plainFrom flow floor [] .empty false i.rest i.place).map i.withText

/-- The scalar after a single quote. -/
def single? (i : Input) (floor : Nat) : Option (List Char × Input) :=
  (singleFrom floor [] .empty i.rest i.place).map i.withText

/-- The scalar after a double quote. -/
def double? (i : Input) (floor : Nat) : Option (List Char × Input) :=
  (doubleFrom floor .none [] .empty i.rest i.place).map i.withText

end Input

end Twisty.Yaml
