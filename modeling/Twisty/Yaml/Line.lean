/-!
# Flat documents

A flat document is a list of lines. Each is a comment, or it sets a key to a value on the same line.
-/

namespace Twisty.Yaml

/-- A line of a flat document. -/
inductive Line where
  /-- A comment, with the text behind its mark. -/
  | comment (text : List Char)
  | entry (key value : List Char)
deriving DecidableEq

namespace Line

/-- The text of a line. -/
def render : Line → List Char
  | comment text => '#' :: text ++ ['\n']
  | entry key value => key ++ ':' :: ' ' :: value ++ ['\n']

/-- The key and the value of a line that is no comment. -/
def entry? : Line → Option (List Char × List Char)
  | comment _ => none
  | entry key value => some (key, value)

end Line

/-- The characters of a word: letters, digits and underscores. -/
def isWordChar (c : Char) : Bool :=
  c.isAlphanum || c = '_'

/-- One or more characters of a word. -/
structure IsWord (w : List Char) : Prop where
  ne_nil : w ≠ []
  chars : ∀ c ∈ w, isWordChar c = true

instance (w : List Char) : Decidable (IsWord w) :=
  decidable_of_iff (w ≠ [] ∧ w.all isWordChar = true)
    ⟨fun h => ⟨h.1, List.all_eq_true.1 h.2⟩, fun h => ⟨h.ne_nil, List.all_eq_true.2 h.chars⟩⟩

/-- The characters of a comment: those of ASCII that can be printed. -/
def isCommentChar (c : Char) : Bool :=
  ' ' ≤ c && c ≤ '~'

/-- A line that is easily read: a comment in ASCII, or a word for a key and a word for its value. -/
inductive Line.IsPlain : Line → Prop
  | comment {text : List Char} (h : ∀ c ∈ text, isCommentChar c = true) : IsPlain (.comment text)
  | entry {key value : List Char} (hkey : IsWord key) (hvalue : IsWord value) :
    IsPlain (.entry key value)

instance (l : Line) : Decidable l.IsPlain :=
  match l with
  | .comment text => decidable_of_iff (text.all isCommentChar = true)
    ⟨fun h => .comment (List.all_eq_true.1 h), fun | .comment h => List.all_eq_true.2 h⟩
  | .entry key value => decidable_of_iff (IsWord key ∧ IsWord value)
    ⟨fun h => .entry h.1 h.2, fun | .entry hkey hvalue => ⟨hkey, hvalue⟩⟩

/-- The text of a flat document. -/
def renderLines (lines : List Line) : List Char :=
  lines.flatMap Line.render

theorem renderLines_comment (text : List Char) (lines : List Line) :
    renderLines (.comment text :: lines) = '#' :: (text ++ '\n' :: renderLines lines) := by
  simp [renderLines, Line.render]

theorem renderLines_entry (key value : List Char) (lines : List Line) :
    renderLines (.entry key value :: lines) =
      key ++ ':' :: ' ' :: (value ++ '\n' :: renderLines lines) := by
  simp [renderLines, Line.render]

/-- What a flat document sets, in order. -/
def lineEntries (lines : List Line) : List (List Char × List Char) :=
  lines.filterMap Line.entry?

theorem lineEntries_entry (key value : List Char) (lines : List Line) :
    lineEntries (.entry key value :: lines) = (key, value) :: lineEntries lines :=
  rfl

end Twisty.Yaml
