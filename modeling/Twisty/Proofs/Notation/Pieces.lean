import Twisty.Notation

/-!
# Texts in pieces

A text that is cut where there is a blank on one side or the other loses none of its words, and none
is split (`Text.words_append`). Nor does it matter whether the blanks are left at the ends of the
pieces or dropped from between them (`Text.CutAtBlanks`). The words of the text are those of its
pieces, one after the other (`Text.CutAtBlanks.words_eq`), and so are the moves that it names as an
algorithm (`Notation.algorithm_value_eq_flatMap`).
-/

namespace Twisty

namespace Text

@[simp]
theorem words_nil : words [] = [] :=
  rfl

/-- Blanks alone hold no word. -/
theorem words_eq_nil {s : List Char} (h : ∀ c ∈ s, isBlank c = true) : words s = [] := by
  induction s with
  | nil => rfl
  | cons c s ih =>
    obtain ⟨hc, hs⟩ := List.forall_mem_cons.1 h
    rw [← ih hs]
    exact words_append_cons hc [] s

/-- Two texts have no word together that neither has alone, if the first ends or the second begins
with a blank, or if one of them is empty. -/
theorem words_append {a b : List Char}
    (h : ∀ c ∈ a.getLast?, ∀ d ∈ b.head?, isBlank c = true ∨ isBlank d = true) :
    words (a ++ b) = words a ++ words b := by
  rcases List.eq_nil_or_concat a with rfl | ⟨a, c, rfl⟩
  · rfl
  cases b with
  | nil => rw [List.append_nil, words_nil, List.append_nil]
  | cons d b =>
    -- The blank separates, whichever side of the cut it is on, and is no part of a word itself.
    rcases h c (by simp) d rfl with hc | hd
    · have hlast : words (a.concat c) = words a := by
        rw [List.concat_eq_append, words_append_cons hc, words_nil, List.append_nil]
      calc words (a.concat c ++ d :: b) = words (a ++ c :: d :: b) := by
            rw [List.concat_eq_append, List.append_assoc, List.singleton_append]
        _ = words (a.concat c) ++ words (d :: b) := by rw [words_append_cons hc, hlast]
    · have hfirst : words (d :: b) = words b := words_append_cons hd [] b
      rw [words_append_cons hd, hfirst]

/-- A text cut at blanks into pieces. Blanks may be left at the ends of a piece or dropped, and
pieces may be empty, but no cut is between two characters that are not blank. -/
inductive CutAtBlanks : List Char → List (List Char) → Prop
  /-- Nothing is left but blanks. -/
  | nil {gap : List Char} (hgap : ∀ c ∈ gap, isBlank c = true) : CutAtBlanks gap []
  /-- After some blanks, the next piece is cut off from the rest. -/
  | cons {gap piece rest : List Char} {pieces : List (List Char)}
      (hgap : ∀ c ∈ gap, isBlank c = true)
      (hcut : ∀ c ∈ piece.getLast?, ∀ d ∈ rest.head?, isBlank c = true ∨ isBlank d = true)
      (hrest : CutAtBlanks rest pieces) : CutAtBlanks (gap ++ (piece ++ rest)) (piece :: pieces)

/-- The words of a text are those of its pieces. -/
theorem CutAtBlanks.words_eq {text : List Char} {pieces : List (List Char)}
    (h : CutAtBlanks text pieces) : words text = pieces.flatMap words := by
  induction h with
  | nil hgap => exact words_eq_nil hgap
  | @cons gap piece rest pieces hgap hcut hrest ih =>
    have hblank : ∀ c ∈ gap.getLast?, ∀ d ∈ (piece ++ rest).head?,
        isBlank c = true ∨ isBlank d = true :=
      fun c hc _ _ => .inl (hgap c (List.mem_of_mem_getLast? hc))
    calc words (gap ++ (piece ++ rest)) = words gap ++ words (piece ++ rest) := words_append hblank
      _ = words piece ++ words rest := by
        rw [words_eq_nil hgap, List.nil_append, words_append hcut]
      _ = (piece :: pieces).flatMap words := by rw [ih, List.flatMap_cons]

end Text

/-- The moves of an algorithm are those of its pieces. -/
theorem Notation.algorithm_value_eq_flatMap (n : Notation) {text : List Char}
    {pieces : List (List Char)} (h : Text.CutAtBlanks text pieces) :
    (n.algorithm text).value = pieces.flatMap fun piece => (n.algorithm piece).value := by
  unfold algorithm moves
  rw [h.words_eq]
  exact List.filterMap_flatMap ..

end Twisty
