import Twisty.Notation
import Twisty.Proofs.Notation.Canonical

/-!
# Inverting the text of an algorithm

The canonical text of moves of the puzzle, joined by single spaces (`Move.renderAll`), is read as
these moves and without a report (`Notation.algorithm_renderAll`): no canonical text is empty or
holds a blank, so that the words of the joined text are the texts that were joined
(`Text.words_unwords`). What `invertAlgorithm` writes is of that kind
(`Notation.invertAlgorithm_value`). Its moves are therefore the inverses of the moves of the given
text, from the last to the first (`Notation.algorithm_invertAlgorithm`), whatever words the given
text holds besides them. Inverting twice is therefore a normal form of the text
(`Notation.inverting_twice_normalizes`).
-/

namespace Twisty

open Text

namespace Text

/-- A text without blanks is a single word, if it is not empty. -/
theorem words_eq_singleton {w : List Char} (hne : w ≠ []) (h : ∀ c ∈ w, isBlank c = false) :
    words w = [w] := by
  rw [words, List.splitOnP_eq_singleton h]
  simp [hne]

/-- Words that are joined by spaces are the words of the joined text. -/
theorem words_unwords {ws : List (List Char)}
    (h : ∀ w ∈ ws, w ≠ [] ∧ ∀ c ∈ w, isBlank c = false) : words (unwords ws) = ws := by
  induction ws with
  | nil => rfl
  | cons w ws ih =>
    obtain ⟨hw, hws⟩ := List.forall_mem_cons.1 h
    have hword : words w = [w] := words_eq_singleton hw.1 hw.2
    -- A space stands only before another word, so the last word is a case of its own.
    cases ws with
    | nil => rwa [unwords_singleton]
    | cons v vs =>
      rw [unwords_cons_of_ne_nil w (List.cons_ne_nil v vs), words_append_cons (by decide), hword,
        ih hws]
      rfl

end Text

/-- The canonical text of a list of moves. -/
def Move.renderAll (moves : List Move) : List Char :=
  unwords (moves.map Move.render)

/-- The words of the canonical text of moves are the canonical texts of the moves. -/
theorem Move.words_renderAll (moves : List Move) :
    words (Move.renderAll moves) = moves.map Move.render := by
  refine words_unwords ?_
  intro w hw
  obtain ⟨m, -, rfl⟩ := List.mem_map.1 hw
  exact ⟨m.render_ne_nil, m.not_isBlank_of_mem_render⟩

namespace Notation

variable {n : Notation} {token : List Char} {m : Move}

/-- A token that names a move is read without a report. -/
theorem move?_eq_of_ok (h : n.move token = .ok m) : n.move? token = ⟨some m, []⟩ := by
  rw [move?, h]

/-- A token that names a move is one more move. -/
theorem moves_cons_of_ok (h : n.move token = .ok m) (tokens : List (List Char)) :
    n.moves (token :: tokens) = m :: n.moves tokens := by
  have hread : (n.move? token).value = some m := by rw [move?_eq_of_ok h]
  exact List.filterMap_cons_some (f := fun t => (n.move? t).value) hread

/-- A token that names no move is left out. -/
theorem moves_cons_of_error {e : MoveError} (h : n.move token = .error e)
    (tokens : List (List Char)) : n.moves (token :: tokens) = n.moves tokens := by
  have hread : (n.move? token).value = none := by rw [move?, h]
  exact List.filterMap_cons_none (f := fun t => (n.move? t).value) hread

/-- The moves that tokens name are moves of the puzzle. -/
theorem isOn_of_mem_moves {tokens : List (List Char)} (h : m ∈ n.moves tokens) :
    m.IsOn n.table := by
  induction tokens with
  | nil => cases h
  | cons t ts ih =>
    cases hm : n.move t with
    | error e =>
      rw [moves_cons_of_error hm] at h
      exact ih h
    | ok m' =>
      rw [moves_cons_of_ok hm] at h
      rcases List.mem_cons.1 h with rfl | h
      · exact Move.IsOn.of_parse hm
      · exact ih h

/-- The canonical texts of moves of the puzzle name those moves. -/
theorem moves_map_render {ms : List Move} (h : ∀ m ∈ ms, m.IsOn n.table) :
    n.moves (ms.map Move.render) = ms := by
  induction ms with
  | nil => rfl
  | cons m ms ih =>
    obtain ⟨hm, hms⟩ := List.forall_mem_cons.1 h
    rw [List.map_cons, moves_cons_of_ok hm.parse_render, ih hms]

/-- The canonical text of moves of the puzzle is read as these moves, without a report. -/
theorem algorithm_renderAll {ms : List Move} (h : ∀ m ∈ ms, m.IsOn n.table) :
    n.algorithm (Move.renderAll ms) = ⟨ms, []⟩ := by
  have hrecords : (ms.map Move.render).flatMap (fun t => (n.move? t).records) = [] := by
    rw [List.flatMap_eq_nil_iff]
    intro t ht
    obtain ⟨m, hm, rfl⟩ := List.mem_map.1 ht
    rw [move?_eq_of_ok (h m hm).parse_render]
  rw [algorithm, Move.words_renderAll, moves_map_render h, hrecords]

/-- The inverses that are written for tokens are those of the moves that the tokens name. -/
theorem filter_invert (n : Notation) (tokens : List (List Char)) :
    ((tokens.map fun t => (n.invert t).value).filter fun s => !s.isEmpty) =
      ((n.moves tokens).map Move.inverse).map Move.render := by
  induction tokens with
  | nil => rfl
  | cons t ts ih =>
    cases hm : n.move t with
    | error e =>
      have hinvert : (n.invert t).value = [] := by rw [invert, move?, hm]
      rw [List.map_cons, hinvert, moves_cons_of_error hm]
      exact ih
    | ok m =>
      have hinvert : (n.invert t).value = m.inverse.render := by rw [invert, move?_eq_of_ok hm]
      rw [List.map_cons, hinvert, moves_cons_of_ok hm,
        List.filter_cons_of_pos (by simp [m.inverse.render_ne_nil]), ih]
      rfl

/-- The inverse of a text is the canonical text of the inverses of its moves, from the last to the
first. -/
theorem invertAlgorithm_value (n : Notation) (text : List Char) :
    (n.invertAlgorithm text).value =
      Move.renderAll ((n.algorithm text).value.reverse.map Move.inverse) := by
  have hreverse : n.moves (words text).reverse = (n.algorithm text).value.reverse :=
    List.filterMap_reverse
  rw [invertAlgorithm, Move.renderAll, ← hreverse, ← filter_invert]

/-- The inverse of a text is read as the inverses of its moves, from the last to the first, and
without a report. -/
theorem algorithm_invertAlgorithm (n : Notation) (text : List Char) :
    n.algorithm (n.invertAlgorithm text).value =
      ⟨(n.algorithm text).value.reverse.map Move.inverse, []⟩ := by
  rw [invertAlgorithm_value]
  refine algorithm_renderAll ?_
  intro m hm
  obtain ⟨m', hm', rfl⟩ := List.mem_map.1 hm
  exact (isOn_of_mem_moves (List.mem_reverse.1 hm')).inverse

/-- The text that inverting an algorithm twice gives. -/
def invertTwice (n : Notation) (text : List Char) : List Char :=
  (n.invertAlgorithm (n.invertAlgorithm text).value).value

/-- Inverting twice gives the canonical text of the moves. -/
theorem invertTwice_eq (n : Notation) (text : List Char) :
    n.invertTwice text = Move.renderAll (n.algorithm text).value := by
  have hmoves : ((n.algorithm text).value.reverse.map Move.inverse).reverse.map Move.inverse =
      (n.algorithm text).value := by
    have hself : Move.inverse ∘ Move.inverse = id := funext Move.inverse_inverse
    rw [List.map_reverse, List.map_map, hself, List.map_id, List.reverse_reverse]
  rw [invertTwice, invertAlgorithm_value, algorithm_invertAlgorithm, hmoves]

/-- The canonical text that inverting twice gives is read as the moves of the text, without a
report. -/
theorem algorithm_invertTwice (n : Notation) (text : List Char) :
    n.algorithm (n.invertTwice text) = ⟨(n.algorithm text).value, []⟩ := by
  rw [invertTwice_eq]
  exact algorithm_renderAll fun m hm => isOn_of_mem_moves hm

/-- The inverse of a text is read without a report as the inverses of its moves, from the last to
the first. Inverting twice gives the canonical texts of the moves with single spaces between them,
and inverting that twice changes nothing any more. -/
theorem inverting_twice_normalizes (n : Notation) (text : List Char) :
    n.algorithm (n.invertAlgorithm text).value =
        ⟨(n.algorithm text).value.reverse.map Move.inverse, []⟩ ∧
      n.invertTwice text = unwords ((n.algorithm text).value.map Move.render) ∧
      n.invertTwice (n.invertTwice text) = n.invertTwice text := by
  refine ⟨n.algorithm_invertAlgorithm text, n.invertTwice_eq text, ?_⟩
  calc n.invertTwice (n.invertTwice text)
      = Move.renderAll (n.algorithm (n.invertTwice text)).value := n.invertTwice_eq _
    _ = Move.renderAll (n.algorithm text).value := by rw [algorithm_invertTwice]
    _ = n.invertTwice text := (n.invertTwice_eq text).symm

end Notation

end Twisty
