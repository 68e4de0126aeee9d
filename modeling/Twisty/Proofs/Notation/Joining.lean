import Twisty.Proofs.Notation.Diagnostics
import Twisty.Proofs.Notation.Pieces

/-!
# Texts joined by blanks

What is read of a text are its words, and blanks between two texts keep the words of the one from
those of the other (`Text.words_append_gap`). So the readers of algorithms take the two texts one
after the other: the lenient one has the moves and the reports of both
(`Notation.algorithm_append`), the strict one the moves of both unless one of them is refused
(`Notation.algorithmStrict_append`), and the inverter writes the second in front of the first
(`Notation.invertAlgorithm_append`).

Arguments that are joined by spaces are such texts, and their words are those of each argument
(`Text.words_unwords_eq_flatMap`).
-/

namespace Twisty

open Text

namespace Text

/-- Blanks between two texts separate the words of the one from those of the other. -/
theorem words_append_gap {gap : List Char} (hne : gap ≠ []) (hgap : ∀ c ∈ gap, isBlank c = true)
    (a b : List Char) : words (a ++ gap ++ b) = words a ++ words b := by
  obtain ⟨c, rest, rfl⟩ := List.exists_cons_of_ne_nil hne
  obtain ⟨hc, hrest⟩ := List.forall_mem_cons.1 hgap
  have hb : words (rest ++ b) = words b := by
    rw [words_append fun d hd _ _ => .inl (hrest d (List.mem_of_mem_getLast? hd)),
      words_eq_nil hrest, List.nil_append]
  rw [List.append_assoc, List.cons_append, words_append_cons hc, hb]

/-- The words of texts that are joined by spaces are those of the texts. -/
theorem words_unwords_eq_flatMap (texts : List (List Char)) :
    words (unwords texts) = texts.flatMap words := by
  induction texts with
  | nil => rfl
  | cons t ts ih =>
    -- A space stands only before another text, so the last text is a case of its own.
    cases ts with
    | nil => rw [unwords_singleton, List.flatMap_singleton]
    | cons u us =>
      rw [unwords_cons_of_ne_nil t (List.cons_ne_nil u us), words_append_cons (by decide), ih]
      rfl

/-- Two texts with a space between them, or only the one that is not empty. -/
def spaced (a b : List Char) : List Char :=
  if a = [] then b else if b = [] then a else a ++ ' ' :: b

/-- Words that are joined make no empty text. -/
theorem unwords_ne_nil {w : List Char} (h : w ≠ []) (ws : List (List Char)) :
    unwords (w :: ws) ≠ [] := by
  cases ws with
  | nil => rwa [unwords_singleton]
  | cons v vs =>
    rw [unwords_cons_of_ne_nil w (List.cons_ne_nil v vs)]
    exact List.append_ne_nil_of_right_ne_nil w (List.cons_ne_nil _ _)

/-- Words are joined to more words by one more space. -/
theorem unwords_append_of_ne_nil {ws vs : List (List Char)} (hws : ws ≠ []) (hvs : vs ≠ []) :
    unwords (ws ++ vs) = unwords ws ++ ' ' :: unwords vs := by
  induction ws with
  | nil => exact absurd rfl hws
  | cons w ws ih =>
    rw [List.cons_append, unwords_cons_of_ne_nil w (List.append_ne_nil_of_right_ne_nil ws hvs)]
    cases ws with
    | nil => rw [List.nil_append, unwords_singleton]
    | cons u us =>
      have hne : u :: us ≠ [] := List.cons_ne_nil u us
      rw [ih hne, unwords_cons_of_ne_nil w hne, List.append_assoc, List.cons_append]

/-- Words are joined to more words by one more space, unless there are none on one side. -/
theorem unwords_append {ws vs : List (List Char)} (hws : ∀ w ∈ ws, w ≠ [])
    (hvs : ∀ v ∈ vs, v ≠ []) : unwords (ws ++ vs) = spaced (unwords ws) (unwords vs) := by
  cases ws with
  | nil => rfl
  | cons w ws =>
    have hleft : unwords (w :: ws) ≠ [] := unwords_ne_nil (hws w (List.mem_cons_self ..)) ws
    rw [spaced, if_neg hleft]
    cases vs with
    | nil => rw [List.append_nil]; rfl
    | cons v vs =>
      have hright : unwords (v :: vs) ≠ [] := unwords_ne_nil (hvs v (List.mem_cons_self ..)) vs
      rw [if_neg hright]
      exact unwords_append_of_ne_nil (List.cons_ne_nil w ws) (List.cons_ne_nil v vs)

end Text

/-- Moves of two lists are written one after the other, with a space between them if there are moves
in both. -/
theorem Move.renderAll_append (ms ms' : List Move) :
    renderAll (ms ++ ms') = spaced (renderAll ms) (renderAll ms') := by
  have hrender : ∀ ms : List Move, ∀ w ∈ ms.map render, w ≠ [] := by
    intro ms w hw
    obtain ⟨m, -, rfl⟩ := List.mem_map.1 hw
    exact m.render_ne_nil
  rw [renderAll, List.map_append]
  exact unwords_append (hrender ms) (hrender ms')

namespace Notation

/-- What is read strictly of two texts together: the moves of both, or else the errors of both. -/
def bothRead : Except (List MoveError) (List Move) → Except (List MoveError) (List Move) →
    Except (List MoveError) (List Move)
  | .ok ms, .ok ms' => .ok (ms ++ ms')
  | .ok _, .error es => .error es
  | .error es, .ok _ => .error es
  | .error es, .error es' => .error (es ++ es')

variable (n : Notation) {gap : List Char} (hne : gap ≠ []) (hgap : ∀ c ∈ gap, isBlank c = true)
  (a b : List Char)

/-- The moves of more tokens are more moves. -/
theorem moves_append (tokens tokens' : List (List Char)) :
    n.moves (tokens ++ tokens') = n.moves tokens ++ n.moves tokens' :=
  List.filterMap_append

/-- The errors of more tokens are more errors. -/
theorem errors_append (tokens tokens' : List (List Char)) :
    n.errors (tokens ++ tokens') = n.errors tokens ++ n.errors tokens' :=
  List.filterMap_append

include hne hgap

/-- An algorithm is read leniently as the texts that it is joined from, one after the other. -/
theorem algorithm_append :
    n.algorithm (a ++ gap ++ b) = ⟨(n.algorithm a).value ++ (n.algorithm b).value,
      (n.algorithm a).records ++ (n.algorithm b).records⟩ := by
  simp only [algorithm]
  rw [words_append_gap hne hgap, moves_append, List.flatMap_append]

/-- An algorithm is read strictly as the texts that it is joined from, one after the other, and
refused if one of them is. -/
theorem algorithmStrict_append :
    n.algorithmStrict (a ++ gap ++ b) = bothRead (n.algorithmStrict a) (n.algorithmStrict b) := by
  simp only [algorithmStrict_eq, algorithm]
  rw [words_append_gap hne hgap, moves_append, errors_append]
  cases n.errors (words a) <;> cases n.errors (words b) <;> simp [bothRead]

/-- The inverse of an algorithm is that of the second of the texts that it is joined from, and then
that of the first. -/
theorem invertAlgorithm_append :
    n.invertAlgorithm (a ++ gap ++ b) =
      ⟨spaced (n.invertAlgorithm b).value (n.invertAlgorithm a).value,
        (n.invertAlgorithm b).records ++ (n.invertAlgorithm a).records⟩ := by
  have hvalue : (n.invertAlgorithm (a ++ gap ++ b)).value =
      spaced (n.invertAlgorithm b).value (n.invertAlgorithm a).value := by
    simp only [invertAlgorithm_value]
    rw [algorithm_append n hne hgap, List.reverse_append, List.map_append, Move.renderAll_append]
  have hrecords : (n.invertAlgorithm (a ++ gap ++ b)).records =
      (n.invertAlgorithm b).records ++ (n.invertAlgorithm a).records := by
    simp only [invertAlgorithm_records]
    rw [words_append_gap hne hgap, errors_append, List.map_append, List.reverse_append]
  rw [← hvalue, ← hrecords]

end Notation

end Twisty
