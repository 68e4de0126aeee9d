import Mathlib.Data.List.Basic
import Twisty.Proofs.Notation.Inversion
import Twisty.Query

/-!
# What reading an algorithm reports

Reading an algorithm sorts its words into those that name a move and those that do not
(`Notation.map_move_filter_isOk`, `Notation.map_move_filter_not_isOk`). The lenient reader keeps the
moves and reports the errors, one record each (`Notation.flatMap_records`). The strict reader gives
the errors instead, if there are any, and otherwise the same moves (`Notation.algorithmStrict_eq`).
So the two agree on every text, and the inverter, which takes the words from the last to the first,
reports the same in reverse (`Notation.lenient_and_strict_agree`).

A word has a character that is not blank, so that it is never refused as empty
(`Notation.empty_not_mem_errors_words`).
-/

namespace Twisty

open Text

/-! ### Empty tokens -/

/-- Only a token without characters has no parts. -/
theorem Spelling.ofToken_eq_empty_iff {token : List Char} :
    ofToken token = .empty ↔ token = [] := by
  cases token with
  | nil => exact ⟨fun _ => rfl, fun _ => rfl⟩
  | cons c r =>
    refine ⟨fun h => ?_, nofun⟩
    simp only [ofToken] at h
    split at h
    · unfold ofCounted at h
      split at h
      · split at h <;> cases h
      · cases h
    · split at h <;> cases h

/-- Parts that are refused as empty are none. -/
theorem Spelling.resolve_eq_error_empty_iff {table : MoveTable} {token : List Char}
    {spelling : Spelling} : spelling.resolve table token = .error .empty ↔ spelling = .empty := by
  have hsuffix : ∀ suffix, Modifier.ofSuffix token suffix ≠ .error .empty := by
    intro suffix h
    unfold Modifier.ofSuffix at h
    split at h <;> cases h
  have hturn : ∀ b, table.turn token b ≠ .error .empty := by
    intro b h
    unfold MoveTable.turn at h
    split at h <;> cases h
  constructor
  · intro h
    cases spelling with
    | empty => rfl
    | countedOther => cases h
    | counted digits f wide suffix =>
      simp only [resolve] at h
      split at h
      · rcases bind_eq_error_iff.1 h with h | ⟨modifier, -, h⟩
        · exact absurd h (hsuffix suffix)
        · cases h
      · cases h
    | named text suffix =>
      simp only [resolve] at h
      split at h
      · cases h
      · next b _ =>
        rcases bind_eq_error_iff.1 h with h | ⟨turn, -, h⟩
        · exact absurd h (hturn b)
        · rcases bind_eq_error_iff.1 h with h | ⟨modifier, -, h⟩
          · exact absurd h (hsuffix suffix)
          · cases h
  · rintro rfl
    rfl

/-- A token is refused as empty if it holds nothing but blanks. -/
theorem Move.parse_eq_error_empty_iff {table : MoveTable} {token : List Char} :
    parse table token = .error .empty ↔ strip token = [] :=
  Spelling.resolve_eq_error_empty_iff.trans Spelling.ofToken_eq_empty_iff

namespace Notation

/-! ### Warnings -/

/-- A token is skipped with a warning, if at all. -/
theorem level_of_mem_move? {n : Notation} {token : List Char} {r : LogRecord}
    (h : r ∈ (n.move? token).records) : r.level = .warn := by
  unfold move? at h
  split at h
  · cases h
  · rw [List.mem_singleton.1 h]
    rfl

/-- The words of an algorithm that are not moves are skipped with a warning. -/
theorem level_of_mem_algorithm {n : Notation} {text : List Char} {r : LogRecord}
    (h : r ∈ (n.algorithm text).records) : r.level = .warn := by
  obtain ⟨token, -, hr⟩ := List.mem_flatMap.1 h
  exact level_of_mem_move? hr

/-! ### Moves and errors of words -/

/-- A token that names a move is no further error. -/
theorem errors_cons_of_ok {n : Notation} {token : List Char} {m : Move} (h : n.move token = .ok m)
    (tokens : List (List Char)) : n.errors (token :: tokens) = n.errors tokens := by
  rw [errors, List.filterMap_cons, h]
  rfl

/-- A token that names no move is one more error. -/
theorem errors_cons_of_error {n : Notation} {token : List Char} {e : MoveError}
    (h : n.move token = .error e) (tokens : List (List Char)) :
    n.errors (token :: tokens) = e :: n.errors tokens := by
  rw [errors, List.filterMap_cons, h]
  rfl

/-- There is no error if all tokens are moves. -/
theorem errors_eq_nil_iff {n : Notation} {tokens : List (List Char)} :
    n.errors tokens = [] ↔ ∀ t ∈ tokens, ∃ m, n.move t = .ok m := by
  rw [errors, List.filterMap_eq_nil_iff]
  refine forall₂_congr fun t _ => ?_
  cases n.move t <;> simp

/-- There is an error if one of the tokens is no move. -/
theorem errors_ne_nil_of_mem {n : Notation} {tokens : List (List Char)} {token : List Char}
    {e : MoveError} (ht : token ∈ tokens) (he : n.move token = .error e) : n.errors tokens ≠ [] :=
  List.ne_nil_of_mem (List.mem_filterMap.2 ⟨token, ht, by rw [he]⟩)

/-- An algorithm whose words are all moves is read strictly as it is read leniently. -/
theorem algorithmStrict_of_errors_eq_nil {n : Notation} {text : List Char}
    (h : n.errors (words text) = []) : n.algorithmStrict text = .ok (n.algorithm text).value := by
  rw [algorithmStrict_eq, if_pos h]

/-- An algorithm with other words is refused for all of them. -/
theorem algorithmStrict_of_errors_ne_nil {n : Notation} {text : List Char}
    (h : n.errors (words text) ≠ []) : n.algorithmStrict text = .error (n.errors (words text)) := by
  rw [algorithmStrict_eq, if_neg h]

variable (n : Notation)

/-- The moves of a list of tokens are those that its tokens name, in order. -/
theorem map_move_filter_isOk (tokens : List (List Char)) :
    (tokens.filter fun t => (n.move t).isOk).map n.move = (n.moves tokens).map .ok := by
  induction tokens with
  | nil => rfl
  | cons t ts ih =>
    cases hm : n.move t with
    | ok m =>
      rw [List.filter_cons_of_pos (by rw [hm]; rfl), List.map_cons, hm, ih, moves_cons_of_ok hm,
        List.map_cons]
    | error e =>
      rw [List.filter_cons_of_neg (by rw [hm]; exact Bool.false_ne_true), ih,
        moves_cons_of_error hm]

/-- The errors of a list of tokens are those of its other tokens, in order. -/
theorem map_move_filter_not_isOk (tokens : List (List Char)) :
    (tokens.filter fun t => !(n.move t).isOk).map n.move = (n.errors tokens).map .error := by
  induction tokens with
  | nil => rfl
  | cons t ts ih =>
    cases hm : n.move t with
    | ok m =>
      rw [List.filter_cons_of_neg (by rw [hm]; exact Bool.false_ne_true), ih, errors_cons_of_ok hm]
    | error e =>
      rw [List.filter_cons_of_pos (by rw [hm]; rfl), List.map_cons, hm, ih,
        errors_cons_of_error hm, List.map_cons]

/-- Every token is a move or an error. -/
theorem length_moves_add_length_errors (tokens : List (List Char)) :
    (n.moves tokens).length + (n.errors tokens).length = tokens.length := by
  have hmoves := congrArg List.length (n.map_move_filter_isOk tokens)
  have herrors := congrArg List.length (n.map_move_filter_not_isOk tokens)
  rw [List.length_map, List.length_map] at hmoves herrors
  rw [← hmoves, ← herrors, ← List.length_eq_length_filter_add]

/-- No word is refused as empty. -/
theorem empty_not_mem_errors_words (text : List Char) : .empty ∉ n.errors (words text) := by
  intro h
  obtain ⟨t, ht, he⟩ := List.mem_filterMap.1 h
  split at he
  · cases he
  · next e hm =>
    cases he
    have hstrip : strip t = [] := Move.parse_eq_error_empty_iff.1 hm
    rw [strip_of_mem_words ht] at hstrip
    exact ne_nil_of_mem_words ht hstrip

/-! ### Reports -/

/-- Each error is reported once, in order. -/
theorem flatMap_records (tokens : List (List Char)) :
    (tokens.flatMap fun t => (n.move? t).records) = (n.errors tokens).map .rejected := by
  induction tokens with
  | nil => rfl
  | cons t ts ih =>
    cases hm : n.move t with
    | ok m =>
      rw [List.flatMap_cons, move?_eq_of_ok hm, errors_cons_of_ok hm, ih]
      rfl
    | error e =>
      have hread : n.move? t = ⟨none, [.rejected e]⟩ := by rw [move?, hm]
      rw [List.flatMap_cons, hread, errors_cons_of_error hm, ih]
      rfl

/-- Reading an algorithm leniently reports the errors of its words. -/
theorem algorithm_records (text : List Char) :
    (n.algorithm text).records = (n.errors (words text)).map .rejected :=
  n.flatMap_records (words text)

/-- Inverting a token reports what reading it reports. -/
theorem invert_records (token : List Char) :
    (n.invert token).records = (n.move? token).records := by
  unfold invert
  split <;> simp [*]

/-- Inverting an algorithm reports the errors of its words from the last to the first. -/
theorem invertAlgorithm_records (text : List Char) :
    (n.invertAlgorithm text).records = ((n.errors (words text)).map .rejected).reverse := by
  have hreverse : n.errors (words text).reverse = (n.errors (words text)).reverse :=
    List.filterMap_reverse
  have hinvert : (fun t => (n.invert t).records) = fun t => (n.move? t).records :=
    funext n.invert_records
  calc (n.invertAlgorithm text).records
      = (words text).reverse.flatMap fun t => (n.invert t).records := rfl
    _ = (n.errors (words text).reverse).map .rejected := by rw [hinvert, flatMap_records]
    _ = ((n.errors (words text)).map .rejected).reverse := by rw [hreverse, List.map_reverse]

/-- The errors of a text are those of the words that name no move, in order, and none of them is
that of an empty token. Reading the text leniently gives the moves of the other words, in order, and
warns of each error. Reading it strictly gives these moves if there is no warning and the errors
otherwise, and reports nothing itself. Inverting the text warns of the same errors from the last to
the first. -/
theorem lenient_and_strict_agree (text : List Char) :
    ∃ es : List MoveError,
      (n.algorithm text).records.map (fun r => (r.level, r.message)) =
          es.map (fun e => (.warn, e.message)) ∧
        (∀ ms, n.algorithmStrict text = .ok ms ↔
          (n.algorithm text).records = [] ∧ ms = (n.algorithm text).value) ∧
        (∀ es', n.algorithmStrict text = .error es' ↔
          (n.algorithm text).records ≠ [] ∧ es' = es) ∧
        ((words text).filter fun t => (n.move t).isOk).map n.move =
          (n.algorithm text).value.map .ok ∧
        ((words text).filter fun t => !(n.move t).isOk).map n.move = es.map .error ∧
        (n.algorithm text).value.length + es.length = (words text).length ∧
        .empty ∉ es ∧
        (n.invertAlgorithm text).records = (n.algorithm text).records.reverse ∧
        (n.answer (.algorithmStrict text)).records = [] := by
  have hrecords : (n.algorithm text).records = [] ↔ n.errors (words text) = [] := by
    rw [algorithm_records, List.map_eq_nil_iff]
  refine ⟨n.errors (words text), ?_, ?_, ?_, n.map_move_filter_isOk _, n.map_move_filter_not_isOk _,
    n.length_moves_add_length_errors _, n.empty_not_mem_errors_words text, ?_, ?_⟩
  · rw [algorithm_records, List.map_map]
    rfl
  · intro ms
    rw [hrecords, algorithmStrict_eq]
    split
    · next h =>
      rw [and_iff_right h, Except.ok.injEq, eq_comm]
    · next h => exact ⟨nofun, fun ⟨hnil, _⟩ => absurd hnil h⟩
  · intro es'
    rw [Ne, hrecords, algorithmStrict_eq]
    split
    · next h => exact ⟨nofun, fun ⟨hne, _⟩ => absurd h hne⟩
    · next h =>
      rw [and_iff_right h, Except.error.injEq, eq_comm]
  · rw [invertAlgorithm_records, algorithm_records]
  · simp only [answer]
    split <;> rfl

end Notation

end Twisty
