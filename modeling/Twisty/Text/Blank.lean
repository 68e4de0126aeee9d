import Twisty.Text.Ranges

/-!
# Blanks

The characters that separate words are those with the Unicode property White_Space (`isBlank`).
`strip` takes them off both ends of a text, and `words` is the list of the maximal runs without a
blank. A word is never empty (`ne_nil_of_mem_words`), and no word holds a blank
(`not_isBlank_of_mem_words`), so that stripping leaves it as it is (`strip_of_mem_words`).
Everything about the words of a longer text follows from `words_append_cons`.
-/

namespace Twisty.Text

/-- The code points with the property White_Space. -/
def blankRanges : Ranges :=
  [(0x9, 0xd), (0x20, 0x20), (0x85, 0x85), (0xa0, 0xa0), (0x1680, 0x1680), (0x2000, 0x200a),
    (0x2028, 0x2029), (0x202f, 0x202f), (0x205f, 0x205f), (0x3000, 0x3000)]

/-- Blanks are the characters with the property White_Space. -/
def isBlank (c : Char) : Bool :=
  inRanges blankRanges c

/-- The text without the blanks at its start. -/
def stripStart (s : List Char) : List Char :=
  s.dropWhile isBlank

/-- The text without the blanks at its end. -/
def stripEnd (s : List Char) : List Char :=
  (s.reverse.dropWhile isBlank).reverse

/-- The text without the blanks at its two ends. -/
def strip (s : List Char) : List Char :=
  stripEnd (stripStart s)

/-- The maximal runs of characters that are not blank, in order. -/
def words (s : List Char) : List (List Char) :=
  (s.splitOnP isBlank).filter fun w => !w.isEmpty

/-- Words joined by single spaces. -/
def unwords (ws : List (List Char)) : List Char :=
  [' '].intercalate ws

@[simp]
theorem unwords_singleton (w : List Char) : unwords [w] = w :=
  List.intercalate_singleton

/-- A space stands between the first of some words and the others. -/
theorem unwords_cons_of_ne_nil (w : List Char) {ws : List (List Char)} (h : ws ≠ []) :
    unwords (w :: ws) = w ++ ' ' :: unwords ws := by
  rw [unwords, List.intercalate_cons_of_ne_nil h, List.append_assoc, List.singleton_append, unwords]

/-- A word is not empty. -/
theorem ne_nil_of_mem_words {s w : List Char} (h : w ∈ words s) : w ≠ [] := by
  have := (List.mem_filter.1 h).2
  simpa using this

/-- The pieces of a text that is split do not hold what it is split at. -/
theorem not_of_mem_splitOnP {p : Char → Bool} :
    ∀ {s w : List Char}, w ∈ s.splitOnP p → ∀ c ∈ w, p c = false
  | [], w, hw => by simp_all [List.splitOnP_nil]
  | x :: xs, w, hw => by
    rw [List.splitOnP_cons_eq_if_modifyHead] at hw
    split at hw
    · rcases List.mem_cons.1 hw with rfl | hw
      · simp
      · exact not_of_mem_splitOnP hw
    · next hx =>
      obtain ⟨r, rs, hr⟩ := List.exists_cons_of_ne_nil (List.splitOnP_ne_nil p xs)
      rw [hr, List.modifyHead_cons] at hw
      have hmem : ∀ v ∈ r :: rs, ∀ c ∈ v, p c = false := fun v hv =>
        not_of_mem_splitOnP (hr ▸ hv)
      rcases List.mem_cons.1 hw with rfl | hw
      · intro c hc
        rcases List.mem_cons.1 hc with rfl | hc
        · simpa using hx
        · exact hmem r (List.mem_cons_self ..) c hc
      · exact hmem w (List.mem_cons_of_mem _ hw)

/-- A word holds no blank. -/
theorem not_isBlank_of_mem_words {s w : List Char} (h : w ∈ words s) :
    ∀ c ∈ w, isBlank c = false :=
  not_of_mem_splitOnP (List.mem_filter.1 h).1

/-- A blank separates the words before it from the words after it. -/
theorem words_append_cons {c : Char} (hc : isBlank c = true) (a b : List Char) :
    words (a ++ c :: b) = words a ++ words b := by
  unfold words
  rw [List.splitOnP_append_cons a b hc, List.filter_append]

/-- A text that neither begins nor ends with a blank is left as it is. -/
theorem strip_eq_self_of_ends {s : List Char} (hfirst : ∀ c ∈ s.head?, isBlank c = false)
    (hlast : ∀ c ∈ s.getLast?, isBlank c = false) : strip s = s := by
  have hdrop : ∀ t : List Char, (∀ c ∈ t.head?, isBlank c = false) → t.dropWhile isBlank = t := by
    intro t ht
    cases t with
    | nil => rfl
    | cons c r => simp [ht c rfl]
  have hreverse : ∀ c ∈ s.reverse.head?, isBlank c = false := by
    rw [List.head?_reverse]
    exact hlast
  rw [strip, stripStart, hdrop s hfirst, stripEnd, hdrop s.reverse hreverse, List.reverse_reverse]

/-- A text without blanks is left as it is. -/
theorem strip_eq_self {s : List Char} (h : ∀ c ∈ s, isBlank c = false) : strip s = s :=
  strip_eq_self_of_ends (fun c hc => h c (List.mem_of_mem_head? hc))
    (fun c hc => h c (List.mem_of_getLast? hc))

/-- Taking off the blanks at the end leaves the blanks at the start and the stripped text. -/
theorem exists_stripEnd_eq (s : List Char) :
    ∃ blanks, (∀ c ∈ blanks, isBlank c = true) ∧ stripEnd s = blanks ++ strip s := by
  have hblanks : ∀ c ∈ s.takeWhile isBlank, isBlank c = true :=
    List.all_eq_true.1 List.all_takeWhile
  have hsplit : s.reverse = (stripStart s).reverse ++ (s.takeWhile isBlank).reverse := by
    rw [← List.reverse_append, stripStart, List.takeWhile_append_dropWhile]
  rw [stripEnd, hsplit, List.dropWhile_append]
  cases hrest : (stripStart s).reverse.dropWhile isBlank with
  -- A text of blanks has no end that would keep those at its start.
  | nil =>
    refine ⟨[], nofun, ?_⟩
    have hall : ((s.takeWhile isBlank).reverse ++ []).dropWhile isBlank = [] :=
      List.dropWhile_append_of_pos fun c hc => hblanks c (List.mem_reverse.1 hc)
    rw [List.append_nil] at hall
    rw [strip, stripEnd, hrest, List.isEmpty_nil, if_pos rfl, hall]
    rfl
  | cons c r =>
    refine ⟨s.takeWhile isBlank, hblanks, ?_⟩
    rw [strip, stripEnd, hrest, List.isEmpty_cons, if_neg Bool.false_ne_true, List.reverse_append,
      List.reverse_reverse]

/-- What follows a text without the blanks at its end is stripped as if it followed the stripped
text. -/
theorem strip_stripEnd_append (s t : List Char) :
    strip (stripEnd s ++ t) = strip (strip s ++ t) := by
  obtain ⟨blanks, hblanks, hs⟩ := exists_stripEnd_eq s
  have hdrop : stripStart (blanks ++ (strip s ++ t)) = stripStart (strip s ++ t) :=
    List.dropWhile_append_of_pos hblanks
  calc strip (stripEnd s ++ t)
      = stripEnd (stripStart (blanks ++ (strip s ++ t))) := by rw [hs, List.append_assoc, strip]
    _ = strip (strip s ++ t) := congrArg stripEnd hdrop

/-- A word is left as it is. -/
theorem strip_of_mem_words {s w : List Char} (h : w ∈ words s) : strip w = w :=
  strip_eq_self (not_isBlank_of_mem_words h)

end Twisty.Text
