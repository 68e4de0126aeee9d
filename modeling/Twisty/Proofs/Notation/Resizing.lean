import Mathlib.Data.Nat.Notation
import Twisty.Proofs.Notation.Diagnostics

/-!
# A notation after changes of size

A notation keeps the table of a size and builds it anew only if another size is set. Whether the
table is the right one is decided by the size alone, and so the table has to be that of its size at
all times. It is so in a new notation, and a question leaves it so (`Notation.after_ofSize`): one
that sets a size leaves a notation for that size, and every other one leaves the notation as it is.
After any questions, a notation is therefore a new one for the size that was set last
(`Notation.afterAll_ofSize`), which is all that the later answers depend on
(`Notation.converse_ofSize`).
-/

namespace Twisty

namespace Query

/-- The size that a question sets, if it sets one. -/
def size? : Query → Option PuzzleSize
  | .setSize count => (PuzzleSize.ofCount count).toOption
  | _ => none

/-- A size is set by the question for its layer count. -/
theorem size?_eq_some_iff {q : Query} {size : PuzzleSize} :
    q.size? = some size ↔ q = .setSize size.count := by
  constructor
  · intro h
    cases q with
    | setSize count =>
      cases hcount : PuzzleSize.ofCount count with
      | ok size' =>
        rw [size?, hcount] at h
        cases h
        rw [PuzzleSize.ofCount_eq_ok_iff.1 hcount]
      | error e =>
        rw [size?, hcount] at h
        cases h
    | _ => cases h
  · rintro rfl
    rw [size?, PuzzleSize.ofCount_eq_ok_iff.2 rfl]
    rfl

/-- The size after some questions: the last one that they set, or the one before them. -/
def lastSize (initial : PuzzleSize) (queries : List Query) : PuzzleSize :=
  (queries.filterMap size?).getLastD initial

/-- The first of some questions decides which size the others begin with. -/
theorem lastSize_cons (initial : PuzzleSize) (q : Query) (queries : List Query) :
    lastSize initial (q :: queries) = lastSize (q.size?.getD initial) queries := by
  unfold lastSize
  rw [List.filterMap_cons]
  cases q.size? with
  | none => rfl
  | some size => exact List.getLastD_cons

end Query

namespace Notation

/-- The notation after some questions put one after the other. -/
def afterAll (n : Notation) (queries : List Query) : Notation :=
  queries.foldl after n

/-- Setting a size gives a new notation for that size, and reports it if the size is another one. -/
theorem setSize_ofSize (size new : PuzzleSize) :
    (ofSize size).setSize new =
      ⟨(ofSize new, decide (new ≠ size)), if new = size then [] else [.generated new]⟩ := by
  by_cases h : new = size
  · subst h
    simp [setSize, Notation.size, ofSize, MoveTable.ofSize]
  · have hne : ¬ (ofSize size).size = new := fun heq => h heq.symm
    rw [setSize, if_neg hne, if_neg h, decide_eq_true h]

/-- A question leaves a notation for the size that it sets, or for the size before. -/
theorem after_ofSize (size : PuzzleSize) (q : Query) :
    (ofSize size).after q = ofSize (q.size?.getD size) := by
  unfold after
  cases q with
  | setSize count =>
    simp only [answer, Query.size?]
    cases PuzzleSize.ofCount count with
    | ok new =>
      show ((ofSize size).setSize new).value.1 = ofSize new
      rw [setSize_ofSize]
    | error e => rfl
  -- Every other question is answered by the notation as it is.
  | tryMove | move | algorithmStrict | expand | lookup =>
    simp only [answer]
    split <;> rfl
  | algorithm | names | invert | invertAlgorithm | table => rfl

/-- Some questions leave a notation for the size that was set last. -/
theorem afterAll_ofSize (initial : PuzzleSize) (queries : List Query) :
    (ofSize initial).afterAll queries = ofSize (Query.lastSize initial queries) := by
  induction queries generalizing initial with
  | nil => rfl
  | cons q queries ih =>
    rw [Query.lastSize_cons, ← ih, ← after_ofSize]
    rfl

/-- Each of some questions is answered by a new notation for the size that was set last before. -/
theorem converse_ofSize (initial : PuzzleSize) (queries : List Query) :
    (ofSize initial).converse queries =
      queries.mapIdx fun k q => (ofSize (Query.lastSize initial (queries.take k))).answer q := by
  induction queries generalizing initial with
  | nil => rfl
  | cons q queries ih =>
    rw [converse, after_ofSize, ih, List.mapIdx_cons]
    simp only [List.take_succ_cons, Query.lastSize_cons]
    rfl

/-! ### What is reported -/

/-- The question for the layer count of a size sets that size. -/
theorem answer_setSize (n : Notation) (new : PuzzleSize) :
    n.answer (.setSize new.count) =
      ⟨(.rebuilt (n.setSize new).value.2, (n.setSize new).value.1), (n.setSize new).records⟩ := by
  have hcount : PuzzleSize.ofCount new.count = .ok new := PuzzleSize.ofCount_eq_ok_iff.2 rfl
  simp only [answer, hcount]

/-- The answer to a change of size is whether it is one. -/
theorem answer_setSize_ofSize (size new : PuzzleSize) :
    (ofSize size).answer (.setSize new.count) =
      ⟨(.rebuilt (decide (new ≠ size)), ofSize new),
        if new = size then [] else [.generated new]⟩ := by
  rw [answer_setSize, setSize_ofSize]

/-- What setting a size reports is for debugging. -/
theorem level_of_mem_setSize {n : Notation} {new : PuzzleSize} {r : LogRecord}
    (h : r ∈ (n.setSize new).records) : r.level = .debug := by
  unfold setSize at h
  split at h
  · cases h
  · rw [List.mem_singleton.1 h]
    rfl

/-- Inverting a token warns of it, if it reports anything. -/
theorem level_of_mem_invert {n : Notation} {token : List Char} {r : LogRecord}
    (h : r ∈ (n.invert token).records) : r.level = .warn := by
  rw [invert_records] at h
  exact level_of_mem_move? h

/-- A question that sets no size is answered with warnings only. -/
theorem level_of_mem_answer {n : Notation} {q : Query} (hq : q.size? = none) {r : LogRecord}
    (h : r ∈ (n.answer q).records) : r.level = .warn := by
  cases q with
  | tryMove | algorithmStrict | expand | lookup =>
    simp only [answer] at h
    split at h <;> cases h
  | table => cases h
  | move token =>
    have hrecords : (n.answer (.move token)).records = (n.move? token).records := by
      simp only [answer]
      split <;> simp [*]
    rw [hrecords] at h
    exact level_of_mem_move? h
  | algorithm | names => exact level_of_mem_algorithm h
  | invert => exact level_of_mem_invert h
  | invertAlgorithm text =>
    obtain ⟨token, -, h⟩ := List.mem_flatMap.1 h
    exact level_of_mem_invert h
  | setSize count =>
    -- No size is set only if there is no puzzle of that size.
    simp only [answer] at h
    cases hcount : PuzzleSize.ofCount count with
    | ok size =>
      rw [Query.size?, hcount] at hq
      cases hq
    | error e =>
      rw [hcount] at h
      cases h

/-- That the table is built anew is reported exactly if another size is set. -/
theorem exists_debug_iff {size : PuzzleSize} {q : Query} :
    (∃ r ∈ ((ofSize size).answer q).records, r.level = .debug) ↔
      ∃ new : PuzzleSize, q = .setSize new.count ∧ new ≠ size := by
  constructor
  · rintro ⟨r, hr, hdebug⟩
    cases hq : q.size? with
    | none =>
      rw [level_of_mem_answer hq hr] at hdebug
      cases hdebug
    | some new =>
      obtain rfl := Query.size?_eq_some_iff.1 hq
      refine ⟨new, rfl, fun hnew => ?_⟩
      rw [answer_setSize_ofSize, if_pos hnew] at hr
      cases hr
  · rintro ⟨new, rfl, hnew⟩
    rw [answer_setSize_ofSize, if_neg hnew]
    exact ⟨.generated new, List.mem_singleton.2 rfl, rfl⟩

/-- After any questions in any order, changes of size among them, a notation is equal to a new one
for the size that was set last. Each question is answered, and reported on, as by a new one for the
size that was set last before it. Setting a size is answered by whether it is another one, and only
setting another one is reported as building the table anew. -/
theorem table_never_stale (initial : PuzzleSize) (queries : List Query) :
    let n := (ofSize initial).afterAll queries
    let size := Query.lastSize initial queries
    n = ofSize size ∧
      (ofSize initial).converse queries =
        queries.mapIdx (fun k q => (ofSize (Query.lastSize initial (queries.take k))).answer q) ∧
      (∀ new : PuzzleSize, n.answer (.setSize new.count) =
        ⟨(.rebuilt (decide (new ≠ size)), ofSize new),
          if new = size then [] else [.generated new]⟩) ∧
      ∀ q, (∃ r ∈ (n.answer q).records, r.level = .debug) ↔
        ∃ new : PuzzleSize, q = .setSize new.count ∧ new ≠ size := by
  intro n size
  have hn : n = ofSize size := afterAll_ofSize initial queries
  refine ⟨hn, converse_ofSize initial queries, fun new => ?_, fun q => ?_⟩
  · rw [hn]
    exact answer_setSize_ofSize size new
  · rw [hn]
    exact exists_debug_iff

/-- A slice is accepted again when an odd size is set again. -/
example : ((ofSize .three).converse
      [.move ['M'], .setSize 4, .move ['M'], .setSize 3, .move ['M'], .setSize 3]).map
        (fun answered => (answered.value.1, answered.records.length)) =
    let slice := Reply.move ⟨.base (.slice .middle), ⟨.layers [1], .x, .positive⟩, .plain⟩
    [(slice, 0), (.rebuilt true, 1), (.nothing, 1), (.rebuilt true, 1), (slice, 0),
      (.rebuilt false, 0)] := by
  rfl

end Notation

end Twisty
