import Mathlib.Algebra.GroupWithZero.Nat
import Twisty.Proofs.CommandLine.Messages
import Twisty.Proofs.Sequencer.Single

/-!
# What `run` prints

The subcommand `run` makes a single request, whose program is empty, and drains the sequencer. What
is known of a single request therefore says what the puzzle has received, what was logged, and that
the program has begun (`Session.journal_execute_drain`). So `run` is a reader of algorithms followed
by a printer, like `parse`, and fails only where the reading fails (`Invocation.runRun_eq`). In
particular no session comes to rest too early, also if the algorithm has no moves and is done before
the drain begins.

What it prints is a numbered line for each rotation of the expansion, and their number is what the
moves reported by `parse` come to (`Invocation.run_prints_execution`).
-/

namespace Twisty

open Text

/-! ### How many rotations there are -/

/-- How many rotations execute a move: one for each repetition and layer, or a single one of the
whole puzzle. -/
def Move.rotationCount (m : Move) : ℕ :=
  match m.kind with
  | .layers positions => m.repetitions * positions.length
  | .whole => 1

theorem Move.length_expand (m : Move) : m.expand.length = m.rotationCount := by
  unfold rotationCount
  cases hkind : m.kind with
  | layers positions => simp [expand_of_layers hkind, Turn.sweep]
  | whole =>
    rw [expand_of_whole hkind]
    rfl

/-- The rotations of some moves are as many as those of each move together. -/
theorem length_expandAll (moves : List Move) :
    (expandAll moves).length = (moves.map Move.rotationCount).sum := by
  rw [expandAll, List.length_flatMap]
  congr 1
  exact List.map_congr_left fun m _ => m.length_expand

/-! ### Numbered lines -/

/-- The line of the rotation with a number, without its end. -/
def Rotation.numberedText (r : Rotation) (number : ℕ) : List Char :=
  padStart 3 (decimal number) ++ ". ".toList ++ r.render

/-- The numbered text of a rotation stays on its line. -/
theorem Rotation.inLine_numberedText (r : Rotation) (number : ℕ) :
    InLine (r.numberedText number) := by
  have hspaces : ∀ k, InLine (List.replicate k ' ') := fun k c hc => by
    rw [List.eq_of_mem_replicate hc]
    decide
  simp only [numberedText, padStart, inLine_append]
  exact ⟨⟨⟨hspaces _, inLine_decimal number⟩, by decide⟩, r.inLine_render⟩

/-- The numbered line of a rotation is that of its numbered text. -/
theorem Rotation.numberedLine_eq (r : Rotation) (number : ℕ) :
    r.numberedLine number = line (r.numberedText number) := by
  rw [numberedLine, numberedText, List.append_assoc]
  rfl

/-- The numbered texts of some rotations. -/
def numberedTexts (rotations : List Rotation) : List (List Char) :=
  rotations.mapIdx fun i r => r.numberedText (i + 1)

/-- Numbered lines are the lines of numbered texts. -/
theorem numberedLines_eq (rotations : List Rotation) :
    numberedLines rotations = (numberedTexts rotations).flatMap line := by
  rw [numberedTexts, List.mapIdx_eq_zipIdx_map, List.flatMap_map]
  exact List.flatMap_congr fun x _ => x.1.numberedLine_eq (x.2 + 1)

/-- No numbered text goes on for more than a line. -/
theorem newline_not_mem_of_mem_numberedTexts {rotations : List Rotation} {text : List Char}
    (h : text ∈ numberedTexts rotations) : '\n' ∉ text := by
  obtain ⟨i, hi, rfl⟩ := List.mem_mapIdx.1 h
  exact (rotations[i].inLine_numberedText (i + 1)).newline_not_mem

namespace Invocation

/-! ### The subcommand as a reader and a printer -/

/-- What has happened since the start of a session is all of its journal. -/
theorem reply_since_start (n : Notation) (s : Session) :
    ((Session.start n).since s).reply = s.journal.reply :=
  congrArg Journal.reply Array.extract_size

/-- When the algorithm is not refused, `run` prints and logs the rotations of its moves. -/
theorem runRun_of_some {n : Notation} {text : List Char} {strict : Bool} {moves : List Move}
    {records : List LogRecord}
    (h : Work.prepare n (.counted text strict) = ⟨some moves, records, .count moves.length⟩) :
    runRun n text strict = .success (numberedLines (expandAll moves))
      (records ++ (expandAll moves).map .issued ++
        [.executed moves.length (expandAll moves).length]) := by
  set start := Session.start n with hstart
  set begun := start.perform (.execute (.counted text strict) [] []) with hbegun
  have hmoves : (Work.prepare start.reader (.counted text strict)).moves? = some moves :=
    congrArg Prepared.moves? h
  have hreply : (start.since begun).reply = .count moves.length := by
    rw [hstart, reply_since_start, hbegun, Session.reply_execute hmoves]
    exact congrArg Prepared.reply h
  have hwork : (Work.prepare start.reader (.counted text strict)).records = records :=
    congrArg Prepared.records h
  obtain ⟨hreceived, hrecords, hbeginnings⟩ :=
    Session.journal_execute_drain (s := start) rfl hmoves []
  rw [← hbegun] at hreceived hrecords hbeginnings
  -- The program is empty, so that its beginning is all there is to it.
  have hbegan : (begun.perform .drain).journal.anyBegan = true := by
    rw [Journal.anyBegan_iff, hbeginnings]
    simp
  unfold runRun
  simp only [← hstart, ← hbegun, hreply, hbegan, if_true, hreceived, hrecords, hwork]
  rfl

/-- When the algorithm is refused, `run` does nothing else than to say so. -/
theorem runRun_of_none {n : Notation} {text : List Char} {strict : Bool} {es : List MoveError}
    (h : Work.prepare n (.counted text strict) = ⟨none, [], .refusedAll es⟩) :
    runRun n text strict = .failed (.algorithm es) [] := by
  set start := Session.start n with hstart
  set begun := start.perform (.execute (.counted text strict) [] []) with hbegun
  have hmoves : (Work.prepare start.reader (.counted text strict)).moves? = none :=
    congrArg Prepared.moves? h
  have hrefused := Session.perform_execute_of_none hmoves [] []
  rw [← hbegun] at hrefused
  have hreply : (start.since begun).reply = .refusedAll es := by
    rw [hstart, reply_since_start, hrefused]
    exact (Journal.reply_push_answered ..).trans (congrArg Prepared.reply h)
  have hrecords : begun.journal.records = [] := by
    rw [hrefused, Session.note, Journal.records_push, (start.journal_log _).2]
    simp only [Occurrence.record?, Option.toList_none, List.append_nil]
    exact congrArg Prepared.records h
  unfold runRun
  simp only [← hstart, ← hbegun, hreply, hrecords]

/-- What `run` does: it reads the algorithm, prints the rotations of its moves and logs them. -/
theorem runRun_eq (n : Notation) (text : List Char) (strict : Bool) :
    runRun n text strict = match readAlgorithm n text strict with
      | .ok ms => .success (numberedLines (expandAll ms.value))
          (ms.records ++ (expandAll ms.value).map .issued ++
            [.executed ms.value.length (expandAll ms.value).length])
      | .error f => .failed f [] := by
  cases strict with
  | false => exact runRun_of_some rfl
  | true =>
    cases hread : n.algorithmStrict text with
    | ok ms =>
      have hwork : Work.prepare n (.counted text true) = ⟨some ms, [], .count ms.length⟩ := by
        simp only [Work.prepare, hread]
      simp only [runRun_of_some hwork, readAlgorithm, hread, if_true]
    | error es =>
      have hwork : Work.prepare n (.counted text true) = ⟨none, [], .refusedAll es⟩ := by
        simp only [Work.prepare, hread]
      simp only [runRun_of_none hwork, readAlgorithm, hread, if_true]

/-- Reading an algorithm fails only for words that are not moves. -/
theorem readAlgorithm_ne_stalled (n : Notation) (text : List Char) (strict : Bool) :
    readAlgorithm n text strict ≠ .error .stalled := by
  unfold readAlgorithm
  split
  · split <;> simp
  · simp

/-- An algorithm that is not refused is read as its moves. -/
theorem exists_readAlgorithm_eq_ok {n : Notation} {text : List Char} {strict : Bool}
    (h : strict = true → ∀ es, n.algorithmStrict text ≠ .error es) :
    ∃ records, readAlgorithm n text strict = .ok ⟨(n.algorithm text).value, records⟩ := by
  cases strict with
  | false => exact ⟨_, rfl⟩
  | true =>
    refine ⟨[], ?_⟩
    have hstrict : n.algorithmStrict text = .ok (n.algorithm text).value := by
      cases hread : n.algorithmStrict text with
      | error es => exact absurd hread (h rfl es)
      | ok ms =>
        rw [Notation.algorithmStrict_eq] at hread
        split at hread
        · cases hread
          rfl
        · cases hread
    simp [readAlgorithm, hstrict]

/-- No invocation fails because a session comes to rest too early. -/
theorem failure_runUnder_ne_stalled (i : Invocation) (p : Preferences) :
    (i.runUnder p).failure ≠ some .stalled := by
  unfold runUnder
  cases i.sizeUnder p with
  | error refusal => simp [Outcome.failed]
  | ok size =>
    have hread := readAlgorithm_ne_stalled (.ofSize size) i.text (i.strict || p.strict)
    cases i.subcommand with
    | table => simp [dispatch, runTable, Outcome.success]
    | invert =>
      simp only [dispatch, runInvert]
      split
      · split <;> simp [Outcome.success, Outcome.failed]
      · simp [Outcome.success]
    | parse =>
      simp only [dispatch, runParse]
      split
      · simp [Outcome.success]
      · next f hf => simpa [Outcome.failed, hf] using hread
    | run =>
      simp only [dispatch, runRun_eq]
      split
      · simp [Outcome.success]
      · next f hf => simpa [Outcome.failed, hf] using hread

/-- Unless the algorithm is refused, `run` succeeds and prints a line for each rotation of the
expansion of its moves, in order: the number of the rotation, filled up to a width of three, a full
stop, a space and the text of the rotation. Their number is that of the repetitions and layers of
the moves that `parse` prints, a rotation of the whole puzzle counting once. The last record says
how many moves and rotations there were. No invocation fails because a session comes to rest too
early. -/
theorem run_prints_execution (i : Invocation) (p : Preferences) (size : PuzzleSize)
    (hrun : i.subcommand = .run) (hsize : i.sizeUnder p = .ok size)
    (haccepted : (i.strict || p.strict) = true →
      ∀ es, (Notation.ofSize size).algorithmStrict (unwords i.algorithm) ≠ .error es) :
    let moves := ((Notation.ofSize size).algorithm (unwords i.algorithm)).value
    let rotations := expandAll moves
    let printed := i.runUnder p
    let parsed := { i with subcommand := .parse }.runUnder p
    printed.failure = none ∧
      (∃ lines : List (List Char), printed.stdout = lines.flatMap line ∧
        lines.length = rotations.length ∧ (∀ l ∈ lines, '\n' ∉ l) ∧
        ∀ k r, rotations[k]? = some r →
          lines[k]? = some (padStart 3 (decimal (k + 1)) ++ ". ".toList ++ r.render)) ∧
      parsed.failure = none ∧
      parsed.stdout = line (Json.list (moves.map Move.toJson)).pretty ∧
      rotations.length = (moves.map Move.rotationCount).sum ∧
      (∃ last, printed.records.getLast? = some last ∧ last.level = .info ∧
        last.message = "executed ".toList ++ decimal moves.length ++ " move(s) as ".toList ++
          decimal rotations.length ++ " rotation(s)".toList) ∧
      ∀ (j : Invocation) (q : Preferences), (j.runUnder q).failure ≠ some .stalled := by
  intro moves rotations printed parsed
  obtain ⟨records, hread⟩ := exists_readAlgorithm_eq_ok haccepted
  have hprinted : printed = .success (numberedLines rotations)
      (records ++ rotations.map .issued ++ [.executed moves.length rotations.length]) := by
    have h : printed = runRun (.ofSize size) i.text (i.strict || p.strict) := by
      simp only [printed, runUnder, hsize, hrun, dispatch]
    rw [h, runRun_eq, text, hread]
  have hparsed : parsed = .success (line (Json.list (moves.map Move.toJson)).pretty) records := by
    have hsize' : { i with subcommand := .parse }.sizeUnder p = .ok size := hsize
    have h : parsed = runParse (.ofSize size) i.text (i.strict || p.strict) := by
      simp only [parsed, runUnder, hsize', dispatch]
      rfl
    rw [h, runParse, text, hread]
  have hlines : ∀ k r, rotations[k]? = some r →
      (numberedTexts rotations)[k]? =
        some (padStart 3 (decimal (k + 1)) ++ ". ".toList ++ r.render) := by
    intro k r hr
    rw [numberedTexts, List.getElem?_mapIdx, hr]
    rfl
  rw [hprinted, hparsed]
  refine ⟨rfl, ⟨numberedTexts rotations, numberedLines_eq rotations, List.length_mapIdx,
    fun _ => newline_not_mem_of_mem_numberedTexts, hlines⟩, rfl, rfl, length_expandAll moves, ?_,
    failure_runUnder_ne_stalled⟩
  exact ⟨.executed moves.length rotations.length, List.getLast?_concat, rfl, rfl⟩

/-- A strict run of three moves prints five lines. -/
theorem run_prints_five_rotations :
    let i : Invocation := ⟨none, .run, none, true, ["R2".toList, "Fw' y2".toList]⟩
    let printed := i.runUnder .builtIn
    let parsed := { i with subcommand := .parse }.runUnder .builtIn
    i.sizeUnder .builtIn = .ok .three ∧
      (∀ es, (Notation.ofSize .three).algorithmStrict (unwords i.algorithm) ≠ .error es) ∧
      printed.failure = none ∧
      (∃ lines : List (List Char), printed.stdout = lines.flatMap line ∧ lines.length = 5 ∧
        lines[4]? = some "  5. rotate puzzle y -180°".toList) ∧
      parsed.failure = none ∧
      ∃ last, printed.records.getLast? = some last ∧
        last.message = "executed 3 move(s) as 5 rotation(s)".toList := by
  intro i printed parsed
  have haccepted : ∀ es,
      (Notation.ofSize .three).algorithmStrict (unwords i.algorithm) ≠ .error es := by
    have hread : (Notation.ofSize .three).algorithmStrict (unwords i.algorithm) =
        .ok ((Notation.ofSize .three).algorithm (unwords i.algorithm)).value := by
      decide +kernel
    intro es
    rw [hread]
    simp
  obtain ⟨hprinted, ⟨lines, hlines, hlength, -, hnumbered⟩, hparsed, -, -,
      ⟨last, hlast, -, hmessage⟩, -⟩ :=
    run_prints_execution i .builtIn .three rfl rfl fun _ => haccepted
  have hfifth : (expandAll ((Notation.ofSize .three).algorithm (unwords i.algorithm)).value)[4]? =
      some (.whole .y (.half .negative)) := by
    decide +kernel
  refine ⟨rfl, haccepted, hprinted, ⟨lines, hlines, hlength.trans ?_, ?_⟩, hparsed, last, hlast,
    hmessage.trans ?_⟩
  · decide +kernel
  · rw [hnumbered 4 _ hfifth]
    decide +kernel
  · decide +kernel

end Invocation

end Twisty
