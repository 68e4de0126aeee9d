import Twisty.Proofs.CommandLine.Execution

/-!
# Strictness

The subcommands that take an algorithm are strict in three different ways: `parse` reads the
algorithm strictly, `invert` reads it strictly first and then inverts it as if nothing had been
asked for, and `run` leaves it to the session that executes it. Yet all three are refused alike
(`Invocation.dispatch_of_refused`), and what they print of an algorithm that is not refused does not
depend on strictness (`Invocation.dispatch_of_accepted`).

The size is judged before any word is read, and without regard to strictness
(`Invocation.outcome_eq`). So strictness is a choice between everything and nothing, and the same
one for every subcommand (`Invocation.strictness_is_all_or_nothing`).
-/

namespace Twisty

open Text

namespace Invocation

variable {n : Notation} {text : List Char} {strict : Bool} {s : Subcommand}

/-! ### Subcommands -/

/-- A strict algorithm with words that are not moves is refused by each subcommand for all of these
words. Nothing is printed or reported. -/
theorem dispatch_of_refused (hs : s.takesAlgorithm = true) (h : n.errors (words text) ≠ []) :
    dispatch s n text true = .failed (.algorithm (n.errors (words text))) [] := by
  have hread : n.algorithmStrict text = .error (n.errors (words text)) :=
    Notation.algorithmStrict_of_errors_ne_nil h
  cases s with
  | parse => simp only [dispatch, runParse, readAlgorithm, hread, if_true]
  | invert => simp only [dispatch, runInvert, hread, if_true]
  | run => simp only [dispatch, runRun_eq, readAlgorithm, hread, if_true]
  | table => cases hs

/-- Unless an algorithm is refused, each subcommand succeeds, and prints what it does without
strictness. -/
theorem dispatch_of_accepted (hs : s.takesAlgorithm = true)
    (h : strict = true → n.errors (words text) = []) :
    (dispatch s n text strict).failure = none ∧
      (dispatch s n text strict).stdout = (dispatch s n text false).stdout := by
  -- What is printed is settled by the lenient reading, to which the strict one comes down here.
  cases strict with
  | false =>
    refine ⟨?_, rfl⟩
    cases s with
    | parse | invert => rfl
    | run =>
      rw [dispatch, runRun_eq]
      rfl
    | table => cases hs
  | true =>
    have hread : n.algorithmStrict text = .ok (n.algorithm text).value :=
      Notation.algorithmStrict_of_errors_eq_nil (h rfl)
    cases s with
    | parse => simp [dispatch, runParse, readAlgorithm, hread, Outcome.success]
    | invert => simp [dispatch, runInvert, hread, Outcome.success]
    | run => simp [dispatch, runRun_eq, readAlgorithm, hread, Outcome.success]
    | table => cases hs

/-- A session that is asked for a strict algorithm with words that are not moves has the puzzle
receive nothing. -/
theorem received_of_refused (h : n.errors (words text) ≠ []) (name : List Char)
    (onDone : List Command) :
    ((Session.start n).perform (.execute (.counted text true) name onDone)).journal.received =
      [] := by
  have hmoves : (Work.prepare (Session.start n).reader (.counted text true)).moves? = none :=
    congrArg Prepared.moves? (Work.prepare_counted_of_errors_ne_nil h)
  rw [Session.perform_execute_of_none hmoves, Session.note, Journal.received_push,
    (Session.journal_log _ _).1]
  rfl

/-! ### Sizes -/

/-- The layer count that an invocation is for: the one that is given, or else the preferred one. -/
def count (i : Invocation) (p : Preferences) : UInt16 :=
  i.size.getD p.puzzleSize

/-- The size of an invocation is the one with its layer count. -/
theorem sizeUnder_eq (i : Invocation) (p : Preferences) :
    i.sizeUnder p = p.checkSize (i.count p) := by
  unfold sizeUnder count
  cases i.size with
  | none => rfl
  | some count => rfl

/-- What comes of the arguments of an invocation for a subcommand, with strictness asked for by the
option, by the preferences, by both or by neither. -/
def outcome (i : Invocation) (p : Preferences) (s : Subcommand) (option preferred : Bool) :
    Outcome :=
  { i with subcommand := s, strict := option }.runUnder { p with strict := preferred }

/-- The size is judged first and without regard to strictness, which is asked for by the option or
by the preferences. -/
theorem outcome_eq (i : Invocation) (p : Preferences) (s : Subcommand) (option preferred : Bool) :
    i.outcome p s option preferred = match p.checkSize (i.count p) with
      | .ok size => dispatch s (.ofSize size) (unwords i.algorithm) (option || preferred)
      | .error refusal => .failed (.size refusal) [] := by
  rw [outcome, runUnder, sizeUnder_eq]
  rfl

/-- With a layer count outside the range of the preferences, or below 2, all subcommands that take
an algorithm fail alike, strict or not, and print and report nothing. Otherwise they succeed without
strictness. With strictness, asked for in either way, they succeed and print the same if all words
of the algorithm are moves. If one is not, they all fail for the errors of these words, joined by
semicolons, print and report nothing, and the puzzle receives no rotation. -/
theorem strictness_is_all_or_nothing (i : Invocation) (p : Preferences) :
    (¬ (p.minPuzzleSize ≤ i.count p ∧ i.count p ≤ p.maxPuzzleSize ∧ 2 ≤ (i.count p).toNat) →
        ∃ refusal, ∀ s : Subcommand, s.takesAlgorithm = true → ∀ option preferred,
          i.outcome p s option preferred = ⟨[], some (.size refusal), []⟩) ∧
      ∀ two_le : 2 ≤ (i.count p).toNat,
        p.minPuzzleSize ≤ i.count p → i.count p ≤ p.maxPuzzleSize →
        let n := Notation.ofSize ⟨i.count p, two_le⟩
        let text := unwords i.algorithm
        (∀ s : Subcommand, s.takesAlgorithm = true →
            (i.outcome p s false false).failure = none) ∧
          ((∀ t ∈ words text, ∃ m, n.move t = .ok m) →
            ∀ s : Subcommand, s.takesAlgorithm = true → ∀ option preferred,
              (option || preferred) = true →
                (i.outcome p s option preferred).failure = none ∧
                  (i.outcome p s option preferred).stdout =
                    (i.outcome p s false false).stdout) ∧
          ((∃ t ∈ words text, ∃ e, n.move t = .error e) →
            ∃ failure : Failure, failure.message = "invalid algorithm: ".toList ++
                "; ".toList.intercalate ((n.errors (words text)).map MoveError.message) ∧
              (∀ s : Subcommand, s.takesAlgorithm = true → ∀ option preferred,
                (option || preferred) = true →
                  i.outcome p s option preferred = ⟨[], some failure, []⟩) ∧
              ((Session.start n).perform
                (.execute (.counted text true) [] [])).journal.received = []) := by
  constructor
  · intro hcount
    cases hsize : p.checkSize (i.count p) with
    | error refusal =>
      refine ⟨refusal, fun s _ option preferred => ?_⟩
      rw [outcome_eq, hsize]
      rfl
    | ok size =>
      obtain ⟨⟨hmin, hmax⟩, hsize⟩ := Preferences.checkSize_eq_ok_iff.1 hsize
      exact absurd ⟨hmin, hmax, hsize ▸ size.two_le⟩ hcount
  · intro two_le hmin hmax n text
    -- Once the size is accepted, all that is left to tell apart is whether strictness is on.
    have houtcome : ∀ s option preferred,
        i.outcome p s option preferred = dispatch s n text (option || preferred) := by
      intro s option preferred
      have hsize : p.checkSize (i.count p) = .ok ⟨i.count p, two_le⟩ :=
        Preferences.checkSize_eq_ok_iff.2 ⟨⟨hmin, hmax⟩, rfl⟩
      rw [outcome_eq, hsize]
    refine ⟨fun s hs => ?_, fun hmoves s hs option preferred _ => ?_, ?_⟩
    · have hlenient : (false || false) = true → n.errors (words text) = [] := nofun
      rw [houtcome]
      exact (dispatch_of_accepted hs hlenient).1
    · rw [houtcome, houtcome]
      exact dispatch_of_accepted hs fun _ => Notation.errors_eq_nil_iff.2 hmoves
    · rintro ⟨t, ht, e, he⟩
      have herrors : n.errors (words text) ≠ [] := by
        intro hnil
        obtain ⟨m, hm⟩ := Notation.errors_eq_nil_iff.1 hnil t ht
        rw [he] at hm
        cases hm
      refine ⟨.algorithm (n.errors (words text)), rfl, fun s hs option preferred hstrict => ?_,
        received_of_refused herrors [] []⟩
      rw [houtcome, hstrict]
      exact dispatch_of_refused hs herrors

/-- On a puzzle of size 4, a strict algorithm with a slice and a bad suffix is refused for both, and
without the two words it is not. A puzzle of size 6 is not offered. -/
theorem strictness_of_two_bad_words :
    let i : Invocation := ⟨none, .parse, some 4, false, ["R M".toList, "r9 U2".toList]⟩
    let good : Invocation := { i with algorithm := ["R".toList, "U2".toList] }
    let large : Invocation := { i with size := some 6 }
    (∃ refusal, large.outcome .builtIn .run true false = ⟨[], some (.size refusal), []⟩ ∧
        large.outcome .builtIn .invert false false = ⟨[], some (.size refusal), []⟩) ∧
      (i.outcome .builtIn .run false false).failure = none ∧
      (good.outcome .builtIn .run false true).stdout =
        (good.outcome .builtIn .run false false).stdout ∧
      ∃ failure : Failure,
        failure.message = ("invalid algorithm: slice move \"M\" is not supported on 4x4 puzzle " ++
          "(even-sized puzzles have no single middle layer); " ++
          "invalid modifier \"9\" in \"r9\"").toList ∧
        i.outcome .builtIn .run true false = ⟨[], some failure, []⟩ ∧
        i.outcome .builtIn .invert false true = ⟨[], some failure, []⟩ := by
  intro i good large
  obtain ⟨refusal, hrefusal⟩ := (strictness_is_all_or_nothing large .builtIn).1 (by decide)
  obtain ⟨hlenient, -, hrefused⟩ :=
    (strictness_is_all_or_nothing i .builtIn).2 (by decide) (by decide) (by decide)
  obtain ⟨-, haccepted, -⟩ :=
    (strictness_is_all_or_nothing good .builtIn).2 (by decide) (by decide) (by decide)
  have hbad : ∃ t ∈ words (unwords i.algorithm), ∃ e, (Notation.ofSize ⟨4, by decide⟩).move t =
      .error e :=
    ⟨"r9".toList, by decide +kernel, .badModifier "r9".toList "9".toList, by decide +kernel⟩
  have hmoves : ∀ t ∈ words (unwords good.algorithm),
      ∃ m, (Notation.ofSize ⟨4, by decide⟩).move t = .ok m := by
    refine Notation.errors_eq_nil_iff.1 ?_
    decide +kernel
  obtain ⟨failure, hmessage, hfailure, -⟩ := hrefused hbad
  refine ⟨⟨refusal, hrefusal .run rfl true false, hrefusal .invert rfl false false⟩,
    hlenient .run rfl, (haccepted hmoves .run rfl false true rfl).2, failure, ?_,
    hfailure .run rfl true false rfl, hfailure .invert rfl false true rfl⟩
  rw [hmessage]
  decide +kernel

end Invocation

end Twisty
