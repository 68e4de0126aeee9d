import Twisty.Proofs.CommandLine.Execution
import Twisty.Proofs.Notation.Joining

/-!
# Algorithms spread over arguments

The arguments of an algorithm are joined by spaces before anything is read, so that its words are
those of the arguments, one after the other. The readers look at nothing but the words of a text
(`Notation.algorithm_congr` and the two lemmas behind it), and the subcommands at nothing but what
the readers give (`Invocation.dispatch_congr`). So it does not matter how the words are spread over
the arguments or which blanks are between them (`Invocation.words_decide`).
-/

namespace Twisty

open Text

namespace Notation

variable (n : Notation) {a b : List Char} (h : words a = words b)

include h

/-- Texts with the same words are read leniently alike. -/
theorem algorithm_congr : n.algorithm a = n.algorithm b := by
  rw [algorithm, algorithm, h]

/-- Texts with the same words are read strictly alike. -/
theorem algorithmStrict_congr : n.algorithmStrict a = n.algorithmStrict b := by
  rw [algorithmStrict, algorithmStrict, h]

/-- Texts with the same words have the same inverse. -/
theorem invertAlgorithm_congr : n.invertAlgorithm a = n.invertAlgorithm b := by
  rw [invertAlgorithm, invertAlgorithm, h]

end Notation

namespace Invocation

/-- The subcommands do the same for texts with the same words. -/
theorem dispatch_congr (s : Subcommand) (n : Notation) {a b : List Char} (h : words a = words b)
    (strict : Bool) : dispatch s n a strict = dispatch s n b strict := by
  have hread : readAlgorithm n a strict = readAlgorithm n b strict := by
    rw [readAlgorithm, readAlgorithm, n.algorithm_congr h, n.algorithmStrict_congr h]
  cases s with
  | parse => rw [dispatch, dispatch, runParse, runParse, hread]
  | invert =>
    rw [dispatch, dispatch, runInvert, runInvert, n.algorithmStrict_congr h,
      n.invertAlgorithm_congr h]
  | table => rfl
  | run => rw [dispatch, dispatch, runRun_eq, runRun_eq, hread]

/-- An invocation does the same for other arguments of the algorithm with the same words. -/
theorem run_congr (i : Invocation) {spread : List (List Char)}
    (h : spread.flatMap words = i.algorithm.flatMap words) (files : List Char → Option (List Char))
    (environment : List (List Char × List Char)) :
    { i with algorithm := spread }.run files environment = i.run files environment := by
  have hwords : words (unwords spread) = words (unwords i.algorithm) := by
    rw [words_unwords_eq_flatMap, words_unwords_eq_flatMap, h]
  have hunder : ∀ p : Preferences, { i with algorithm := spread }.runUnder p = i.runUnder p := by
    intro p
    have hsize : { i with algorithm := spread }.sizeUnder p = i.sizeUnder p := rfl
    unfold runUnder
    rw [hsize]
    cases i.sizeUnder p with
    | error refusal => rfl
    | ok size => exact dispatch_congr i.subcommand (.ofSize size) hwords (i.strict || p.strict)
  simp only [run, hunder]

/-- Two texts with blanks between them are read as the two, one after the other: the lenient reader
has the moves and the reports of both, the strict reader the moves of both or else the errors of
both, and the inverter writes the inverse of the second, a space and that of the first, or only the
one that is not empty. So an invocation prints, fails and reports the same for all arguments of an
algorithm with the same words, however these are spread over the arguments and whatever blanks are
between them. -/
theorem words_decide (n : Notation) :
    (∀ a gap b : List Char, gap ≠ [] → (∀ c ∈ gap, isBlank c = true) →
        n.algorithm (a ++ gap ++ b) = ⟨(n.algorithm a).value ++ (n.algorithm b).value,
            (n.algorithm a).records ++ (n.algorithm b).records⟩ ∧
          n.algorithmStrict (a ++ gap ++ b) =
            Notation.bothRead (n.algorithmStrict a) (n.algorithmStrict b) ∧
          n.invertAlgorithm (a ++ gap ++ b) =
            ⟨spaced (n.invertAlgorithm b).value (n.invertAlgorithm a).value,
              (n.invertAlgorithm b).records ++ (n.invertAlgorithm a).records⟩) ∧
      ∀ (i : Invocation) (spread : List (List Char)),
        spread.flatMap words = i.algorithm.flatMap words →
          ∀ files environment,
            { i with algorithm := spread }.run files environment = i.run files environment :=
  ⟨fun a _ b hne hgap => ⟨n.algorithm_append hne hgap a b, n.algorithmStrict_append hne hgap a b,
    n.invertAlgorithm_append hne hgap a b⟩,
    fun i _ h files environment => i.run_congr h files environment⟩

/-- A line end and a wide space separate two texts like a single space, and it does not matter that
an argument is empty or holds two words. -/
theorem words_decide_over_three_arguments :
    let n := Notation.ofSize .three
    let i : Invocation := ⟨none, .invert, none, false, ["R2\tu".toList, [], " q".toList]⟩
    n.algorithmStrict ("R2 q".toList ++ ['\n', '\u3000'] ++ "u M9 ".toList) =
        Notation.bothRead (n.algorithmStrict "R2 q".toList) (n.algorithmStrict "u M9 ".toList) ∧
      (n.invertAlgorithm ("R2".toList ++ [' '] ++ "u".toList)).value = "Uw' R2".toList ∧
      ∀ files environment,
        { i with algorithm := ["R2 u q".toList] }.run files environment =
          i.run files environment := by
  intro n i
  obtain ⟨hjoin, hspread⟩ := words_decide n
  have hwide : ∀ c ∈ ['\n', '\u3000'], isBlank c = true :=
    List.all_eq_true.1 (by decide : ['\n', '\u3000'].all isBlank = true)
  have hspace : ∀ c ∈ [' '], isBlank c = true :=
    List.all_eq_true.1 (by decide : [' '].all isBlank = true)
  obtain ⟨-, hstrict, -⟩ := hjoin "R2 q".toList ['\n', '\u3000'] "u M9 ".toList (by decide) hwide
  obtain ⟨-, -, hinvert⟩ := hjoin "R2".toList [' '] "u".toList (by decide) hspace
  refine ⟨hstrict, ?_, hspread i ["R2 u q".toList] (by decide +kernel)⟩
  rw [hinvert]
  decide +kernel

end Invocation

end Twisty
