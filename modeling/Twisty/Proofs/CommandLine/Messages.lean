import Twisty.CommandLine.Program
import Twisty.Proofs.Text.Line

/-!
# Messages stay on their line

Errors, warnings and reports are shown among other lines, and they quote what the user wrote, which
may hold any characters. No message can be made to look like two by that. Every message is put
together from words of the program, numbers and quoted text, each of which stays on its line
(`Text.InLine`). There is a lemma for each kind of message, in the order in which messages are parts
of others: refused sizes and moves (`MoveError.inLine_message`), records of the log
(`LogRecord.inLine_message`) and reports of the program (`Failure.inLine_message`).
-/

namespace Twisty

open Text

/-- The text of a size stays on the line. -/
theorem PuzzleSize.inLine_render (size : PuzzleSize) : InLine size.render := by
  rw [render, inLine_append, inLine_cons]
  exact ⟨inLine_decimal _, by decide, inLine_decimal _⟩

/-- The wording of a refused size stays on the line. -/
theorem SizeError.inLine_message (e : SizeError) : InLine e.message := by
  unfold message
  cases e with
  | tooSmall count =>
    simp only [inLine_append, inLine_decimal, and_true]
    decide +kernel
  | malformed text =>
    simp only [inLine_append, inLine_quoted, and_true]
    decide +kernel

/-- The wording of a refused move stays on the line. -/
theorem MoveError.inLine_message (e : MoveError) : InLine e.message := by
  unfold message
  -- The numbers and the quoted texts are dealt with by their lemmas, and only the words are left.
  cases e with
  | empty => decide +kernel
  | unknownToken token | unknownNumericFace token | badModifier token suffix =>
    simp only [inLine_append, inLine_quoted, and_true]
    decide +kernel
  | sliceOnEvenSize slice size =>
    simp only [inLine_append, inLine_cons, PuzzleSize.inLine_render, and_true]
    cases slice <;> decide +kernel
  | layerCountOutOfRange token count size =>
    simp only [inLine_append, inLine_decimal, inLine_quoted, PuzzleSize.inLine_render, and_true]
    decide +kernel

/-- The angle of a rotation stays on the line. -/
theorem Angle.inLine_degrees (a : Angle) : InLine a.degrees := by
  rcases a with ⟨d⟩ | ⟨d⟩ <;> cases d <;> decide +kernel

/-- The letter of an axis stays on the line. -/
theorem Axis.not_breaksLine_letter (a : Axis) : breaksLine a.letter = false := by
  cases a <;> decide

/-- The text of a rotation stays on the line. -/
theorem Rotation.inLine_render (r : Rotation) : InLine r.render := by
  unfold render
  cases r with
  | whole axis angle =>
    simp only [inLine_append, inLine_cons, axis.not_breaksLine_letter, angle.inLine_degrees,
      and_true]
    decide +kernel
  | layer axis angle position =>
    simp only [inLine_append, inLine_cons, inLine_decimal, axis.not_breaksLine_letter,
      angle.inLine_degrees, and_true]
    decide +kernel

/-- The text of a record stays on the line. -/
theorem LogRecord.inLine_message (r : LogRecord) : InLine r.message := by
  unfold message
  cases r with
  | issued rotation => exact rotation.inLine_render
  | generated size =>
    simp only [inLine_append, PuzzleSize.inLine_render, and_true]
    decide +kernel
  | rejected e => exact e.inLine_message
  | dropped requests | executed moves rotations =>
    simp only [inLine_append, inLine_decimal, and_true]
    decide +kernel
  | spuriousCompletion | preferencesFailed => decide +kernel

/-- The wording of a size that preferences do not allow stays on the line. -/
theorem SizeRefusal.inLine_message (refusal : SizeRefusal) : InLine refusal.message := by
  unfold message
  cases refusal with
  | unsupported count least most =>
    simp only [inLine_append, inLine_cons, inLine_decimal, and_true]
    decide +kernel
  | impossible e => exact e.inLine_message

/-- The report of a failure stays on the line. -/
theorem Failure.inLine_message (f : Failure) : InLine f.message := by
  unfold message
  cases f with
  | size refusal => exact refusal.inLine_message
  | algorithm errors =>
    have herrors : InLine ("; ".toList.intercalate (errors.map MoveError.message)) := by
      refine inLine_intercalate (by decide) fun text htext => ?_
      obtain ⟨e, -, rfl⟩ := List.mem_map.1 htext
      exact e.inLine_message
    simp only [inLine_append, herrors, and_true]
    decide +kernel
  | stalled => decide +kernel

/-- Whatever a token or a text holds, the error of a token, what a notation reports while it answers
a question, and what the program reports or fails with hold no control character and no line or
paragraph separator. The report on preferences that could not be loaded is left out, because its
record does not hold the whole text. -/
theorem diagnostics_stay_in_line (n : Notation) :
    (∀ token e, n.move token = .error e → InLine e.message) ∧
    (∀ q, ∀ r ∈ (n.answer q).records, InLine r.message) ∧
    ∀ (i : Invocation) files environment,
      (∀ r ∈ (i.run files environment).records, r ≠ .preferencesFailed → InLine r.message) ∧
      ∀ failure, (i.run files environment).failure = some failure → InLine failure.message :=
  ⟨fun _ e _ => e.inLine_message, fun _ r _ => r.inLine_message, fun _ _ _ =>
    ⟨fun r _ _ => r.inLine_message, fun failure _ => failure.inLine_message⟩⟩

/-- On a puzzle of size 4, a suffix with a line feed and a quote, a line separator behind a layer
count, and a sequence that would clear the screen are all shown by their escapes. -/
theorem diagnostics_of_hostile_tokens :
    let n := Notation.ofSize ⟨4, by decide⟩
    let i : Invocation := ⟨none, .parse, some 4, true, ["R".toList, "\u001b[2J".toList]⟩
    (∃ e, n.move "R\n2\"".toList = .error e ∧ InLine e.message ∧
      e.message = "invalid modifier \"\\n2\\\"\" in \"R\\n2\\\"\"".toList) ∧
    (∃ r, (n.answer (.invert "3\u2028R".toList)).records = [r] ∧ InLine r.message ∧
      r.message =
        "invalid face in numeric layer notation: \"3\\u\x7b2028\x7dR\"".toList) ∧
    ∃ failure, (i.run (fun _ => none) []).failure = some failure ∧ InLine failure.message ∧
      failure.message =
        "invalid algorithm: invalid notation: \"\\u\x7b1b\x7d[2J\"".toList := by
  intro n i
  obtain ⟨hmove, hrecords, hrun⟩ := diagnostics_stay_in_line n
  refine ⟨?_, ?_, ?_⟩
  · have he : n.move "R\n2\"".toList = .error (.badModifier "R\n2\"".toList "\n2\"".toList) := by
      rfl
    exact ⟨_, he, hmove _ _ he, by decide +kernel⟩
  · have hr : (n.answer (.invert "3\u2028R".toList)).records =
        [.rejected (.unknownNumericFace "3\u2028R".toList)] := by
      decide +kernel
    refine ⟨_, hr, hrecords (.invert "3\u2028R".toList) _ ?_, by decide +kernel⟩
    rw [hr]
    exact List.mem_singleton.2 rfl
  · have hfailure : (i.run (fun _ => none) []).failure =
        some (.algorithm [.unknownToken "\u001b[2J".toList]) := by
      decide +kernel
    exact ⟨_, hfailure, (hrun i _ _).2 _ hfailure, by decide +kernel⟩

end Twisty
