import Twisty.Proofs.Sequencer.Pace

/-!
# Draining

A call of an operation puts tasks on the agenda, and returns once these have been done and the
agenda is again what stood behind the call. Every call returns, in every session and whatever
programs wait in it (`Session.exists_iterate_next_append`), because a task leaves less to do than
there was before it (`Session.react_descends`).

Draining reports completions for as long as a rotation is in flight. It is the same as a number of
single reports, of which each finds a rotation in flight, and after the last of which there is none
(`Session.exists_drains`). Programs that begin on the way may make requests and drain on their own,
so that neither the requests nor their rotations become fewer with each report. The induction is
therefore on the tasks that are done in the course of the drain, as in the definition of `settle`.
At the end of a drain nothing is in flight, and since a run is awake nothing is waiting then either
(`draining_terminates`).
-/

namespace Twisty

namespace Session

/-- An answer is noted together with what can be seen of the sequencer. -/
theorem settle_answer (s : Session) (site : Site) (reply : Reply) :
    s.settle [.answer site reply] = s.note (.answered site reply s.sequencer.status) :=
  (settle_singleton rfl).trans (settle_nil _)

/-- Draining a session is a task of its own. -/
theorem perform_drain (s : Session) : s.perform .drain = s.settle [.drain .outside 0] :=
  settle_singleton rfl

/-! ### Single reports -/

/-- The session after one report that a rotation has been completed. -/
def complete (s : Session) : Session :=
  s.settle [.complete 1]

variable {s : Session}

/-- A report with a rotation in flight completes it and then advances. -/
theorem complete_of_inFlight {r : Rotation} (h : s.sequencer.inFlight = some r) :
    s.complete = (s.land r).settle [.advance] := by
  have hreact : s.react (.complete 1) = (s.land r, [.advance, .complete 0]) := by
    simp only [react, h]
  have hdone : ∀ s' : Session, s'.settle [.complete 0] = s' := fun s' =>
    (settle_singleton rfl).trans s'.settle_nil
  rw [complete, settle_singleton hreact]
  exact ((s.land r).settle_append [.advance] [.complete 0]).trans (hdone _)

/-- A drain with a rotation in flight is a report and then a drain. -/
theorem settle_drain_of_inFlight {r : Rotation} (h : s.sequencer.inFlight = some r) (site : Site)
    (reported : ℕ) :
    s.settle [.drain site reported] = s.complete.settle [.drain site (reported + 1)] := by
  have hreact : s.react (.drain site reported) =
      (s.land r, [.advance, .drain site (reported + 1)]) := by
    simp only [react, h]
  rw [settle_singleton hreact, complete_of_inFlight h]
  exact (s.land r).settle_append [.advance] [.drain site (reported + 1)]

/-- A drain with nothing in flight answers how many completions it has reported. -/
theorem settle_drain_of_free (h : s.sequencer.inFlight = none) (site : Site) (reported : ℕ) :
    s.settle [.drain site reported] =
      s.note (.answered site (.count reported) s.sequencer.status) := by
  have hreact : s.react (.drain site reported) = (s, [.answer site (.count reported)]) := by
    simp only [react, h]
  rw [settle_singleton hreact]
  exact s.settle_answer site (.count reported)

/-- So many reports find a rotation in flight, and after them nothing is in flight. -/
def DrainsIn (s : Session) (k : ℕ) : Prop :=
  (∀ i < k, (complete^[i] s).sequencer.inFlight ≠ none) ∧
    (complete^[k] s).sequencer.inFlight = none

/-- A session with a rotation in flight takes one report more than the session after it. -/
theorem DrainsIn.of_complete {r : Rotation} {k : ℕ} (hflight : s.sequencer.inFlight = some r)
    (h : s.complete.DrainsIn k) : s.DrainsIn (k + 1) := by
  obtain ⟨hbusy, hfree⟩ := h
  refine ⟨fun i hi => ?_, hfree⟩
  cases i with
  | zero =>
    rw [Function.iterate_zero_apply, hflight]
    exact Option.some_ne_none r
  | succ i => exact hbusy i (by omega)

/-- A drain is so many single reports as it takes until nothing is in flight. -/
theorem exists_drains (s : Session) (site : Site) (reported : ℕ) :
    ∃ k, s.DrainsIn k ∧ s.settle [.drain site reported] =
      (complete^[k] s).note
        (.answered site (.count (reported + k)) (complete^[k] s).sequencer.status) := by
  -- Between two reports other tasks stand before the drain, which the session has first to settle.
  suffices hall : ∀ (s : Session) (agenda first : List Task) (reported : ℕ),
      agenda = first ++ [.drain site reported] →
      ∃ k, (s.settle first).DrainsIn k ∧ s.settle agenda =
        (complete^[k] (s.settle first)).note (.answered site (.count (reported + k))
          (complete^[k] (s.settle first)).sequencer.status) by
    obtain ⟨k, hk⟩ := hall s _ [] reported rfl
    rw [settle_nil] at hk
    exact ⟨k, hk⟩
  intro s agenda
  fun_induction s.settle agenda with
  | case1 s =>
    intro first reported h
    cases first <;> cases h
  | case2 s t ts ih =>
    intro first reported h
    cases first with
    | nil =>
      obtain ⟨rfl, rfl⟩ := List.cons.inj h
      rw [← settle_cons, settle_nil]
      cases hflight : s.sequencer.inFlight with
      | none =>
        refine ⟨0, ⟨fun i hi => absurd hi (Nat.not_lt_zero i), hflight⟩, ?_⟩
        exact settle_drain_of_free hflight site reported
      | some r =>
        have hreact : s.react (.drain site reported) =
            (s.land r, [.advance] ++ [.drain site (reported + 1)]) := by
          simp only [react, hflight, List.singleton_append]
        rw [hreact] at ih
        obtain ⟨k, hk, hsettle⟩ := ih [.advance] (reported + 1) (List.append_nil _)
        rw [← complete_of_inFlight hflight] at hk hsettle
        rw [settle_cons, hreact]
        refine ⟨k + 1, hk.of_complete hflight, hsettle.trans ?_⟩
        rw [Function.iterate_succ_apply, Nat.add_assoc, Nat.add_comm 1 k]
    | cons t' first =>
      obtain ⟨rfl, rfl⟩ := List.cons.inj h
      rw [settle_cons s t first]
      exact ih _ reported (List.append_assoc ..).symm

/-- Performing a drain is reporting completions one by one. -/
theorem exists_perform_drain_eq (s : Session) :
    ∃ k, s.DrainsIn k ∧ s.perform .drain = (complete^[k] s).note
      (.answered .outside (.count k) (complete^[k] s).sequencer.status) := by
  obtain ⟨k, hk, hdrain⟩ := s.exists_drains .outside 0
  rw [Nat.zero_add, ← perform_drain] at hdrain
  exact ⟨k, hk, hdrain⟩

/-- After a drain nothing is in flight. -/
theorem inFlight_perform_drain (s : Session) : (s.perform .drain).sequencer.inFlight = none := by
  obtain ⟨k, ⟨-, hfree⟩, hdrain⟩ := s.exists_perform_drain_eq
  rw [hdrain]
  exact hfree

end Session

/-- Commands and then a drain are performed one after the other. -/
theorem performAll_append_drain (s : Session) (commands : List Command) :
    s.performAll (commands ++ [.drain]) = (s.performAll commands).perform .drain :=
  List.foldl_append ..

/-- After any commands and a drain nothing is in flight. -/
theorem inFlight_performAll_drain (s : Session) (commands : List Command) :
    (s.performAll (commands ++ [.drain])).sequencer.inFlight = none := by
  rw [performAll_append_drain]
  exact Session.inFlight_perform_drain _

/-- After any commands and a drain no request is left. -/
theorem requests_performAll_drain (reader : Notation) (commands : List Command) :
    ((Session.start reader).performAll (commands ++ [.drain])).sequencer.requests = [] :=
  requests_performAll_eq_nil _ _ (inFlight_performAll_drain _ _)

/-- After any commands and a drain the sequencer is idle. -/
theorem isIdle_performAll_drain (reader : Notation) (commands : List Command) :
    ((Session.start reader).performAll (commands ++ [.drain])).sequencer.isIdle = true := by
  rw [Sequencer.isIdle, inFlight_performAll_drain, requests_performAll_drain]
  rfl

/-- Every call of an operation returns, in every session and with anything left to do after it.
After any commands, reporting completions for as long as a rotation is in flight comes to an end,
and the sequencer is then idle, without unissued rotations or unfinished requests. A drain is just
that, and it answers with the number of the reports. -/
theorem draining_terminates (reader : Notation) (commands : List Command) :
    (∀ (s : Session) (call : Task) (later : List Task),
      ∃ n, Moment.next^[n] ⟨s, call :: later⟩ = ⟨s.settle [call], later⟩) ∧
      let s := (Session.start reader).performAll commands
      ∃ k, (∀ i < k, (Session.complete^[i] s).sequencer.inFlight ≠ none) ∧
        let drained := Session.complete^[k] s
        drained.sequencer.inFlight = none ∧ drained.sequencer.isIdle = true ∧
          drained.sequencer.unissued = [] ∧ drained.sequencer.pendingSteps = 0 ∧
          drained.sequencer.pendingRequests = 0 ∧
          s.perform .drain =
            drained.note (.answered .outside (.count k) drained.sequencer.status) := by
  refine ⟨fun s call later => s.exists_iterate_next_append [call] later, ?_⟩
  intro s
  obtain ⟨k, ⟨hbusy, hfree⟩, hdrain⟩ := s.exists_perform_drain_eq
  refine ⟨k, hbusy, ?_⟩
  intro drained
  -- The answer of the drain leaves the sequencer as the reports have left it.
  have hsequencer : drained.sequencer =
      ((Session.start reader).performAll (commands ++ [.drain])).sequencer := by
    rw [performAll_append_drain, hdrain]
    rfl
  have hrequests : drained.sequencer.requests = [] := by
    rw [hsequencer, requests_performAll_drain]
  have hidle : drained.sequencer.isIdle = true := by
    rw [hsequencer, isIdle_performAll_drain]
  refine ⟨hfree, hidle, ?_, ?_, ?_, hdrain⟩
  · rw [Sequencer.unissued, hrequests, List.flatMap_nil]
  · rw [Sequencer.pendingSteps, hrequests, tally]
  · rw [Sequencer.pendingRequests, hrequests, List.length_nil]

end Twisty
