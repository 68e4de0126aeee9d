import Twisty.Proofs.Sequencer.Draining

/-!
# A single request

Where a request without a program is the only one, all that follows is known. Advancing issues its
next rotation, or begins its program if it has none left, and completing the rotation in flight
advances. A drain therefore has the rotations issued one by one, each of which is logged, and ends
with the beginning of the program (`Session.journal_drain_of_inFlight`). A session that executes
some work while it is idle, and is then drained, issues the expansion of the moves, after whatever
was reported when the work was made ready (`Session.journal_execute_drain`).
-/

namespace Twisty

namespace Session

variable {s : Session} {ticket : ℕ} {step : Rotation} {steps : List Rotation} {name : List Char}
  {onDone : List Command} {rest : List Request}

/-! ### Advancing -/

/-- Advancing with nothing in flight issues the next rotation of the front request. -/
theorem settle_advance_of_cons (hfree : s.sequencer.inFlight = none)
    (hqueue : s.sequencer.requests = ⟨ticket, step :: steps, name, onDone⟩ :: rest) :
    s.settle [.advance] =
      { s with sequencer := ⟨⟨ticket, steps, name, onDone⟩ :: rest, some step⟩ }.note
        (.issued ticket step false) := by
  have hreact : s.react .advance =
      ({ s with sequencer := ⟨⟨ticket, steps, name, onDone⟩ :: rest, some step⟩ }.note
        (.issued ticket step false), []) := by
    simp only [react, hfree, proceed, hqueue]
  rw [settle_singleton hreact, settle_nil]

/-- Advancing begins the empty program of the last request when it has no rotation left. -/
theorem settle_advance_of_nil (hfree : s.sequencer.inFlight = none)
    (hqueue : s.sequencer.requests = [⟨ticket, [], name, []⟩]) :
    s.settle [.advance] =
      { s with sequencer := .empty }.note (.began ticket name Sequencer.empty.status) := by
  have hreact : s.react .advance =
      ({ s with sequencer := .empty }.note (.began ticket name Sequencer.empty.status),
        [.advance]) := by
    simp only [react, hfree, proceed, hqueue, List.map_nil, List.nil_append]
    rfl
  -- The task to advance that comes after the program finds no request.
  rw [settle_singleton hreact, settle_singleton rfl]
  exact settle_nil _

/-! ### Draining -/

/-- Draining a session whose only request has no program, and has a rotation in flight, issues and
logs the other rotations of the request and begins its program. -/
theorem journal_drain_of_inFlight {r : Rotation} (hflight : s.sequencer.inFlight = some r)
    (hqueue : s.sequencer.requests = [⟨ticket, steps, name, []⟩]) (site : Site) (reported : ℕ) :
    let j := (s.settle [.drain site reported]).journal
    j.received = s.journal.received ++ steps ∧
      j.records = s.journal.records ++ steps.map .issued ∧
      j.beginnings = s.journal.beginnings ++ [ticket] := by
  -- The induction is on the rotations left, of which each report of the drain issues one.
  induction steps generalizing s r reported with
  | nil =>
    have hlast : (s.land r).sequencer.requests = [⟨ticket, [], name, []⟩] := hqueue
    rw [settle_drain_of_inFlight hflight, complete_of_inFlight hflight,
      settle_advance_of_nil rfl hlast, settle_drain_of_free rfl]
    simp [land, note, Journal.received_push, Journal.records_push, Occurrence.rotation?,
      Occurrence.record?]
  | cons step steps ih =>
    have hnext : (s.land r).sequencer.requests = [⟨ticket, step :: steps, name, []⟩] := hqueue
    rw [settle_drain_of_inFlight hflight, complete_of_inFlight hflight,
      settle_advance_of_cons rfl hnext]
    have h := @ih ({ s.land r with sequencer := ⟨[⟨ticket, steps, name, []⟩], some step⟩ }.note
      (.issued ticket step false)) step rfl rfl (reported + 1)
    simpa [land, note, Journal.received_push, Journal.records_push, Occurrence.rotation?,
      Occurrence.record?] using h

/-! ### Executing some work -/

/-- Reports are entered in the log, and do not concern the puzzle. -/
theorem journal_log (s : Session) (records : List LogRecord) :
    (s.log records).journal.received = s.journal.received ∧
      (s.log records).journal.records = s.journal.records ++ records := by
  have hrecord : records.filterMap (fun r => (Occurrence.logged r).record?) = records :=
    List.filterMap_some
  simp [log, Journal.received, Journal.records, Occurrence.rotation?, hrecord]

/-- An answer concerns neither the puzzle nor the log, and begins no program. -/
theorem journal_answered (s : Session) (site : Site) (reply : Reply) (status : Status) :
    let answered := s.note (.answered site reply status)
    answered.journal.received = s.journal.received ∧
      answered.journal.records = s.journal.records ∧
      answered.journal.beginnings = s.journal.beginnings := by
  simp [note, Journal.received_push, Journal.records_push, Occurrence.rotation?,
    Occurrence.record?]

/-- Work that is refused is reported on and answered. -/
theorem settle_execute_of_refused {work : Work} {records : List LogRecord} {reply : Reply}
    (h : work.prepare s.reader = ⟨none, records, reply⟩) (site : Site) (name : List Char)
    (onDone : List Command) :
    s.settle [.perform site (.execute work name onDone)] =
      (s.log records).note (.answered site reply s.sequencer.status) := by
  have hreact : s.react (.perform site (.execute work name onDone)) =
      (s.log records, [.answer site reply]) := by
    simp only [react, obey, h]
  rw [settle_singleton hreact]
  exact settle_answer ..

/-- Work that is executed is reported on and requested, and the session then advances and answers.
-/
theorem settle_execute {work : Work} {moves : List Move} {records : List LogRecord} {reply : Reply}
    (h : work.prepare s.reader = ⟨some moves, records, reply⟩) (site : Site) (name : List Char)
    (onDone : List Command) :
    s.settle [.perform site (.execute work name onDone)] =
      ((s.log records).request moves name onDone).settle [.advance, .answer site reply] := by
  refine settle_singleton ?_
  simp only [react, obey, h]

/-- Work that is executed is answered once the session has advanced. -/
theorem settle_execute_of_accepted {work : Work} {moves : List Move} {records : List LogRecord}
    {reply : Reply} (h : work.prepare s.reader = ⟨some moves, records, reply⟩) (site : Site)
    (name : List Char) (onDone : List Command) :
    let after := ((s.log records).request moves name onDone).settle [.advance]
    s.settle [.perform site (.execute work name onDone)] =
      after.note (.answered site reply after.sequencer.status) := by
  intro after
  rw [settle_execute h]
  exact (settle_append _ [.advance] [.answer site reply]).trans (settle_answer ..)

/-- Work that is refused by a command that stands by itself. -/
theorem perform_execute_of_none {work : Work} (h : (work.prepare s.reader).moves? = none)
    (name : List Char) (onDone : List Command) :
    s.perform (.execute work name onDone) = (s.log (work.prepare s.reader).records).note
      (.answered .outside (work.prepare s.reader).reply s.sequencer.status) :=
  settle_execute_of_refused (by rw [← h]) .outside name onDone

/-- Work that is executed by a command that stands by itself. -/
theorem perform_execute_of_some {work : Work} {moves : List Move}
    (h : (work.prepare s.reader).moves? = some moves) (name : List Char)
    (onDone : List Command) :
    let after := ((s.log (work.prepare s.reader).records).request moves name onDone).settle
      [.advance]
    s.perform (.execute work name onDone) = after.note
      (.answered .outside (work.prepare s.reader).reply after.sequencer.status) :=
  settle_execute_of_accepted (by rw [← h]) .outside name onDone

/-- The answer to work that is executed is that which was made ready. -/
theorem reply_execute {work : Work} {moves : List Move}
    (h : (work.prepare s.reader).moves? = some moves) (name : List Char)
    (onDone : List Command) :
    (s.perform (.execute work name onDone)).journal.reply = (work.prepare s.reader).reply := by
  rw [perform_execute_of_some h]
  exact Journal.reply_push_answered ..

/-- An idle session that executes some work and is then drained has the puzzle receive the expansion
of its moves. The log has what was reported when the work was made ready and then these rotations,
and the program of the request has begun. -/
theorem journal_execute_drain (hidle : s.sequencer = .empty) {work : Work} {moves : List Move}
    (h : (work.prepare s.reader).moves? = some moves) (name : List Char) :
    let j := ((s.perform (.execute work name [])).perform .drain).journal
    j.received = s.journal.received ++ expandAll moves ∧
      j.records = s.journal.records ++ (work.prepare s.reader).records ++
        (expandAll moves).map .issued ∧
      j.beginnings = s.journal.beginnings ++ [s.tickets] := by
  obtain ⟨hreceived, hrecords⟩ := s.journal_log (work.prepare s.reader).records
  have hbeginnings := @Moment.gather_log _ Occurrence.beginnings (fun _ => rfl) s
    (work.prepare s.reader).records
  rw [perform_drain, perform_execute_of_some h]
  set asked := (s.log (work.prepare s.reader).records).request moves name [] with hasked
  have hfree : asked.sequencer.inFlight = none := by
    simp [hasked, request, Sequencer.enqueue, hidle, Sequencer.empty]
  have hqueue : asked.sequencer.requests = [⟨s.tickets, expandAll moves, name, []⟩] := by
    simp [hasked, request, Sequencer.enqueue, hidle, Sequencer.empty, log]
  -- Advancing issues the first rotation, or begins the program at once if there is none.
  rcases hsteps : expandAll moves with _ | ⟨step, steps⟩
  · rw [hsteps] at hqueue
    rw [settle_advance_of_nil hfree hqueue, settle_drain_of_free rfl]
    simp [hasked, request, note, Journal.received_push, Journal.records_push, Occurrence.rotation?,
      Occurrence.record?, hreceived, hrecords, hbeginnings]
  · rw [hsteps] at hqueue
    rw [settle_advance_of_cons hfree hqueue]
    set begun := ({ asked with
      sequencer := ⟨[⟨s.tickets, steps, name, []⟩], some step⟩ }.note
        (.issued s.tickets step false)) with hbegun
    have h := journal_drain_of_inFlight (s := begun.note
      (.answered .outside (work.prepare s.reader).reply begun.sequencer.status)) (r := step)
      rfl rfl .outside 0
    simpa [hbegun, hasked, request, note, Journal.received_push, Journal.records_push,
      Occurrence.rotation?, Occurrence.record?, hreceived, hrecords, hbeginnings] using h

end Session

end Twisty
