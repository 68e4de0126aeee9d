import Twisty.Proofs.Sequencer.Programs
import Twisty.Proofs.Sequencer.Single

/-!
# Empty requests

A request without rotations is done as soon as the sequencer turns to it. Where it is the only
request and nothing is in flight, that is at once, while the call that makes it is under way, and
whatever the program does, the program begins only this once (`empty_request_done`).

That no other request is waiting is not enough. The requests may have been dropped while a rotation
of one of them was in flight, and an empty request that is made then waits for that rotation
(`clearedRun`). Its program begins with the next report of a completion, before anything else is
issued.
-/

namespace Twisty

variable {s : Session} {site : Site} {work : Work} {name : List Char} {onDone : List Command}
  {moves : List Move} {later : List Task} {ticket : ℕ} {rest : List Request}

namespace Moment

/-- Work that is executed is requested, and the session then has to advance and to answer. -/
theorem next_perform_execute {records : List LogRecord} {reply : Reply}
    (h : work.prepare s.reader = ⟨some moves, records, reply⟩) :
    next ⟨s, .perform site (.execute work name onDone) :: later⟩ =
      ⟨(s.log records).request moves name onDone, .advance :: .answer site reply :: later⟩ := by
  simp only [next, Session.react, Session.obey, h]
  rfl

/-- Advancing with nothing in flight begins the program of a front request without rotations. -/
theorem begins_advance (hfree : s.sequencer.inFlight = none)
    (hqueue : s.sequencer.requests = ⟨ticket, [], name, onDone⟩ :: rest) :
    begins ⟨s, .advance :: later⟩ = [⟨ticket, [], name, onDone⟩] := by
  simp only [begins, hfree, hqueue]

/-- The report of a completion is followed by the beginning of the program of a front request
without rotations. -/
theorem begins_next_complete {r : Rotation} (hflight : s.sequencer.inFlight = some r)
    (hqueue : s.sequencer.requests = ⟨ticket, [], name, onDone⟩ :: rest) :
    begins (next ⟨s, .complete 1 :: later⟩) = [⟨ticket, [], name, onDone⟩] := by
  have hnext : next ⟨s, .complete 1 :: later⟩ = ⟨s.land r, .advance :: .complete 0 :: later⟩ := by
    simp only [next, Session.react, hflight]
    rfl
  rw [hnext]
  exact begins_advance rfl hqueue

/-- A program that is about to begin will have begun when the agenda is done. What is done after the
beginning, such as the program itself, only adds to the journal. -/
theorem mem_beginnings_settle {m : Moment} {r : Request} (hr : r ∈ m.begins) :
    r.ticket ∈ (m.session.settle m.agenda).journal.beginnings := by
  have hnext : r.ticket ∈ m.next.session.journal.beginnings := by
    rw [m.views_next.2.2.2]
    exact List.mem_append_right _ (List.mem_map_of_mem hr)
  obtain ⟨more, hmore⟩ := m.next.session.exists_journal_settle_eq m.next.agenda
  rw [← m.settle_next, hmore, Journal.beginnings, Journal.gather_append]
  exact List.mem_append_left _ hnext

end Moment

/-! ### The only request -/

namespace Session

/-- Where no request is waiting, a request without rotations is the only one. -/
theorem sequencer_request_of_empty (hempty : expandAll moves = [])
    (hnone : s.sequencer.requests = []) (records : List LogRecord) :
    ((s.log records).request moves name onDone).sequencer =
      ⟨[⟨s.tickets, [], name, onDone⟩], s.sequencer.inFlight⟩ := by
  simp [request, Sequencer.enqueue, hempty, hnone]

/-- The puzzle receives nothing, and no program begins, by the making of a request. -/
theorem journal_request (s : Session) (records : List LogRecord) (moves : List Move)
    (name : List Char) (onDone : List Command) :
    ((s.log records).request moves name onDone).journal.received = s.journal.received ∧
      ((s.log records).request moves name onDone).journal.beginnings = s.journal.beginnings := by
  have hbeginnings := @Moment.gather_log _ Occurrence.beginnings (fun _ => rfl) s records
  obtain ⟨hreceived, -⟩ := s.journal_log records
  simp [request, note, Journal.received_push, Occurrence.rotation?, hreceived, hbeginnings]

/-- Advancing with a rotation in flight does nothing, so that there is only an answer to give. -/
theorem settle_advance_of_inFlight {r : Rotation} (hflight : s.sequencer.inFlight = some r)
    (site : Site) (reply : Reply) :
    s.settle [.advance, .answer site reply] =
      s.note (.answered site reply s.sequencer.status) := by
  have hreact : s.react .advance = (s, []) := by
    simp only [react, hflight]
  rw [settle_cons, hreact]
  exact s.settle_answer site reply

end Session

section Run

variable {reader : Notation} {commands : List Command} {n : ℕ}

/-- The program of a request that is yet to be made has not begun. -/
theorem tickets_not_mem_beginnings :
    (moment reader commands n).session.tickets ∉
      (moment reader commands n).session.journal.beginnings := fun h =>
  ((sound_ledger reader commands n).mem_placed_iff.1 (List.mem_append_left _ h)).ne rfl

/-- No program begins twice in a run. -/
theorem count_beginnings_eq_one
    (h : ticket ∈ (moment reader commands n).session.journal.beginnings) :
    (moment reader commands n).session.journal.beginnings.count ticket = 1 :=
  List.count_eq_one_of_mem (List.nodup_append.1 (sound_ledger reader commands n).nodup).1 h

/-- A call that executes moves without rotations, while no other request is pending, returns. If
nothing is in flight, the program of the call begins once until then. It begins before anything has
been received since the call was made, and its commands are the next to be performed. If a rotation
is in flight, the call returns without having begun the program, and with nothing received. The
program is begun when the completion of that rotation is reported next. -/
theorem empty_request_done
    (hcall : moment reader commands n = ⟨s, .perform site (.execute work name onDone) :: later⟩)
    (hmoves : (work.prepare s.reader).moves? = some moves) (hempty : expandAll moves = [])
    (hpending : s.sequencer.pendingRequests = 0) :
    let returned := s.settle [.perform site (.execute work name onDone)]
    (∃ k, moment reader commands (n + k) = ⟨returned, later⟩) ∧
      s.tickets ∉ s.journal.beginnings ∧
      (s.sequencer.inFlight = none →
        returned.journal.beginnings.count s.tickets = 1 ∧
          (moment reader commands (n + 1)).begins = [⟨s.tickets, [], name, onDone⟩] ∧
          (moment reader commands (n + 2)).session.journal.received = s.journal.received ∧
          ∃ rest, (moment reader commands (n + 2)).agenda =
            onDone.map (.perform (.program name)) ++ rest) ∧
      ∀ r, s.sequencer.inFlight = some r →
        returned.journal.beginnings = s.journal.beginnings ∧
          returned.journal.received = s.journal.received ∧
          ∀ rest, (Moment.next ⟨returned, .complete 1 :: rest⟩).begins =
            [⟨s.tickets, [], name, onDone⟩] := by
  intro returned
  have hnone : s.sequencer.requests = [] := List.length_eq_zero_iff.1 hpending
  obtain ⟨records, reply, hwork⟩ : ∃ records reply,
      work.prepare s.reader = ⟨some moves, records, reply⟩ := ⟨_, _, by rw [← hmoves]⟩
  set asked := (s.log records).request moves name onDone with hasked
  have hsequencer : asked.sequencer = ⟨[⟨s.tickets, [], name, onDone⟩], s.sequencer.inFlight⟩ :=
    Session.sequencer_request_of_empty hempty hnone records
  have hqueue := congrArg Sequencer.requests hsequencer
  have hflight := congrArg Sequencer.inFlight hsequencer
  obtain ⟨hreceived, hbeginnings⟩ := s.journal_request records moves name onDone
  rw [← hasked] at hreceived hbeginnings
  have hsettle : returned = asked.settle [.advance, .answer site reply] :=
    Session.settle_execute hwork site name onDone
  have hnext : moment reader commands (n + 1) =
      ⟨asked, .advance :: .answer site reply :: later⟩ := by
    rw [moment_succ, hcall]
    exact Moment.next_perform_execute hwork
  obtain ⟨k, hk⟩ := s.exists_iterate_next_append [.perform site (.execute work name onDone)] later
  have hreturned : moment reader commands (n + k) = ⟨returned, later⟩ := by
    rw [moment_add, hcall]
    exact hk
  refine ⟨⟨k, hreturned⟩, ?_, fun hfree => ?_, fun r hr => ?_⟩
  · have h := @tickets_not_mem_beginnings reader commands n
    rwa [hcall] at h
  · rw [hfree] at hflight
    have hadvance : ∀ later, (⟨asked, .advance :: later⟩ : Moment).begins =
        [⟨s.tickets, [], name, onDone⟩] := fun _ => Moment.begins_advance hflight hqueue
    have hbegins : (moment reader commands (n + 1)).begins = [⟨s.tickets, [], name, onDone⟩] := by
      rw [hnext]
      exact hadvance _
    obtain ⟨-, hissues, hagenda⟩ :=
      Moment.next_of_mem_begins (hbegins ▸ List.mem_singleton_self _)
    rw [← moment_succ] at hissues hagenda
    refine ⟨?_, hbegins, ?_, hagenda⟩
    · have hmem : s.tickets ∈ returned.journal.beginnings := by
        rw [hsettle]
        exact Moment.mem_beginnings_settle (hadvance _ ▸ List.mem_singleton_self _)
      have hcount := @count_beginnings_eq_one s.tickets reader commands (n + k)
      rw [hreturned] at hcount
      exact hcount hmem
    · rw [Journal.received_eq_map_issues, hissues, ← Journal.received_eq_map_issues, hnext]
      exact hreceived
  · rw [hsettle, Session.settle_advance_of_inFlight (hflight.trans hr)]
    obtain ⟨hreceived', -, hbeginnings'⟩ :=
      asked.journal_answered site reply asked.sequencer.status
    exact ⟨hbeginnings'.trans hbeginnings, hreceived'.trans hreceived,
      fun rest => Moment.begins_next_complete (hflight.trans hr) hqueue⟩

end Run

/-- A request that moves nothing has a program that executes a slice, which is no move on a puzzle
of even size. -/
def emptyRun : List Command :=
  [.execute (.moves []) "outer".toList [.execute (.token "M".toList) "inner".toList []]]

/-- The requests are dropped while a rotation is in flight, and an empty request is made. -/
def clearedRun : List Command :=
  [.execute (.algorithm "R".toList) [] [], .clear,
    .execute (.algorithm []) "after".toList []]

/-- On a puzzle of size 4, the request for the slice is made inside the program and begins its own
program at once. In the other run, the last request is made with a rotation in flight, and begins
its program with the report of the completion. -/
theorem empty_request_done_in_two_runs :
    let four := Notation.ofSize ⟨4, by decide⟩
    let s := (moment four emptyRun 2).session
    let t := (moment default clearedRun 5).session
    let call := Task.perform .outside (.execute (.algorithm []) "after".toList [])
    s.sequencer.inFlight = none ∧ (moment four emptyRun 3).begins = [⟨1, [], "inner".toList, []⟩] ∧
      (moment four emptyRun 4).session.journal.received = [] ∧
      t.sequencer.inFlight = some (.layer .x (.quarter .negative) 2) ∧
      (t.settle [call]).journal.beginnings = [] ∧
      (Moment.next ⟨t.settle [call], [.complete 1]⟩).begins = [⟨1, [], "after".toList, []⟩] := by
  intro four s t call
  have hinside : moment four emptyRun 2 =
      ⟨s, [.perform (.program "outer".toList) (.execute (.token "M".toList) "inner".toList []),
        .advance, .answer .outside .nothing]⟩ := rfl
  have houtside : moment default clearedRun 5 = ⟨t, [call]⟩ := rfl
  obtain ⟨-, -, hfree, -⟩ := empty_request_done hinside rfl rfl rfl
  obtain ⟨-, -, -, hflight⟩ := empty_request_done houtside rfl rfl rfl
  obtain ⟨-, hbegins, hreceived, -⟩ := hfree rfl
  obtain ⟨hbeginnings, -, hcomplete⟩ := hflight _ rfl
  exact ⟨rfl, hbegins, hreceived, rfl, hbeginnings, hcomplete []⟩

/-- When the last request of this run is about to be made, none is pending, and it has no rotation.
Yet the call returns, and nothing is left to be done, without any program having begun. -/
theorem empty_request_not_done_in_clearedRun :
    let run := moment default clearedRun
    let call := Command.execute (.algorithm []) "after".toList []
    (run 5).agenda = [.perform .outside call] ∧
      (run 5).session.sequencer.pendingRequests = 0 ∧
      (Work.prepare (run 5).session.reader (.algorithm [])).moves?.map expandAll = some [] ∧
      (run 8).agenda = [] ∧ (run 8).session.journal.beginnings = [] := by
  intro run call
  exact ⟨rfl, rfl, rfl, rfl, rfl⟩

end Twisty
