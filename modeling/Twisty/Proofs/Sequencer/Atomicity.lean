import Twisty.Proofs.Sequencer.Programs
import Twisty.Proofs.Sequencer.Single

/-!
# Counted algorithms

An algorithm that is executed and counted is first made ready by the notation, which alone looks at
its words, and what is made ready is then executed or refused. Whatever is executed has the same
effect as the moves of the algorithm, once their reading has been reported
(`Session.settle_execute_of_accepted`): a strict algorithm of which all words are moves, and a
lenient one in any case. A refused one is answered and leaves nothing else behind, neither in the
session nor for later: no request is made for its program, and every program that begins is that of
a request (`exists_request_of_mem_begins`). So the run goes on as it would with any other program
(`Moment.next_eq_of_refused`).
-/

namespace Twisty

open Text

/-! ### Refused work -/

/-- No request is made for work that is refused. -/
theorem Moment.requests_eq_nil_of_refused {s : Session} {site : Site} {work : Work}
    {name : List Char} {onDone : List Command} {later : List Task}
    (h : (work.prepare s.reader).moves? = none) :
    requests ⟨s, .perform site (.execute work name onDone) :: later⟩ = [] := by
  simp only [requests, h]
  rfl

/-- Work that is refused without a report leaves only its answer to be given, whatever its program
is. -/
theorem Moment.next_eq_of_refused {s : Session} {work : Work} {reply : Reply}
    (h : work.prepare s.reader = ⟨none, [], reply⟩) (site : Site) (name : List Char)
    (onDone : List Command) (later : List Task) :
    next ⟨s, .perform site (.execute work name onDone) :: later⟩ =
      ⟨s, .answer site reply :: later⟩ := by
  simp only [next, Session.react, Session.obey, h, Session.log_nil]
  rfl

/-- A program that begins is that of a request that was made at an earlier moment. -/
theorem exists_request_of_mem_begins {reader : Notation} {commands : List Command} {l : ℕ}
    {r : Request} (hr : r ∈ (moment reader commands l).begins) :
    ∃ j < l, ∃ q ∈ (moment reader commands j).requests,
      q.ticket = r.ticket ∧ q.name = r.name ∧ q.onDone = r.onDone := by
  obtain ⟨-, -, ⟨rest, hqueue⟩, -⟩ := Moment.of_mem_begins hr
  have hwaiting : r ∈ (moment reader commands l).session.ledger.waiting := by
    rw [Session.ledger, hqueue]
    exact List.mem_cons_self
  obtain ⟨q, hq, hsame⟩ := (sound_ledger reader commands l).kept r hwaiting
  rw [Session.ledger, requests_eq] at hq
  obtain ⟨j, hj, hq⟩ := List.mem_flatMap.1 hq
  exact ⟨j, List.mem_range.1 hj, q, hq, hsame⟩

/-- Where work is refused without a report, the run goes on behind its answer as it would with any
other program, and no program that begins is that of a request made there. -/
theorem run_of_refused {reader : Notation} {commands : List Command} {k : ℕ} {s : Session}
    {site : Site} {work : Work} {name : List Char} {onDone : List Command} {later : List Task}
    {reply : Reply}
    (hk : moment reader commands k = ⟨s, .perform site (.execute work name onDone) :: later⟩)
    (h : work.prepare s.reader = ⟨none, [], reply⟩) :
    moment reader commands (k + 2) =
        ⟨s.note (.answered site reply s.sequencer.status), later⟩ ∧
      (∀ name' onDone' i, moment reader commands (k + (i + 1)) =
        Moment.next^[i + 1] ⟨s, .perform site (.execute work name' onDone') :: later⟩) ∧
      ∀ l, ∀ r ∈ (moment reader commands l).begins,
        ∃ j < l, j ≠ k ∧ ∃ q ∈ (moment reader commands j).requests,
          q.ticket = r.ticket ∧ q.name = r.name ∧ q.onDone = r.onDone := by
  have hnext := Moment.next_eq_of_refused h site
  have hrun : ∀ i, moment reader commands (k + (i + 1)) =
      Moment.next^[i] ⟨s, .answer site reply :: later⟩ := by
    intro i
    rw [moment_add, hk, Function.iterate_succ_apply, hnext]
  refine ⟨hrun 1, fun name' onDone' i => ?_, fun l r hr => ?_⟩
  · rw [hrun, Function.iterate_succ_apply, hnext]
  · obtain ⟨j, hj, q, hq, hsame⟩ := exists_request_of_mem_begins hr
    refine ⟨j, hj, ?_, q, hq, hsame⟩
    rintro rfl
    rw [hk, Moment.requests_eq_nil_of_refused (congrArg Prepared.moves? h)] at hq
    cases hq

/-- Every call that executes some work returns, whatever is left to do behind it. To execute and
count an algorithm is to read it and to execute its moves. Without strictness it has the same effect
as that, and it answers with the number of the moves, which is that of the words that are moves.
With strictness it has the same effect and the same answer if all words are moves, and nothing is
reported. If one is not, it answers with the errors of all words that are not moves, in order, and
the session stays as it was otherwise: the sequencer, what the puzzle has received and the log. The
run then goes on as with any other program, and every program that begins in it, then or later, is
that of a request that was made at another moment. -/
theorem counted_executes_or_refuses (s : Session) (site : Site) (text name : List Char)
    (onDone : List Command) :
    let n := s.reader
    let read := n.algorithm text
    let call := fun (t : Session) (work : Work) =>
      t.settle [.perform site (.execute work name onDone)]
    let answered := fun (t : Session) (reply : Reply) =>
      t.note (.answered site reply t.sequencer.status)
    let executed := ((s.log read.records).request read.value name onDone).settle [.advance]
    (∀ work later, ∃ i, Moment.next^[i] ⟨s, .perform site (.execute work name onDone) :: later⟩ =
        ⟨call s work, later⟩) ∧
      call (s.log read.records) (.moves read.value) = answered executed .nothing ∧
      call s (.algorithm text) = answered executed .nothing ∧
      call s (.counted text false) = answered executed (.count read.value.length) ∧
      read.value.length = ((words text).filter fun t => (n.move t).isOk).length ∧
      ((∀ t ∈ words text, ∃ m, n.move t = .ok m) →
        call s (.counted text true) = answered executed (.count read.value.length) ∧
          read.records = [] ∧ read.value.length = (words text).length) ∧
      ((∃ t ∈ words text, ∃ e, n.move t = .error e) →
        ∃ es, ((words text).filter fun t => !(n.move t).isOk).map n.move = es.map .error ∧
          let refused := call s (.counted text true)
          refused = answered s (.refusedAll es) ∧ refused.sequencer = s.sequencer ∧
            refused.journal.received = s.journal.received ∧
            refused.journal.records = s.journal.records ∧
            ∀ reader commands k later,
              moment reader commands k =
                  ⟨s, .perform site (.execute (.counted text true) name onDone) :: later⟩ →
                moment reader commands (k + 2) = ⟨refused, later⟩ ∧
                  (∀ name' onDone' i, moment reader commands (k + (i + 1)) = Moment.next^[i + 1]
                    ⟨s, .perform site (.execute (.counted text true) name' onDone') :: later⟩) ∧
                  ∀ l, ∀ r ∈ (moment reader commands l).begins,
                    ∃ j < l, j ≠ k ∧ ∃ q ∈ (moment reader commands j).requests,
                      q.ticket = r.ticket ∧ q.name = r.name ∧ q.onDone = r.onDone) := by
  intro n read call answered executed
  have hlength : read.value.length = ((words text).filter fun t => (n.move t).isOk).length := by
    have hmoves := congrArg List.length (n.map_move_filter_isOk (words text))
    rw [List.length_map, List.length_map] at hmoves
    exact hmoves.symm
  refine ⟨fun work later => s.exists_iterate_next_append [.perform site (.execute work name onDone)]
    later, ?_, Session.settle_execute_of_accepted rfl site name onDone,
    Session.settle_execute_of_accepted rfl site name onDone, hlength, fun hmoves => ?_, ?_⟩
  · have hwork : (Work.moves read.value).prepare (s.log read.records).reader =
        ⟨some read.value, [], .nothing⟩ := rfl
    have h := Session.settle_execute_of_accepted hwork site name onDone
    rwa [Session.log_nil] at h
  · have herrors : n.errors (words text) = [] := Notation.errors_eq_nil_iff.2 hmoves
    have hrecords : read.records = [] := by
      rw [n.algorithm_records, herrors, List.map_nil]
    have hwork := Work.prepare_counted_of_errors_eq_nil herrors
    rw [← hrecords] at hwork
    have hwords := n.length_moves_add_length_errors (words text)
    rw [herrors, List.length_nil, Nat.add_zero] at hwords
    exact ⟨Session.settle_execute_of_accepted hwork site name onDone, hrecords, hwords⟩
  · rintro ⟨t, ht, e, he⟩
    have hwork := Work.prepare_counted_of_errors_ne_nil (Notation.errors_ne_nil_of_mem ht he)
    have hrefused := Session.settle_execute_of_refused hwork site name onDone
    rw [Session.log_nil] at hrefused
    obtain ⟨hreceived, hrecords, -⟩ :=
      s.journal_answered site (.refusedAll (n.errors (words text))) s.sequencer.status
    rw [← hrefused] at hreceived hrecords
    have hsequencer := (congrArg Session.sequencer hrefused).trans (s.note_sequencer _)
    refine ⟨n.errors (words text), n.map_move_filter_not_isOk _, hrefused, hsequencer, hreceived,
      hrecords, ?_⟩
    intro reader commands k later hk
    have hrun := run_of_refused hk hwork
    rwa [← hrefused] at hrun

/-- An empty request has a program that executes a strict algorithm with a word that is not a move.
After it another algorithm is executed, with a program of the same name, and completed. -/
def refusedRun : List Command :=
  [.execute (.moves []) "outer".toList [.execute (.counted "R q".toList true) "inner".toList []],
    .execute (.counted "U".toList true) "inner".toList [], .complete 1]

/-- After two tasks the refused algorithm is about to be executed. Nothing is left of it after two
more, and the program of the same name that begins in the end is that of another request. A strict
algorithm of two moves would be executed there like a lenient one. -/
theorem counted_refused_in_refusedRun :
    let s := (moment default refusedRun 2).session
    let refused := Command.execute (.counted "R q".toList true) "inner".toList []
    let accepted := fun strict => Command.execute (.counted "R U".toList strict) "inner".toList []
    (moment default refusedRun 2).agenda.head? = some (.perform (.program "outer".toList) refused) ∧
      (moment default refusedRun 4).session.sequencer = s.sequencer ∧
      (∀ l, ∀ r ∈ (moment default refusedRun l).begins,
        ∃ j < l, j ≠ 2 ∧ ∃ q ∈ (moment default refusedRun j).requests, q.ticket = r.ticket) ∧
      s.settle [.perform .outside (accepted true)] =
        s.settle [.perform .outside (accepted false)] := by
  intro s refused accepted
  obtain ⟨-, -, -, -, -, -, hrefused⟩ :=
    counted_executes_or_refuses s (.program "outer".toList) "R q".toList "inner".toList []
  obtain ⟨-, -, -, hlenient, -, hstrict, -⟩ :=
    counted_executes_or_refuses s .outside "R U".toList "inner".toList []
  have hbad : ∃ t ∈ words "R q".toList, ∃ e, s.reader.move t = .error e :=
    ⟨['q'], by decide +kernel, .unknownToken ['q'], by decide +kernel⟩
  have hmoves : ∀ t ∈ words "R U".toList, ∃ m, s.reader.move t = .ok m :=
    Notation.errors_eq_nil_iff.1 (by decide +kernel)
  obtain ⟨es, -, -, hsequencer, -, -, hrun⟩ := hrefused hbad
  obtain ⟨hafter, -, hbegins⟩ := hrun default refusedRun 2 _ rfl
  refine ⟨rfl, ?_, fun l r hr => ?_, (hstrict hmoves).1.trans hlenient.symm⟩
  · rw [hafter]
    exact hsequencer
  · obtain ⟨j, hj, hne, q, hq, hticket, -⟩ := hbegins l r hr
    exact ⟨j, hj, hne, q, hq, hticket⟩

end Twisty
