import Mathlib.Data.List.Range
import Twisty.Proofs.Sequencer.Run

/-!
# The operations of a run

A journal says what was done, and a moment of a run what is about to be done. The next task may
execute moves with a program (`Moment.executes`), for which it makes a request (`Moment.requests`),
drop requests (`Moment.drops`), report the completion of a rotation (`Moment.completes`) or begin
the program of a request (`Moment.begins`). `requests_eq`, `orders_eq`, `dropped_eq`,
`completions_eq` and `beginnings_eq` say that the journal lists just what the tasks so far have
done, in order.
-/

namespace Twisty

/-- What a request was made for: its rotations and its program. -/
def Request.order (r : Request) : List Rotation × List Command :=
  (r.steps, r.onDone)

namespace Moment

/-- The moves that the next task executes, with the program to be run when they are done. Work that
is refused is not executed. -/
def executes (m : Moment) : List (List Move × List Command) :=
  match m.agenda with
  | .perform _ (.execute work _ onDone) :: _ =>
    ((work.prepare m.session.reader).moves?.map fun moves => (moves, onDone)).toList
  | _ => []

/-- The request that the next task makes. -/
def requests (m : Moment) : List Request :=
  match m.agenda with
  | .perform _ (.execute work name onDone) :: _ =>
    ((work.prepare m.session.reader).moves?.map fun moves =>
      ⟨m.session.tickets, expandAll moves, name, onDone⟩).toList
  | _ => []

/-- The requests that the next task drops. -/
def drops (m : Moment) : List Request :=
  match m.agenda with
  | .perform _ .clear :: _ => m.session.sequencer.requests
  | _ => []

/-- The rotation that the next task finds in flight when it reports a completion. -/
def completes (m : Moment) : List Rotation :=
  match m.agenda with
  | .complete (_ + 1) :: _ | .drain _ _ :: _ => m.session.sequencer.inFlight.toList
  | _ => []

/-- The request whose program the next task begins: the front one, if nothing is in flight and it
has no rotation left. -/
def begins (m : Moment) : List Request :=
  match m.agenda, m.session.sequencer.inFlight, m.session.sequencer.requests with
  | .advance :: _, none, ⟨ticket, [], name, onDone⟩ :: _ => [⟨ticket, [], name, onDone⟩]
  | _, _, _ => []

/-- A request is made for the moves that are executed. -/
theorem map_order_requests (m : Moment) :
    m.requests.map Request.order = m.executes.map (Prod.map expandAll id) := by
  unfold requests executes
  split
  · next work _ _ _ _ =>
    cases (work.prepare m.session.reader).moves? with
    | none => rfl
    | some moves => rfl
  · rfl

/-- A view that each task extends by what a function of the moment says lists the values of that
function at all moments so far. -/
theorem gather_moment_eq {α : Type} {view : Occurrence → List α} {f : Moment → List α}
    (h : ∀ m : Moment, m.next.session.journal.gather view =
      m.session.journal.gather view ++ f m) (reader : Notation) (commands : List Command) (n : ℕ) :
    (moment reader commands n).session.journal.gather view =
      (List.range n).flatMap fun k => f (moment reader commands k) := by
  induction n with
  | zero => rfl
  | succ n ih =>
    rw [moment_succ, h, ih, List.range_succ, List.flatMap_append, List.flatMap_singleton]

/-- Reports are seen by no view that does not see them. -/
theorem gather_log {α : Type} {view : Occurrence → List α} (h : ∀ r, view (.logged r) = [])
    (s : Session) (records : List LogRecord) :
    (s.log records).journal.gather view = s.journal.gather view := by
  simp [Session.log, Journal.gather, List.flatMap_map, h]

/-- The views of a journal that list operations are extended by those of the next task. -/
theorem views_next (m : Moment) :
    m.next.session.journal.requests = m.session.journal.requests ++ m.requests ∧
      m.next.session.journal.dropped = m.session.journal.dropped ++ m.drops ∧
      m.next.session.journal.completions = m.session.journal.completions ++ m.completes ∧
      m.next.session.journal.beginnings =
        m.session.journal.beginnings ++ m.begins.map Request.ticket := by
  have hrequests := @gather_log _ Occurrence.requests fun _ => rfl
  have hdropped := @gather_log _ Occurrence.dropped fun _ => rfl
  have hcompletions := @gather_log _ Occurrence.completions fun _ => rfl
  have hbeginnings := @gather_log _ Occurrence.beginnings fun _ => rfl
  obtain ⟨s, agenda⟩ := m
  rcases agenda with _ | ⟨t, ts⟩
  · simp [next, requests, drops, completes, begins]
  simp only [next, requests, drops, completes, begins]
  cases t with
  | perform site c =>
    cases c with
    | execute work name onDone =>
      simp only [Session.react, Session.obey]
      cases (work.prepare s.reader).moves? with
      | none => simp [hrequests, hdropped, hcompletions, hbeginnings]
      | some moves =>
        simp [Session.request, Session.note, hrequests, hdropped, hcompletions, hbeginnings]
    | clear => simp [Session.react, Session.obey, Session.clear, Session.note]
    | ask q =>
      simp [Session.react, Session.obey, hrequests, hdropped, hcompletions, hbeginnings]
    | complete | drain | inspect | issued | positions => simp [Session.react, Session.obey]
  | advance =>
    cases hfree : s.sequencer.inFlight with
    | some r => simp [Session.react, hfree]
    | none =>
      rcases hqueue : s.sequencer.requests with _ | ⟨⟨ticket, _ | ⟨step, steps⟩, name, onDone⟩, rest⟩
      all_goals simp [Session.react, Session.proceed, Session.note, hfree, hqueue]
  | complete times =>
    cases times with
    | zero => simp [Session.react]
    | succ n =>
      simp only [Session.react, Session.land, Session.note]
      split <;> simp [*]
  | drain site k =>
    simp only [Session.react, Session.land, Session.note]
    split <;> simp [*]
  | answer site reply => simp [Session.react, Session.note]

end Moment

variable (reader : Notation) (commands : List Command) (n : ℕ)

/-- The requests of the journal are those that `execute` made. -/
theorem requests_eq :
    (moment reader commands n).session.journal.requests =
      (List.range n).flatMap fun k => (moment reader commands k).requests :=
  Moment.gather_moment_eq (fun m => m.views_next.1) ..

/-- The requests of the journal are made with the expansions of the executed moves and with their
programs. -/
theorem orders_eq :
    (moment reader commands n).session.journal.requests.map Request.order =
      (List.range n).flatMap fun k =>
        (moment reader commands k).executes.map (Prod.map expandAll id) := by
  rw [requests_eq, List.map_flatMap]
  exact List.flatMap_congr fun k _ => Moment.map_order_requests _

/-- The dropped requests of the journal are those that `clear` found unfinished. -/
theorem dropped_eq :
    (moment reader commands n).session.journal.dropped =
      (List.range n).flatMap fun k => (moment reader commands k).drops :=
  Moment.gather_moment_eq (fun m => m.views_next.2.1) ..

/-- The completions of the journal are those that were reported with a rotation in flight. -/
theorem completions_eq :
    (moment reader commands n).session.journal.completions =
      (List.range n).flatMap fun k => (moment reader commands k).completes :=
  Moment.gather_moment_eq (fun m => m.views_next.2.2.1) ..

/-- A turn of a face of the puzzle with three layers. -/
def faceTurn (face : Face) (modifier : Modifier) : Move :=
  .ofTurn (.base (.face face)) (.ofFace .three face 1) modifier

/-- A short run. Two requests are made, of which the first has a program that makes a third, and
when its rotation has been completed, the other two are dropped unfinished. -/
def shortRun : List Command :=
  [.execute (.moves [faceTurn .right .plain]) [] [.execute (.moves [faceTurn .up .plain]) [] []],
    .execute (.moves [faceTurn .front .double]) [] [], .complete 1, .clear, .complete 1]

end Twisty
