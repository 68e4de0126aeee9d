import Twisty.Proofs.Sequencer.Operations

/-!
# One rotation at a time

A session keeps pace with the puzzle: the rotations it has issued are those completed so far and
then the one in flight, if there is one (`Session.Paced`). Nor does it stop while there is work to
do. In the middle of a run nothing may be in flight although requests are waiting, because the
program of a finished request is on the agenda. What is true then is that the agenda still holds the
task to advance (`Moment.Awake`), so that on an empty agenda there is something in flight or nothing
to wait for (`one_in_flight_and_no_stall`).

Every rotation is handed to the puzzle to be animated (`handed_eq`).
-/

namespace Twisty

/-- The rotations issued so far are the completed ones and then the one in flight. -/
def Session.Paced (s : Session) : Prop :=
  s.journal.received = s.journal.completions ++ s.sequencer.inFlight.toList

/-- Every change keeps pace. -/
theorem Session.Paced.change (s s' : Session) (hc : Change s s') (h : s.Paced) : s'.Paced := by
  unfold Paced at h ⊢
  rw [Journal.received_eq_map_issues] at h ⊢
  cases hc with
  | reader n => exact h
  | aside o ho =>
    cases o with
    | logged | spurious | answered => simpa [note] using h
    | requested | issued | completed | cleared | began => exact ho.elim
  | request moves name onDone => simpa [Session.request, note, Sequencer.enqueue] using h
  | clear => simpa [Session.clear, note, Sequencer.clear] using h
  | land r hf => simpa [Session.land, note, Sequencer.land, hf] using h
  | issue ticket step steps name onDone rest hfree hqueue => simpa [note, hfree] using h
  | begin ticket name onDone rest hfree hqueue => simpa [note] using h

/-- A session keeps pace at every moment of a run. -/
theorem paced_moment (reader : Notation) (commands : List Command) (n : ℕ) :
    (moment reader commands n).session.Paced :=
  Change.invariant Session.Paced.change (by rfl) n

/-- No rotation is immediate. -/
def Journal.Animated (j : Journal) : Prop :=
  j.handed = j.received.map fun r => (r, false)

/-- Every change hands over rotations that are animated. -/
theorem Journal.Animated.change (s s' : Session) (hc : Change s s') (h : s.journal.Animated) :
    s'.journal.Animated := by
  unfold Animated at h ⊢
  cases hc with
  | reader n => exact h
  | aside o ho =>
    cases o with
    | logged | spurious | answered =>
      simpa [Session.note, handed_push, received_push, Occurrence.handed?, Occurrence.rotation?]
        using h
    | requested | issued | completed | cleared | began => exact ho.elim
  | request | clear | land | issue | begin =>
    simpa [Session.request, Session.clear, Session.land, Session.note, handed_push, received_push,
      Occurrence.handed?, Occurrence.rotation?] using h

/-- At every moment of a run, what the puzzle was handed are the rotations that it received, none of
them immediate. -/
theorem handed_eq (reader : Notation) (commands : List Command) (n : ℕ) :
    (moment reader commands n).session.journal.Animated :=
  Change.invariant (p := fun s => s.journal.Animated) Journal.Animated.change (by rfl) n

/-- If nothing is in flight while requests are waiting, the agenda holds the task to advance. -/
def Moment.Awake (m : Moment) : Prop :=
  m.session.sequencer.inFlight = none → m.session.sequencer.requests ≠ [] →
    Task.advance ∈ m.agenda

/-- A task leaves the sequencer alone, or it sees to it that what comes in its place wakes it. -/
theorem Session.react_awake (s : Session) (t : Task) :
    (Moment.Awake ⟨(s.react t).1, (s.react t).2⟩) ∨
      (t ≠ .advance ∧ (s.react t).1.sequencer = s.sequencer) := by
  cases t with
  | perform site c =>
    cases c with
    | execute work name onDone =>
      simp only [react, obey]
      split
      · exact .inl fun _ _ => by simp
      · exact .inr ⟨by simp, rfl⟩
    | clear => exact .inl fun _ hne => absurd rfl hne
    | ask | complete | drain | inspect | issued | positions => exact .inr ⟨by simp, rfl⟩
  | advance =>
    left
    intro hfree hwait
    cases hnow : s.sequencer.inFlight with
    | some r =>
      simp only [react, hnow] at hfree
      cases hfree
    | none =>
      -- A rotation is issued, or a program is put on the agenda with the task to advance after it.
      rcases hqueue : s.sequencer.requests with
        _ | ⟨⟨ticket, _ | ⟨step, steps⟩, name, onDone⟩, rest⟩
      · simp [react, proceed, hnow, hqueue] at hwait
      · simp [react, proceed, hnow, hqueue]
      · simp [react, proceed, hnow, hqueue] at hfree
  | complete times =>
    cases times with
    | zero => exact .inr ⟨by simp, rfl⟩
    | succ n =>
      simp only [react]
      split
      · exact .inl fun _ _ => by simp
      · exact .inr ⟨by simp, rfl⟩
  | drain site k =>
    simp only [react]
    split
    · exact .inl fun _ _ => by simp
    · exact .inr ⟨by simp, rfl⟩
  | answer site reply => exact .inr ⟨by simp, rfl⟩

/-- A run that is awake stays awake. -/
theorem Moment.Awake.next {m : Moment} (h : m.Awake) : m.next.Awake := by
  obtain ⟨s, agenda⟩ := m
  cases agenda with
  | nil => exact h
  | cons t ts =>
    intro hfree hwait
    rcases s.react_awake t with hreact | ⟨ht, hs⟩
    · exact List.mem_append_left _ (hreact hfree hwait)
    · -- The sequencer is as before, and the task to advance is still behind `t`.
      simp only [Moment.next] at hfree hwait
      rw [hs] at hfree hwait
      rcases List.mem_cons.1 (h hfree hwait) with e | hts
      · exact absurd e.symm ht
      · exact List.mem_append_right _ hts

/-- A run is awake at every moment. -/
theorem awake_moment (reader : Notation) (commands : List Command) (n : ℕ) :
    (moment reader commands n).Awake := by
  induction n with
  | zero => exact fun _ hne => absurd rfl hne
  | succ n ih =>
    rw [moment_succ]
    exact ih.next

/-- With nothing in flight and nothing on the agenda, no request is waiting. -/
theorem requests_performAll_eq_nil (reader : Notation) (commands : List Command)
    (h : ((Session.start reader).performAll commands).sequencer.inFlight = none) :
    ((Session.start reader).performAll commands).sequencer.requests = [] := by
  obtain ⟨n, hn⟩ := exists_moment_eq_performAll reader commands
  have hawake := awake_moment reader commands n
  rw [hn] at hawake
  by_contra hne
  exact absurd (hawake h hne) List.not_mem_nil

/-- At every moment of a run the puzzle has received one rotation for each completion that was
reported with a rotation in flight, and one more if one is in flight now, which is the last that was
received. Once the commands have been performed, nothing is in flight exactly if the sequencer is
idle. -/
theorem one_in_flight_and_no_stall (reader : Notation) (commands : List Command) :
    (∀ n,
      let s := (moment reader commands n).session
      let completed := (List.range n).flatMap fun k => (moment reader commands k).completes
      s.journal.received.length =
          completed.length + (if s.sequencer.inFlight.isSome then 1 else 0) ∧
        ∀ r, s.sequencer.inFlight = some r → s.journal.received.getLast? = some r) ∧
      let s := (Session.start reader).performAll commands
      s.sequencer.inFlight = none ↔ s.sequencer.isIdle = true := by
  refine ⟨fun n => ?_, fun h => ?_, fun h => ?_⟩
  · intro s completed
    have hp : s.journal.received = completed ++ s.sequencer.inFlight.toList :=
      (paced_moment reader commands n).trans (by rw [completions_eq])
    rw [hp]
    refine ⟨?_, fun r hr => ?_⟩
    · cases s.sequencer.inFlight <;> simp
    · rw [hr]
      exact List.getLast?_concat
  · have hw := requests_performAll_eq_nil reader commands h
    simp [Sequencer.isIdle, h, hw]
  · simp only [Sequencer.isIdle, Bool.and_eq_true, Option.isNone_iff_eq_none] at h
    exact h.1

/-- In the middle of the short run the rotation in flight is the last that was received. -/
theorem in_flight_shortRun :
    let s := (moment default shortRun 14).session
    s.sequencer.inFlight = some (.layer .z (.quarter .negative) 2) ∧
      s.journal.received.getLast? = some (.layer .z (.quarter .negative) 2) := by
  intro s
  have hf : s.sequencer.inFlight = some (.layer .z (.quarter .negative) 2) := by decide
  exact ⟨hf, ((one_in_flight_and_no_stall default shortRun).1 14).2 _ hf⟩

end Twisty
