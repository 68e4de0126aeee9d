import Mathlib.Logic.Function.Iterate
import Mathlib.Logic.Relation
import Twisty.Proofs.Notation.Resizing
import Twisty.Proofs.Sequencer.Journal

/-!
# The moments of a run

A run carries out a list of commands on a new session, and `moment reader commands n` is where it
stands after `n` tasks: at the beginning, between two commands, and anywhere inside the programs of
finished requests, which run while the command that finished them is still on the agenda. The last
moment is what performing the commands comes to (`exists_moment_eq_performAll`).

A task does a few things from a short list, given by `Change`, which says under which condition each
is done and what becomes of the session. What `Change` preserves holds at every moment of every run
(`Change.invariant`).
-/

namespace Twisty

/-- A session, and what remains to be done. -/
structure Moment where
  session : Session
  agenda : List Task

/-- The moment after the first task of the agenda. Nothing follows an empty agenda. -/
def Moment.next (m : Moment) : Moment :=
  match m.agenda with
  | [] => m
  | t :: ts => ⟨(m.session.react t).1, (m.session.react t).2 ++ ts⟩

/-- Where a run of commands stands after a number of tasks. -/
def moment (reader : Notation) (commands : List Command) (n : ℕ) : Moment :=
  Moment.next^[n] ⟨.start reader, commands.map (.perform .outside)⟩

theorem moment_succ (reader : Notation) (commands : List Command) (n : ℕ) :
    moment reader commands (n + 1) = (moment reader commands n).next :=
  Function.iterate_succ_apply' ..

theorem moment_add (reader : Notation) (commands : List Command) (n k : ℕ) :
    moment reader commands (n + k) = Moment.next^[k] (moment reader commands n) := by
  rw [Nat.add_comm]
  exact Function.iterate_add_apply ..

namespace Session

/-- An agenda is done in order: its first part, and then the rest. -/
theorem settle_append (s : Session) (first rest : List Task) :
    s.settle (first ++ rest) = (s.settle first).settle rest := by
  fun_induction s.settle first with
  | case1 s => rfl
  | case2 s t ts ih =>
    rw [List.cons_append, settle, ← List.append_assoc]
    exact ih

/-- Performing commands one by one is doing the agenda on which they all are. -/
theorem performAll_eq_settle (s : Session) (commands : List Command) :
    s.performAll commands = s.settle (commands.map (.perform .outside)) := by
  induction commands generalizing s with
  | nil => rw [List.map_nil, settle]; rfl
  | cons c cs ih =>
    calc s.performAll (c :: cs) = (s.perform c).performAll cs := rfl
      _ = (s.settle [.perform .outside c]).settle (cs.map (.perform .outside)) := ih _
      _ = s.settle ((c :: cs).map (.perform .outside)) := (settle_append ..).symm

/-- The first task is done before all others. -/
theorem settle_cons (s : Session) (t : Task) (ts : List Task) :
    s.settle (t :: ts) = (s.react t).1.settle ((s.react t).2 ++ ts) := by
  rw [settle]

/-- Nothing is to be done for an empty agenda. -/
@[simp]
theorem settle_nil (s : Session) : s.settle [] = s := by
  rw [settle]

/-- A single task is followed by what takes its place. -/
theorem settle_singleton {s s' : Session} {t : Task} {ts : List Task}
    (h : s.react t = (s', ts)) : s.settle [t] = s'.settle ts := by
  rw [settle_cons, h, List.append_nil]

/-- The first part of an agenda is done after some tasks, and the rest is then left. -/
theorem exists_iterate_next_append (s : Session) (first rest : List Task) :
    ∃ n, Moment.next^[n] ⟨s, first ++ rest⟩ = ⟨s.settle first, rest⟩ := by
  -- The induction is on what is left to do, as in the definition of `settle`.
  fun_induction s.settle first with
  | case1 s => exact ⟨0, rfl⟩
  | case2 s t ts ih =>
    obtain ⟨n, hn⟩ := ih
    have hnext : Moment.next ⟨s, t :: ts ++ rest⟩ =
        ⟨(s.react t).1, (s.react t).2 ++ ts ++ rest⟩ := by
      rw [List.append_assoc]
      rfl
    refine ⟨n + 1, ?_⟩
    rw [Function.iterate_succ_apply, hnext]
    exact hn

/-- Doing an agenda task by task comes to an end, at which nothing is left on it. -/
theorem exists_iterate_next_eq_settle (s : Session) (agenda : List Task) :
    ∃ n, Moment.next^[n] ⟨s, agenda⟩ = ⟨s.settle agenda, []⟩ := by
  have h := s.exists_iterate_next_append agenda []
  rwa [List.append_nil] at h

end Session

/-- Every run comes to an end, and then the commands have been performed. -/
theorem exists_moment_eq_performAll (reader : Notation) (commands : List Command) :
    ∃ n, moment reader commands n = ⟨(Session.start reader).performAll commands, []⟩ := by
  rw [Session.performAll_eq_settle]
  exact Session.exists_iterate_next_eq_settle ..

/-- A task does not change what the agenda comes to. -/
theorem Moment.settle_next (m : Moment) :
    m.next.session.settle m.next.agenda = m.session.settle m.agenda := by
  obtain ⟨s, agenda⟩ := m
  cases agenda with
  | nil => rfl
  | cons t ts => exact (s.settle_cons t ts).symm

/-- Where nothing is left on the agenda, the commands have been performed. -/
theorem session_moment_eq (reader : Notation) (commands : List Command) {n : ℕ}
    (h : (moment reader commands n).agenda = []) :
    (moment reader commands n).session = (Session.start reader).performAll commands := by
  have hsettle : ∀ n, (moment reader commands n).session.settle (moment reader commands n).agenda =
      (Session.start reader).performAll commands := by
    intro n
    induction n with
    | zero => exact (Session.performAll_eq_settle ..).symm
    | succ n ih => rw [moment_succ, Moment.settle_next, ih]
  rw [← hsettle n, h, Session.settle_nil]

/-! ### Changes of a session -/

/-- One thing that is done to a session, with the session after it. -/
inductive Change : Session → Session → Prop
  /-- The notation may change at any time. -/
  | reader (s : Session) (n : Notation) : Change s { s with reader := n }
  /-- Something is noted that concerns neither the requests nor the rotations. -/
  | aside (s : Session) (o : Occurrence) (h : o.IsAside) : Change s (s.note o)
  /-- A request is made. -/
  | request (s : Session) (moves : List Move) (name : List Char) (onDone : List Command) :
    Change s (s.request moves name onDone)
  /-- The requests are dropped. -/
  | clear (s : Session) : Change s s.clear
  /-- The rotation in flight is completed. -/
  | land (s : Session) (r : Rotation) (h : s.sequencer.inFlight = some r) : Change s (s.land r)
  /-- The front request has its next rotation issued. -/
  | issue (s : Session) (ticket : ℕ) (step : Rotation) (steps : List Rotation) (name : List Char)
      (onDone : List Command) (rest : List Request) (hfree : s.sequencer.inFlight = none)
      (hqueue : s.sequencer.requests = ⟨ticket, step :: steps, name, onDone⟩ :: rest) :
    Change s ({ s with sequencer := ⟨⟨ticket, steps, name, onDone⟩ :: rest, some step⟩ }.note
      (.issued ticket step false))
  /-- The front request has no rotation left, and its program begins. -/
  | begin (s : Session) (ticket : ℕ) (name : List Char) (onDone : List Command)
      (rest : List Request) (hfree : s.sequencer.inFlight = none)
      (hqueue : s.sequencer.requests = ⟨ticket, [], name, onDone⟩ :: rest) :
    Change s ({ s with sequencer := { s.sequencer with requests := rest } }.note
      (.began ticket name (Sequencer.status { s.sequencer with requests := rest })))

/-! ### What a notation reports -/

namespace Notation

/-- Whoever asks a notation is never told of a rotation that was issued. -/
theorem level_ne_trace_of_mem_answer {n : Notation} {q : Query} {r : LogRecord}
    (h : r ∈ (n.answer q).records) : r.level ≠ .trace := by
  cases hq : q.size? with
  | none =>
    rw [level_of_mem_answer hq h]
    decide
  | some new =>
    obtain rfl := Query.size?_eq_some_iff.1 hq
    rw [answer_setSize] at h
    rw [level_of_mem_setSize h]
    decide

end Notation

/-- Making work ready never reports a rotation that was issued. -/
theorem Work.level_ne_trace_of_mem_prepare {n : Notation} {work : Work} {r : LogRecord}
    (h : r ∈ (work.prepare n).records) : r.level ≠ .trace := by
  have warn : r.level = .warn → r.level ≠ .trace := fun e => by rw [e]; decide
  cases work with
  | moves => cases h
  | token t => exact warn (Notation.level_of_mem_move? h)
  | algorithm text => exact warn (Notation.level_of_mem_algorithm h)
  | counted text strict =>
    cases strict with
    | false => exact warn (Notation.level_of_mem_algorithm h)
    | true =>
      simp only [prepare] at h
      split at h <;> cases h

/-- Strict work is made ready like lenient work if all words are moves. -/
theorem Work.prepare_counted_of_errors_eq_nil {n : Notation} {text : List Char}
    (h : n.errors (Text.words text) = []) : (counted text true).prepare n =
      ⟨some (n.algorithm text).value, [], .count (n.algorithm text).value.length⟩ := by
  simp only [prepare, Notation.algorithmStrict_of_errors_eq_nil h]

/-- Strict work with other words is refused for all of them. -/
theorem Work.prepare_counted_of_errors_ne_nil {n : Notation} {text : List Char}
    (h : n.errors (Text.words text) ≠ []) :
    (counted text true).prepare n = ⟨none, [], .refusedAll (n.errors (Text.words text))⟩ := by
  simp only [prepare, Notation.algorithmStrict_of_errors_ne_nil h]

/-! ### Every task is done by changes -/

namespace Session

/-- Reports that are not of issued rotations are asides. -/
theorem log_changes (s : Session) (records : List LogRecord)
    (h : ∀ r ∈ records, r.level ≠ .trace) : Relation.ReflTransGen Change s (s.log records) := by
  induction records generalizing s with
  | nil => rw [log_nil]
  | cons r rs ih =>
    have hs : s.log (r :: rs) = (s.note (.logged r)).log rs := by simp [log, note]
    rw [hs]
    exact .head (.aside s (.logged r) (h r (by simp))) (ih _ fun x hx => h x (by simp [hx]))

/-- Obeying a command changes the session step by step. -/
theorem obey_changes (s : Session) (site : Site) (c : Command) :
    Relation.ReflTransGen Change s (s.obey site c).1 := by
  cases c with
  | execute work name onDone =>
    have hlog := s.log_changes (work.prepare s.reader).records
      fun r hr => Work.level_ne_trace_of_mem_prepare hr
    simp only [obey]
    split
    · exact hlog.tail (.request ..)
    · exact hlog
  | clear => exact .single (.clear s)
  | ask query =>
    have hlog := log_changes { s with reader := (s.reader.answer query).value.2 }
      (s.reader.answer query).records fun r hr => Notation.level_ne_trace_of_mem_answer hr
    exact .head (.reader s _) hlog
  | complete | drain | inspect | issued | positions => exact .refl

/-- Proceeding with nothing in flight changes the session at most once. -/
theorem proceed_changes (s : Session) (h : s.sequencer.inFlight = none) :
    Relation.ReflTransGen Change s s.proceed.1 := by
  unfold proceed
  split
  · exact .refl
  · next hqueue => exact .single (.issue s _ _ _ _ _ _ h hqueue)
  · next hqueue => exact .single (.begin s _ _ _ _ h hqueue)

/-- A task changes the session step by step. -/
theorem react_changes (s : Session) (t : Task) :
    Relation.ReflTransGen Change s (s.react t).1 := by
  cases t with
  | perform site c => exact obey_changes s site c
  | advance =>
    simp only [react]
    split
    · exact .refl
    · next h => exact proceed_changes s h
  | complete times =>
    cases times with
    | zero => exact .refl
    | succ n =>
      simp only [react]
      split
      · next r h => exact .single (.land s r h)
      · exact .single (.aside s _ trivial)
  | drain site reported =>
    simp only [react]
    split
    · next r h => exact .single (.land s r h)
    · exact .refl
  | answer site reply => exact .single (.aside s _ trivial)

end Session

/-- What is preserved by every change holds at every moment after one at which it holds. -/
theorem Change.invariant {p : Session → Prop} (hchange : ∀ s s', Change s s' → p s → p s')
    {m : Moment} (hm : p m.session) (n : ℕ) : p (Moment.next^[n] m).session := by
  induction n with
  | zero => exact hm
  | succ n ih =>
    rw [Function.iterate_succ_apply']
    generalize Moment.next^[n] m = m' at ih
    obtain ⟨s, agenda⟩ := m'
    cases agenda with
    | nil => exact ih
    | cons t ts =>
      -- A task may do several things, such as to report words and then to make a request.
      refine Relation.ReflTransGen.head_induction_on (motive := fun a _ => p a → p (s.react t).1)
        (s.react_changes t) id ?_ ih
      intro a b hab _ hb ha
      exact hb (hchange a b hab ha)

/-- A change adds to the journal, and takes nothing away. -/
theorem Change.exists_journal_eq {s s' : Session} (h : Change s s') :
    ∃ more, s'.journal = s.journal ++ more := by
  cases h with
  | reader => exact ⟨#[], (Array.append_empty).symm⟩
  | aside | request | clear | land | issue | begin => exact ⟨#[_], rfl⟩

/-- Tasks add to the journal, and take nothing away. -/
theorem Moment.exists_journal_iterate_eq (m : Moment) (k : ℕ) :
    ∃ more, (next^[k] m).session.journal = m.session.journal ++ more := by
  refine Change.invariant (p := fun s => ∃ more, s.journal = m.session.journal ++ more)
    (fun s s' hc hs => ?_) ⟨#[], (Array.append_empty).symm⟩ k
  obtain ⟨more, hs⟩ := hs
  obtain ⟨last, hs'⟩ := hc.exists_journal_eq
  exact ⟨more ++ last, by rw [hs', hs, Array.append_assoc]⟩

/-- Doing an agenda adds to the journal. -/
theorem Session.exists_journal_settle_eq (s : Session) (agenda : List Task) :
    ∃ more, (s.settle agenda).journal = s.journal ++ more := by
  obtain ⟨n, hn⟩ := s.exists_iterate_next_eq_settle agenda
  have h := Moment.exists_journal_iterate_eq ⟨s, agenda⟩ n
  rwa [hn] at h

end Twisty
