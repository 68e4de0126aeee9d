import Twisty.Proofs.Notation.Pieces
import Twisty.Proofs.Sequencer.Conservation
import Twisty.Proofs.Sequencer.Single

/-!
# Work submitted in pieces

Programs that only submit algorithms, report completions and drain (`Command.Submits`) never change
the notation and never drop a request. What they execute is therefore what they submit, in the order
in which they do so (`Moment.Submitting.operations_eq`), and once all of it is finished, the puzzle
has received the expansions of all submitted moves (`received_eq_of_submits`). It does not matter
when completions arrive, nor whether a piece is submitted by itself or by the program of another.

If the submitted texts are the pieces of a text that is cut at blanks, their moves are those of the
whole, and the puzzle has received what it would have if the whole had been submitted at once
(`pieces_executed_as_whole`).
-/

namespace Twisty

open Text

/-! ### Programs that submit algorithms -/

/-- A command that submits an algorithm, reports completions or drains, and so do all commands in
the programs nested in it. -/
inductive Command.Submits : Command → Prop
  | execute (text name : List Char) {onDone : List Command} (h : ∀ c ∈ onDone, c.Submits) :
    (Command.execute (.algorithm text) name onDone).Submits
  | complete (times : ℕ) : (Command.complete times).Submits
  | drain : Command.drain.Submits

/-- A task that only submits, if it performs a command. -/
def Task.Submits : Task → Prop
  | .perform _ c => c.Submits
  | _ => True

namespace Moment

/-- The text that the next task submits. -/
def submits (m : Moment) : List (List Char) :=
  match m.agenda with
  | .perform _ (.execute (.algorithm text) _ _) :: _ => [text]
  | _ => []

/-- A moment at which nothing but submissions is to be done, now or when a request is finished. -/
structure Submitting (n : Notation) (m : Moment) : Prop where
  /-- The notation is the one of the beginning. -/
  reader : m.session.reader = n
  /-- The agenda only submits. -/
  agenda : ∀ t ∈ m.agenda, t.Submits
  /-- The programs of the unfinished requests only submit. -/
  requests : ∀ r ∈ m.session.sequencer.requests, ∀ c ∈ r.onDone, c.Submits

end Moment

namespace Session

variable {n : Notation} {s : Session}

/-- Obeying a command that only submits leaves only such tasks and programs. -/
theorem obey_submitting {site : Site} {c : Command} (hc : c.Submits) (hreader : s.reader = n)
    (hrequests : ∀ r ∈ s.sequencer.requests, ∀ c ∈ r.onDone, c.Submits) :
    Moment.Submitting n ⟨(s.obey site c).1, (s.obey site c).2⟩ := by
  cases hc with
  | execute text name honDone =>
    refine ⟨hreader, ?_, ?_⟩
    · simp [obey, Work.prepare, Task.Submits]
    · -- The new request brings the program along, and the others keep theirs.
      intro r hr
      simp only [obey, Work.prepare, request, note_sequencer, log_sequencer, Sequencer.enqueue,
        List.mem_append, List.mem_singleton] at hr
      rcases hr with hr | rfl
      · exact hrequests r hr
      · exact honDone
  | complete times => exact ⟨hreader, by simp [obey, Task.Submits], hrequests⟩
  | drain => exact ⟨hreader, by simp [obey, Task.Submits], hrequests⟩

/-- Proceeding to programs that only submit leaves only such tasks and programs. -/
theorem proceed_submitting (hreader : s.reader = n)
    (hrequests : ∀ r ∈ s.sequencer.requests, ∀ c ∈ r.onDone, c.Submits) :
    Moment.Submitting n ⟨s.proceed.1, s.proceed.2⟩ := by
  have hdone : ∀ t ∈ ([] : List Task), t.Submits := List.forall_mem_nil _
  unfold proceed
  rcases hqueue : s.sequencer.requests with
    _ | ⟨⟨ticket, _ | ⟨step, steps⟩, name, onDone⟩, rest⟩
  · exact ⟨hreader, hdone, hrequests⟩
  all_goals
    rw [hqueue] at hrequests
    obtain ⟨hfront, hrest⟩ := List.forall_mem_cons.1 hrequests
  · -- The program of the front request is put on the agenda.
    refine ⟨hreader, List.forall_mem_append.2 ⟨?_, ?_⟩, hrest⟩
    · exact List.forall_mem_map.2 hfront
    · exact List.forall_mem_singleton.2 trivial
  · exact ⟨hreader, hdone, List.forall_mem_cons.2 ⟨hfront, hrest⟩⟩

/-- A task that only submits leaves only such tasks and programs. -/
theorem react_submitting {t : Task} (ht : t.Submits) (hreader : s.reader = n)
    (hrequests : ∀ r ∈ s.sequencer.requests, ∀ c ∈ r.onDone, c.Submits) :
    Moment.Submitting n ⟨(s.react t).1, (s.react t).2⟩ := by
  have hdone : ∀ t ∈ ([] : List Task), t.Submits := List.forall_mem_nil _
  cases t with
  | perform site c => exact obey_submitting ht hreader hrequests
  | advance =>
    simp only [react]
    split
    · exact ⟨hreader, hdone, hrequests⟩
    · exact proceed_submitting hreader hrequests
  | complete times =>
    cases times with
    | zero => exact ⟨hreader, hdone, hrequests⟩
    | succ times =>
      -- With a rotation in flight or without, what is left are other completions.
      simp only [react]
      split
      · exact ⟨hreader, by simp [Task.Submits], hrequests⟩
      · exact ⟨hreader, by simp [Task.Submits], hrequests⟩
  | drain site k =>
    simp only [react]
    split
    · exact ⟨hreader, by simp [Task.Submits], hrequests⟩
    · exact ⟨hreader, by simp [Task.Submits], hrequests⟩
  | answer site reply => exact ⟨hreader, hdone, hrequests⟩

end Session

namespace Moment.Submitting

variable {n : Notation} {m : Moment}

/-- Where nothing but submissions is to be done, it stays so. -/
theorem next (h : m.Submitting n) : m.next.Submitting n := by
  obtain ⟨s, agenda⟩ := m
  cases agenda with
  | nil => exact h
  | cons t ts =>
    obtain ⟨ht, hts⟩ := List.forall_mem_cons.1 h.agenda
    have hreact := Session.react_submitting ht h.reader h.requests
    refine ⟨hreact.reader, ?_, hreact.requests⟩
    exact List.forall_mem_append.2 ⟨hreact.agenda, hts⟩

/-- Where nothing but submissions is to be done, no request is dropped, and what is executed are the
moves of what is submitted. -/
theorem operations_eq (h : m.Submitting n) :
    m.drops = [] ∧
      m.executes.map Prod.fst = m.submits.map fun text => (n.algorithm text).value := by
  obtain ⟨s, agenda⟩ := m
  have hreader : s.reader = n := h.reader
  cases agenda with
  | nil => exact ⟨rfl, rfl⟩
  | cons t later =>
    have ht : t.Submits := h.agenda t List.mem_cons_self
    cases t with
    | perform site c =>
      cases ht with
      | execute text => exact ⟨rfl, by simp [executes, submits, Work.prepare, hreader]⟩
      | complete | drain => exact ⟨rfl, rfl⟩
    | advance | complete | drain | answer => exact ⟨rfl, rfl⟩

end Moment.Submitting

/-! ### Runs that submit algorithms -/

/-- A run of commands that only submit does nothing else at any moment. -/
theorem submitting_moment (n : Notation) {commands : List Command}
    (h : ∀ c ∈ commands, c.Submits) (k : ℕ) : (moment n commands k).Submitting n := by
  induction k with
  | zero => exact ⟨rfl, List.forall_mem_map.2 h, List.forall_mem_nil _⟩
  | succ k ih =>
    rw [moment_succ]
    exact ih.next

/-- Once a run of commands that only submit has left no request, the puzzle has received the
expansions of the moves of all submitted texts, in the order of their submission. -/
theorem received_eq_of_submits (n : Notation) {commands : List Command}
    (h : ∀ c ∈ commands, c.Submits) {k : ℕ}
    (hagenda : (moment n commands k).agenda = [])
    (hdone : ((Session.start n).performAll commands).sequencer.requests = []) :
    ((Session.start n).performAll commands).journal.received =
      expandAll (((List.range k).flatMap fun i => (moment n commands i).submits).flatMap
        fun text => (n.algorithm text).value) := by
  rw [← session_moment_eq n commands hagenda] at hdone ⊢
  have hoperations := fun i => (submitting_moment n h i).operations_eq
  have hdropped : (moment n commands k).session.journal.dropped = [] := by
    rw [dropped_eq]
    exact List.flatMap_eq_nil_iff.2 fun i _ => (hoperations i).1
  have hsound := sound_ledger n commands k
  -- All requests have been served, so that the question is only which requests were made.
  calc (moment n commands k).session.journal.received
    _ = (moment n commands k).session.journal.requests.flatMap Request.steps :=
      (Journal.received_eq_map_issues _).trans (hsound.issues_eq hdropped hdone)
    _ = ((moment n commands k).session.journal.requests.map Request.order).flatMap Prod.fst :=
      (List.flatMap_map Request.order Prod.fst _).symm
    _ = (List.range k).flatMap fun i =>
        ((moment n commands i).executes.map Prod.fst).flatMap expandAll := by
      rw [orders_eq, List.flatMap_assoc]
      simp only [List.flatMap_map, Prod.map_fst]
    _ = (List.range k).flatMap fun i =>
        ((moment n commands i).submits.map fun text => (n.algorithm text).value).flatMap
          expandAll := by
      simp only [(hoperations _).2]
    _ = _ := by
      simp only [expandAll, List.flatMap_assoc, List.flatMap_map]

/-- Let a text be cut at blanks, and let commands that only submit, complete and drain submit its
pieces in order, by themselves or in the programs of earlier pieces. Once the rest has been drained,
the puzzle has received the same rotations as if the whole text had been submitted at once, and the
sequencer is idle. -/
theorem pieces_executed_as_whole (size : PuzzleSize) (text name : List Char)
    (pieces : List (List Char)) (commands : List Command) (k : ℕ)
    (hcut : CutAtBlanks text pieces) (hcommands : ∀ c ∈ commands, c.Submits)
    (hagenda : (moment (.ofSize size) (commands ++ [.drain]) k).agenda = [])
    (horder : ((List.range k).flatMap fun i =>
      (moment (.ofSize size) (commands ++ [.drain]) i).submits) = pieces) :
    let start := Session.start (.ofSize size)
    let cut := start.performAll (commands ++ [.drain])
    let whole := start.performAll [.execute (.algorithm text) name [], .drain]
    cut.journal.received = whole.journal.received ∧
      cut.journal.received = expandAll ((Notation.ofSize size).algorithm text).value ∧
      cut.sequencer.isIdle = true ∧ whole.sequencer.isIdle = true := by
  intro start cut whole
  have hsubmits : ∀ c ∈ commands ++ [.drain], c.Submits :=
    List.forall_mem_append.2 ⟨hcommands, List.forall_mem_singleton.2 .drain⟩
  have hcutreceived : cut.journal.received =
      expandAll ((Notation.ofSize size).algorithm text).value := by
    rw [received_eq_of_submits _ hsubmits hagenda (requests_performAll_drain ..), horder,
      Notation.algorithm_value_eq_flatMap _ hcut]
  have hwhole : whole.journal.received =
      expandAll ((Notation.ofSize size).algorithm text).value := by
    have hmoves : (Work.prepare start.reader (.algorithm text)).moves? =
        some ((Notation.ofSize size).algorithm text).value := rfl
    exact (start.journal_execute_drain rfl hmoves name).1
  refine ⟨hcutreceived.trans hwhole.symm, hcutreceived, isIdle_performAll_drain .., ?_⟩
  exact isIdle_performAll_drain _ [.execute (.algorithm text) name []]

/-- A run that submits three pieces. The second piece is empty, and is submitted by the program of
the first. The third has a word that is not a move. Two of the completions are reported with nothing
in flight. -/
def piecewiseRun : List Command :=
  [.complete 1,
    .execute (.algorithm "R2".toList) [] [.complete 1, .execute (.algorithm []) [] []],
    .complete 2, .execute (.algorithm "x9 U".toList) [] [], .complete 1]

/-- The three pieces are executed as the whole text is. -/
theorem piecewiseRun_executed_as_whole :
    let start := Session.start (.ofSize default)
    let cut := start.performAll (piecewiseRun ++ [.drain])
    let whole := start.performAll [.execute (.algorithm "R2  x9 U".toList) [] [], .drain]
    (∀ c ∈ piecewiseRun, c.Submits) ∧
      (moment (.ofSize default) (piecewiseRun ++ [.drain]) 35).agenda = [] ∧
      CutAtBlanks "R2  x9 U".toList ["R2".toList, [], "x9 U".toList] ∧
      ((List.range 35).flatMap fun i =>
        (moment (.ofSize default) (piecewiseRun ++ [.drain]) i).submits) =
          ["R2".toList, [], "x9 U".toList] ∧
      cut.journal.received = whole.journal.received ∧
      cut.journal.received = [.layer .x (.quarter .negative) 2, .layer .x (.quarter .negative) 2,
        .layer .y (.quarter .negative) 2] ∧
      cut.sequencer.isIdle = true := by
  intro start cut whole
  have hspace : ∀ c ∈ [' '], isBlank c = true := List.forall_mem_singleton.2 (by decide)
  have hthird : CutAtBlanks " x9 U".toList ["x9 U".toList] :=
    @CutAtBlanks.cons [' '] "x9 U".toList [] [] hspace (by simp) (.nil (by simp))
  have hsecond : CutAtBlanks "  x9 U".toList [[], "x9 U".toList] :=
    @CutAtBlanks.cons [' '] [] " x9 U".toList _ hspace (by simp) hthird
  have hfirst : CutAtBlanks "R2  x9 U".toList ["R2".toList, [], "x9 U".toList] :=
    @CutAtBlanks.cons [] "R2".toList "  x9 U".toList _ (by simp)
      (by rintro c - d ⟨⟩; exact .inr (by decide)) hsecond
  have hcommands : ∀ c ∈ piecewiseRun, c.Submits := by
    have hprogram : ∀ c ∈ [Command.complete 1, .execute (.algorithm []) [] []], c.Submits :=
      List.forall_mem_cons.2 ⟨.complete 1, List.forall_mem_singleton.2 (.execute _ _ (by simp))⟩
    simp only [piecewiseRun, List.forall_mem_cons]
    exact ⟨.complete 1, .execute _ _ hprogram, .complete 2, .execute _ _ (by simp), .complete 1,
      List.forall_mem_nil _⟩
  have hagenda : (moment (.ofSize default) (piecewiseRun ++ [.drain]) 35).agenda = [] := rfl
  have horder : ((List.range 35).flatMap fun i =>
      (moment (.ofSize default) (piecewiseRun ++ [.drain]) i).submits) =
        ["R2".toList, [], "x9 U".toList] := by
    decide
  obtain ⟨hsame, hreceived, hidle, -⟩ := pieces_executed_as_whole default "R2  x9 U".toList []
    ["R2".toList, [], "x9 U".toList] piecewiseRun 35 hfirst hcommands hagenda horder
  refine ⟨hcommands, hagenda, hfirst, horder, hsame, hreceived.trans ?_, hidle⟩
  decide

end Twisty
