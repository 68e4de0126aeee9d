import Twisty.Sequencer.Journal

/-!
# Sessions of a sequencer

A session joins a notation, a sequencer and the journal of what has happened. A command is carried
out in small steps: an agenda holds what remains to be done, `Session.react` does the first thing on
it and says what comes in its place, and `Session.settle` goes on until the agenda is empty. The
program of a finished request is put on the agenda before whatever was waiting there, which is how
it runs in the middle of the command that finished the request.

Every command comes to an end (`Session.react_descends`). Performing a command uses it up, together
with the right to queue the program nested in it, and all else makes progress on rotations and
requests of which there are finitely many.
-/

namespace Twisty

/-- Something that remains to be done. -/
inductive Task where
  /-- Perform a command. -/
  | perform (site : Site) (command : Command)
  /-- Issue the next rotation, unless one is in flight, finishing requests on the way to it. -/
  | advance
  /-- Report completions. -/
  | complete (times : Nat)
  /-- Report completions while a rotation is in flight, some having been reported. -/
  | drain (site : Site) (reported : Nat)
  /-- Answer a command. -/
  | answer (site : Site) (reply : Reply)

/-- A notation and a sequencer at work. -/
structure Session where
  /-- Reads the notation of the commands. -/
  reader : Notation
  /-- The requests and the rotation in flight. -/
  sequencer : Sequencer
  /-- What has happened. -/
  journal : Journal
  /-- How many requests have been made. -/
  tickets : Nat

namespace Session

/-- A new session on a puzzle. -/
def start (reader : Notation) : Session :=
  ⟨reader, .empty, #[], 0⟩

instance : Inhabited Session :=
  ⟨start default⟩

/-- The session with an occurrence in its journal. -/
def note (s : Session) (o : Occurrence) : Session :=
  { s with journal := s.journal.push o }

/-- The session with records in its journal. -/
def log (s : Session) (records : List LogRecord) : Session :=
  { s with journal := s.journal ++ records.map Occurrence.logged }

/-- The session with a request behind all others. -/
def request (s : Session) (moves : List Move) (name : List Char) (onDone : List Command) :
    Session :=
  let r : Request := ⟨s.tickets, expandAll moves, name, onDone⟩
  { s with sequencer := s.sequencer.enqueue r, tickets := s.tickets + 1 }.note
    (.requested r s.reader.size)

/-- The session without its requests. -/
def clear (s : Session) : Session :=
  { s with sequencer := s.sequencer.clear }.note (.cleared s.sequencer.requests)

/-- The session after the completion of its rotation in flight. -/
def land (s : Session) (rotation : Rotation) : Session :=
  { s with sequencer := s.sequencer.land }.note (.completed rotation)

/-- What comes of a command before its answer. -/
def obey (s : Session) (site : Site) : Command → Session × List Task
  | .execute work name onDone =>
    let p := work.prepare s.reader
    match p.moves? with
    | some moves =>
      ((s.log p.records).request moves name onDone, [.advance, .answer site p.reply])
    | none => (s.log p.records, [.answer site p.reply])
  | .complete times => (s, [.complete times, .answer site .nothing])
  | .drain => (s, [.drain site 0])
  | .clear => (s.clear, [.answer site .nothing])
  | .inspect => (s, [.answer site (.text s.sequencer.describe)])
  | .issued => (s, [.answer site (.rotations s.journal.received)])
  | .positions =>
    (s, [.answer site (.positions (s.journal.received.filterMap Rotation.position?))])
  | .ask query =>
    let a := s.reader.answer query
    ({ s with reader := a.value.2 }.log a.records, [.answer site a.value.1])

/-- Issues the next rotation of the front request, or begins its program if it has none left. -/
def proceed (s : Session) : Session × List Task :=
  match s.sequencer.requests with
  | [] => (s, [])
  | ⟨ticket, step :: steps, name, onDone⟩ :: rest =>
    let sequencer : Sequencer := ⟨⟨ticket, steps, name, onDone⟩ :: rest, some step⟩
    ({ s with sequencer := sequencer }.note (.issued ticket step false), [])
  | ⟨ticket, [], name, onDone⟩ :: rest =>
    -- The request is off the queue before its program begins, so the program sees only the others.
    let sequencer : Sequencer := { s.sequencer with requests := rest }
    ({ s with sequencer := sequencer }.note (.began ticket name sequencer.status),
      onDone.map (.perform (.program name)) ++ [.advance])

/-- What comes of a task: the session after it, and the tasks that take its place. -/
def react (s : Session) : Task → Session × List Task
  | .perform site command => s.obey site command
  | .advance =>
    match s.sequencer.inFlight with
    | some _ => (s, [])
    | none => s.proceed
  | .complete 0 => (s, [])
  | .complete (times + 1) =>
    match s.sequencer.inFlight with
    -- What the completion sets going comes before the completions that are left.
    | some r => (s.land r, [.advance, .complete times])
    | none => (s.note .spurious, [.complete times])
  | .drain site reported =>
    match s.sequencer.inFlight with
    | some r => (s.land r, [.advance, .drain site (reported + 1)])
    | none => (s, [.answer site (.count reported)])
  | .answer site reply => (s.note (.answered site reply s.sequencer.status), [])

end Session

/-! ### Every agenda comes to an end -/

/-- The commands that a task may still perform. -/
def Task.commands : Task → Nat
  | .perform _ c => c.weight
  | _ => 0

/-- What a task may still do apart from performing commands. -/
def Task.effort : Task → Nat
  | .perform _ _ => 0
  | .advance | .answer _ _ => 1
  | .complete times => times + 1
  | .drain _ _ => 2

/-- The commands in the programs of the requests. -/
def Sequencer.commands (s : Sequencer) : Nat :=
  tally (fun r => Command.weights r.onDone) s.requests

/-- What is left to do for the requests: to issue a rotation, to complete one, to finish a request.
-/
def Sequencer.effort (s : Sequencer) : Nat :=
  3 * s.pendingSteps + s.requests.length + if s.inFlight.isSome then 2 else 0

namespace Session

/-- What a session and its agenda still have to do: commands first, then everything else. -/
def remaining (s : Session) (agenda : List Task) : Nat × Nat :=
  (s.sequencer.commands + tally Task.commands agenda,
    s.sequencer.effort + tally Task.effort agenda)

@[simp]
theorem note_sequencer (s : Session) (o : Occurrence) : (s.note o).sequencer = s.sequencer :=
  rfl

@[simp]
theorem log_sequencer (s : Session) (rs : List LogRecord) : (s.log rs).sequencer = s.sequencer :=
  rfl

@[simp]
theorem log_tickets (s : Session) (rs : List LogRecord) : (s.log rs).tickets = s.tickets :=
  rfl

/-- Reporting nothing leaves a session as it is. -/
@[simp]
theorem log_nil (s : Session) : s.log [] = s := by
  simp [log]

/-- The commands of a program weigh as much as the program. -/
theorem tally_commands_perform (site : Site) (program : List Command) :
    tally Task.commands (program.map (Task.perform site)) = Command.weights program := by
  induction program with
  | nil => rfl
  | cons c cs ih => simp only [List.map_cons, tally, ih, Task.commands, Command.weights]

/-- Commands that wait to be performed take no effort of their own. -/
theorem tally_effort_perform (site : Site) (program : List Command) :
    tally Task.effort (program.map (Task.perform site)) = 0 := by
  induction program with
  | nil => rfl
  | cons c cs ih => simp only [List.map_cons, tally, ih, Task.effort]

/-- Obeying a command leaves fewer commands than before. -/
theorem obey_commands_lt (s : Session) (site : Site) (c : Command) :
    (s.obey site c).1.sequencer.commands + tally Task.commands (s.obey site c).2 <
      s.sequencer.commands + c.weight := by
  have hw := c.weight_pos
  cases c with
  | execute work name onDone =>
    simp only [obey]
    split
    · simp only [Command.weight, request, note_sequencer, log_sequencer, Sequencer.enqueue,
        Sequencer.commands, Task.commands, tally_append, tally]
      omega
    · simpa [Task.commands, tally] using hw
  | clear =>
    simp only [obey, clear, note_sequencer, Sequencer.clear, Sequencer.commands, Task.commands,
      tally]
    omega
  | _ => simpa [obey, Task.commands, tally] using hw

/-- Proceeding with nothing in flight performs no command and makes some progress. -/
theorem proceed_descends (s : Session) (h : s.sequencer.inFlight = none) :
    s.proceed.1.sequencer.commands + tally Task.commands s.proceed.2 = s.sequencer.commands ∧
      s.proceed.1.sequencer.effort + tally Task.effort s.proceed.2 < s.sequencer.effort + 1 := by
  unfold proceed
  split
  · simp [tally]
  · next e =>
    simp [Sequencer.commands, Sequencer.effort, Sequencer.pendingSteps, tally, e, h]
    omega
  · next e =>
    simp only [note_sequencer, tally_append, tally_commands_perform, tally_effort_perform]
    simp [Sequencer.commands, Sequencer.effort, Sequencer.pendingSteps, Task.commands, Task.effort,
      tally, e, h]
    omega

/-- Completing the rotation in flight takes two off the effort. -/
theorem land_effort (s : Session) (r : Rotation) (h : s.sequencer.inFlight = some r) :
    (s.land r).sequencer.commands = s.sequencer.commands ∧
      (s.land r).sequencer.effort + 2 = s.sequencer.effort := by
  simp [land, Sequencer.land, Sequencer.commands, Sequencer.effort, Sequencer.pendingSteps, h]

/-- Every task leaves less to do than there was before it: fewer commands, or as many and less of
everything else. -/
theorem react_descends (s : Session) (t : Task) (ts : List Task) :
    Prod.Lex (· < ·) (· < ·) ((s.react t).1.remaining ((s.react t).2 ++ ts))
      (s.remaining (t :: ts)) := by
  simp only [remaining, tally_append, tally]
  rw [Prod.lex_def]
  cases t with
  | perform site c =>
    have := obey_commands_lt s site c
    simp only [react, Task.commands]
    omega
  | advance =>
    cases h : s.sequencer.inFlight with
    | some r => simp [react, h, Task.commands, Task.effort, tally]
    | none =>
      have := proceed_descends s h
      simp only [react, h, Task.commands, Task.effort]
      omega
  | complete times =>
    cases times with
    | zero => simp [react, Task.commands, Task.effort, tally]
    | succ n =>
      cases h : s.sequencer.inFlight with
      | some r =>
        have := land_effort s r h
        simp only [react, h, Task.commands, Task.effort, tally]
        omega
      | none => simp [react, h, Task.commands, Task.effort, tally]
  | drain site n =>
    cases h : s.sequencer.inFlight with
    | some r =>
      have := land_effort s r h
      simp only [react, h, Task.commands, Task.effort, tally]
      omega
    | none => simp [react, h, Task.commands, Task.effort, tally]
  | answer site reply => simp [react, Task.commands, Task.effort, tally]

/-- The session once everything on the agenda has been done. -/
def settle (s : Session) : List Task → Session
  | [] => s
  | t :: ts => (s.react t).1.settle ((s.react t).2 ++ ts)
termination_by agenda => s.remaining agenda
decreasing_by exact react_descends s t ts

/-- The session after a command that stands by itself. -/
def perform (s : Session) (c : Command) : Session :=
  s.settle [.perform .outside c]

/-- The session after a list of commands, each of which is carried out before the next begins. -/
def performAll (s : Session) (cs : List Command) : Session :=
  cs.foldl perform s

end Session

end Twisty
