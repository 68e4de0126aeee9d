import Twisty.Sequencer.Session

/-!
# Reports on commands

What there is to say about a command that was carried out: its answer, what happened in the
meantime, and what the sequencer looks like afterwards (`Session.report`). `Session.reports` carries
out a list of commands and reports on each.
-/

namespace Twisty

/-- What came of a command. -/
structure Report where
  /-- The answer to the command. -/
  reply : Reply
  /-- What happened while the command was carried out. -/
  journal : Journal
  /-- What the sequencer looks like afterwards. -/
  status : Status

namespace Session

/-- What happened between two moments of a session. -/
def since (before after : Session) : Journal :=
  after.journal.extract before.journal.size after.journal.size

/-- The report on the command that led from one moment of a session to another. -/
def report (before after : Session) : Report where
  reply := (before.since after).reply
  journal := before.since after
  status := after.sequencer.status

/-- The reports on the commands of a list, which are carried out in order. -/
def reports (s : Session) : List Command → List Report
  | [] => []
  | c :: cs =>
    let after := s.perform c
    s.report after :: after.reports cs

end Session

end Twisty
