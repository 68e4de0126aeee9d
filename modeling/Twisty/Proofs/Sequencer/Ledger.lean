import Mathlib.Data.List.Range
import Mathlib.Data.List.Nodup
import Twisty.Proofs.Sequencer.Run

/-!
# The ledger of a session

Every request that was made is in one of three states: its program has begun, it was dropped, or it
is waiting. `Session.ledger` reads off a session which is in which, and `Ledger.Sound` says how the
three are related to the order in which the requests were made and to the rotations that were
issued. Four changes concern the ledger, one lemma each, and all others leave it as it is, so that
the ledger is sound at every moment of a run (`sound_ledger`).

The lists of a ledger are chosen so that most of them stand still. Dropping the requests moves them
from the end of one list to the end of the other, and `dropped ++ waiting` is what it was. Beginning
a program moves a ticket likewise, and `begun ++ waiting` is what it was.
-/

namespace Twisty

/-! ### Lists by ticket -/

section ByTicket

variable {ticket : ℕ}

@[simp]
theorem rotationsOf_append (as bs : List (ℕ × Rotation)) :
    rotationsOf ticket (as ++ bs) = rotationsOf ticket as ++ rotationsOf ticket bs := by
  simp [rotationsOf]

@[simp]
theorem stepsOf_append (as bs : List Request) :
    stepsOf ticket (as ++ bs) = stepsOf ticket as ++ stepsOf ticket bs := by
  simp [stepsOf]

theorem stepsOf_cons (r : Request) (rs : List Request) :
    stepsOf ticket (r :: rs) = (if r.ticket = ticket then r.steps else []) ++ stepsOf ticket rs := by
  unfold stepsOf
  by_cases h : r.ticket = ticket <;> simp [h]

/-- Nothing is listed for a ticket that is not on the list. -/
theorem rotationsOf_eq_nil {issues : List (ℕ × Rotation)} (h : ∀ i ∈ issues, i.1 ≠ ticket) :
    rotationsOf ticket issues = [] := by
  simpa [rotationsOf] using h

/-- Nothing is left to a ticket that no request has. -/
theorem stepsOf_eq_nil {rs : List Request} (h : ticket ∉ rs.map Request.ticket) :
    stepsOf ticket rs = [] := by
  induction rs with
  | nil => rfl
  | cons r rs ih =>
    rw [List.map_cons, List.mem_cons, not_or] at h
    rw [stepsOf_cons, if_neg (Ne.symm h.1), ih h.2, List.append_nil]

end ByTicket

/-! ### Ledgers -/

/-- What has become of the requests of a session. -/
structure Ledger where
  /-- How many requests were made. -/
  tickets : ℕ
  /-- The requests, as they were made. -/
  made : List Request
  /-- The requests that were dropped, with the rotations that they still had. -/
  dropped : List Request
  /-- The requests that are not finished, with the rotations that they still have. -/
  waiting : List Request
  /-- The tickets of the requests whose programs began. -/
  begun : List ℕ
  /-- The rotations that were issued, each after the ticket of its request. -/
  issues : List (ℕ × Rotation)

/-- The ledger of a session. -/
def Session.ledger (s : Session) : Ledger where
  tickets := s.tickets
  made := s.journal.requests
  dropped := s.journal.dropped
  waiting := s.sequencer.requests
  begun := s.journal.beginnings
  issues := s.journal.issues

namespace Ledger

/-- The requests are served in the order in which they were made, and nothing is lost. -/
structure Sound (l : Ledger) : Prop where
  /-- Tickets count the requests. -/
  numbered : l.made.map Request.ticket = List.range l.tickets
  /-- Each request has begun its program, was dropped or is waiting, and only one of the three. -/
  placed : (l.begun ++ (l.dropped ++ l.waiting).map Request.ticket).Perm (List.range l.tickets)
  /-- Programs begin in order, and those of the waiting requests after all others. -/
  begins : (l.begun ++ l.waiting.map Request.ticket).Pairwise (· < ·)
  /-- Rotations are issued in order, and those of the waiting requests after all others. -/
  issued : (l.issues.map Prod.fst ++ l.waiting.map Request.ticket).Pairwise (· ≤ ·)
  /-- Rotations are issued for requests that were made. -/
  known : ∀ i ∈ l.issues, i.1 < l.tickets
  /-- The rotations of a request are those issued for it and then those left to it. -/
  whole : ∀ r ∈ l.made,
    rotationsOf r.ticket l.issues ++ stepsOf r.ticket (l.dropped ++ l.waiting) = r.steps
  /-- A request keeps its program while it is waiting. -/
  kept : ∀ q ∈ l.waiting, ∃ r ∈ l.made, r.ticket = q.ticket ∧ r.name = q.name ∧ r.onDone = q.onDone

variable {l : Ledger}

namespace Sound

/-- A ticket is at most once among those of begun, dropped and waiting requests. -/
theorem nodup (h : l.Sound) : (l.begun ++ (l.dropped ++ l.waiting).map Request.ticket).Nodup :=
  h.placed.nodup_iff.2 List.nodup_range

/-- A ticket that was given out is that of a begun, a dropped or a waiting request. -/
theorem mem_placed_iff (h : l.Sound) {ticket : ℕ} :
    ticket ∈ l.begun ++ (l.dropped ++ l.waiting).map Request.ticket ↔ ticket < l.tickets := by
  rw [h.placed.mem_iff, List.mem_range]

/-- The ticket of a request is the number of requests made before it. -/
theorem map_ticket_made (h : l.Sound) : l.made.map Request.ticket = List.range l.made.length := by
  have hlen := congrArg List.length h.numbered
  rw [List.length_map, List.length_range] at hlen
  rw [hlen]
  exact h.numbered

/-- The ticket of the front request is not that of another, dropped or waiting. -/
theorem front_not_mem (h : l.Sound) {q : Request} {rest : List Request}
    (hw : l.waiting = q :: rest) :
    q.ticket ∉ l.begun ∧ q.ticket ∉ l.dropped.map Request.ticket ∧
      q.ticket ∉ rest.map Request.ticket := by
  have hn := h.nodup
  rw [hw, List.map_append, List.map_cons, ← List.append_assoc, List.nodup_append] at hn
  obtain ⟨-, hrest, hne⟩ := hn
  have hq := hne q.ticket
  refine ⟨fun hm => ?_, fun hm => ?_, (List.nodup_cons.1 hrest).1⟩
  · exact hq (List.mem_append_left _ hm) _ List.mem_cons_self rfl
  · exact hq (List.mem_append_right _ hm) _ List.mem_cons_self rfl

/-- A new request is put behind all others. -/
theorem request (h : l.Sound) (r : Request) (hr : r.ticket = l.tickets) :
    Sound { l with
      tickets := l.tickets + 1
      made := l.made ++ [r]
      waiting := l.waiting ++ [r] } where
  numbered := by
    rw [List.map_append, h.numbered, List.map_singleton, hr, List.range_succ]
  placed := by
    have hp := h.placed.append_right [l.tickets]
    rw [← List.range_succ] at hp
    simpa [hr] using hp
  begins := by
    have hlt : ∀ t ∈ l.begun ++ l.waiting.map Request.ticket, t < l.tickets := by
      intro t ht
      rw [← h.mem_placed_iff]
      simp only [List.map_append, List.mem_append] at ht ⊢
      exact ht.imp_right .inr
    rw [List.map_append, ← List.append_assoc, List.map_singleton, List.pairwise_append]
    refine ⟨h.begins, List.pairwise_singleton .., ?_⟩
    intro t ht u hu
    rw [List.mem_singleton.1 hu, hr]
    exact hlt t ht
  issued := by
    rw [List.map_append, ← List.append_assoc, List.map_singleton, List.pairwise_append]
    refine ⟨h.issued, List.pairwise_singleton .., ?_⟩
    intro t ht u hu
    rw [List.mem_singleton.1 hu, hr]
    rcases List.mem_append.1 ht with ht | ht
    · obtain ⟨i, hi, rfl⟩ := List.mem_map.1 ht
      exact (h.known i hi).le
    · refine (h.mem_placed_iff.1 ?_).le
      rw [List.map_append]
      exact List.mem_append_right _ (List.mem_append_right _ ht)
  known := fun i hi => (h.known i hi).trans (Nat.lt_succ_self _)
  whole := by
    have hfresh : l.tickets ∉ (l.dropped ++ l.waiting).map Request.ticket := fun hm =>
      (h.mem_placed_iff.1 (List.mem_append_right _ hm)).ne rfl
    intro q hq
    simp only
    rw [← List.append_assoc, stepsOf_append, stepsOf_cons]
    rcases List.mem_append.1 hq with hq | hq
    · -- A request made before has another ticket, so that the new one adds nothing to it.
      have hlt : q.ticket < l.tickets := by
        have := List.mem_map_of_mem (f := Request.ticket) hq
        rwa [h.numbered, List.mem_range] at this
      rw [if_neg (by omega), ← h.whole q hq]
      simp [stepsOf]
    · -- The new request has all of its rotations left, and none was issued for its ticket.
      rw [List.mem_singleton.1 hq, if_pos rfl, hr, stepsOf_eq_nil hfresh,
        rotationsOf_eq_nil fun i hi => (h.known i hi).ne]
      simp [stepsOf]
  kept := by
    intro q hq
    rcases List.mem_append.1 hq with hq | hq
    · obtain ⟨r', hr', h'⟩ := h.kept q hq
      exact ⟨r', List.mem_append_left _ hr', h'⟩
    · rw [List.mem_singleton.1 hq]
      exact ⟨r, by simp, rfl, rfl, rfl⟩

/-- All waiting requests are dropped. -/
theorem clear (h : l.Sound) :
    Sound { l with dropped := l.dropped ++ l.waiting, waiting := [] } where
  numbered := h.numbered
  placed := by simpa using h.placed
  begins := by simpa using (List.pairwise_append.1 h.begins).1
  issued := by simpa using (List.pairwise_append.1 h.issued).1
  known := h.known
  whole := by simpa using h.whole
  kept := by simp

/-- The front request has its next rotation issued. -/
theorem issue (h : l.Sound) {ticket : ℕ} {step : Rotation} {steps : List Rotation}
    {name : List Char} {onDone : List Command} {rest : List Request}
    (hw : l.waiting = ⟨ticket, step :: steps, name, onDone⟩ :: rest) :
    Sound { l with
      waiting := ⟨ticket, steps, name, onDone⟩ :: rest
      issues := l.issues ++ [(ticket, step)] } where
  numbered := h.numbered
  placed := by simpa [hw] using h.placed
  begins := by simpa [hw] using h.begins
  issued := by
    have hi := h.issued
    rw [hw, List.map_cons, List.pairwise_append] at hi
    obtain ⟨hissues, hqueue, hle⟩ := hi
    rw [List.map_append, List.map_cons, List.append_assoc, List.pairwise_append]
    refine ⟨hissues, List.pairwise_cons.2 ⟨?_, hqueue⟩, ?_⟩
    · intro u hu
      rcases List.mem_cons.1 hu with rfl | hu
      · exact le_rfl
      · exact (List.pairwise_cons.1 hqueue).1 u hu
    · intro t ht u hu
      rcases List.mem_cons.1 hu with rfl | hu
      · exact hle t ht _ List.mem_cons_self
      · exact hle t ht u hu
  known := by
    intro i hi
    rcases List.mem_append.1 hi with hi | hi
    · exact h.known i hi
    · rw [List.mem_singleton.1 hi]
      exact h.mem_placed_iff.1 (by simp [hw])
  whole := by
    intro r hr
    have hwhole := h.whole r hr
    obtain ⟨-, hd, -⟩ := h.front_not_mem hw
    simp only at hd
    simp only [rotationsOf_append, stepsOf_append, stepsOf_cons]
    rw [hw, stepsOf_append, stepsOf_cons] at hwhole
    by_cases e : ticket = r.ticket
    · -- The rotation moves from the front of what is left to the end of what was issued.
      rw [stepsOf_eq_nil (e ▸ hd), if_pos e] at hwhole ⊢
      simpa [rotationsOf, e] using hwhole
    · rw [if_neg e] at hwhole ⊢
      simpa [rotationsOf, e] using hwhole
  kept := by
    intro q hq
    rcases List.mem_cons.1 hq with rfl | hq
    · exact h.kept ⟨ticket, step :: steps, name, onDone⟩ (by rw [hw]; exact List.mem_cons_self)
    · exact h.kept q (by rw [hw]; exact List.mem_cons_of_mem _ hq)

/-- The front request is finished, and its program begins. -/
theorem begin (h : l.Sound) {ticket : ℕ} {name : List Char} {onDone : List Command}
    {rest : List Request} (hw : l.waiting = ⟨ticket, [], name, onDone⟩ :: rest) :
    Sound { l with waiting := rest, begun := l.begun ++ [ticket] } where
  numbered := h.numbered
  placed := by
    -- The ticket moves over those of the dropped requests to the end of the begun ones.
    have hp := h.placed
    rw [hw, List.map_append, List.map_cons] at hp
    refine List.Perm.trans ?_ hp
    rw [List.append_assoc, List.singleton_append, List.map_append]
    exact List.perm_middle.symm.append_left _
  begins := by simpa [hw] using h.begins
  issued := by
    have hi := h.issued
    rw [hw] at hi
    exact hi.sublist ((List.sublist_cons_self ..).append_left _)
  known := h.known
  whole := by
    intro r hr
    have hwhole := h.whole r hr
    rw [hw, stepsOf_append, stepsOf_cons, ite_self, List.nil_append, ← stepsOf_append] at hwhole
    exact hwhole
  kept := fun q hq => h.kept q (by rw [hw]; exact List.mem_cons_of_mem _ hq)

end Sound

end Ledger

/-! ### The ledger of a run -/

/-- An occurrence is entered in the ledger with each of its views. -/
theorem Session.ledger_note (s : Session) (o : Occurrence) :
    (s.note o).ledger = { s.ledger with
      made := s.ledger.made ++ o.requests
      dropped := s.ledger.dropped ++ o.dropped
      begun := s.ledger.begun ++ o.beginnings
      issues := s.ledger.issues ++ o.issues } := by
  simp [ledger, note]

/-- An aside is not entered in the ledger. -/
theorem Session.ledger_note_of_isAside (s : Session) {o : Occurrence} (h : o.IsAside) :
    (s.note o).ledger = s.ledger := by
  rw [ledger_note]
  cases o with
  | logged | spurious | answered =>
    simp
  | requested | issued | completed | cleared | began => exact h.elim

/-- Every change keeps the ledger sound. -/
theorem Ledger.Sound.change (s s' : Session) (hc : Change s s') (h : s.ledger.Sound) :
    s'.ledger.Sound := by
  cases hc with
  | reader n => exact h
  | aside o ho =>
    rw [s.ledger_note_of_isAside ho]
    exact h
  | request moves name onDone =>
    have hr := h.request ⟨s.tickets, expandAll moves, name, onDone⟩ rfl
    rw [Session.request, Session.ledger_note]
    simpa [Session.ledger, Sequencer.enqueue] using hr
  | clear =>
    have hr := h.clear
    rw [Session.clear, Session.ledger_note]
    simpa [Session.ledger, Sequencer.clear] using hr
  | land r hf =>
    rw [Session.land, Session.ledger_note]
    simpa [Session.ledger, Sequencer.land] using h
  | issue ticket step steps name onDone rest hfree hqueue =>
    have hr := h.issue hqueue
    rw [Session.ledger_note]
    simpa [Session.ledger] using hr
  | begin ticket name onDone rest hfree hqueue =>
    have hr := h.begin hqueue
    rw [Session.ledger_note]
    simpa [Session.ledger] using hr

/-- The ledger of a new session is sound. -/
theorem Ledger.sound_start (reader : Notation) : (Session.start reader).ledger.Sound := by
  -- All of its lists are empty.
  constructor <;> simp [Session.ledger, Session.start, Sequencer.empty]

/-- The ledger is sound at every moment of a run. -/
theorem sound_ledger (reader : Notation) (commands : List Command) (n : ℕ) :
    (moment reader commands n).session.ledger.Sound :=
  Change.invariant Ledger.Sound.change (Ledger.sound_start reader) n

end Twisty
