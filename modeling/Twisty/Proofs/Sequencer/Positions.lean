import Mathlib.Tactic.IntervalCases
import Twisty.Proofs.Notation.Inversion
import Twisty.Proofs.Notation.Layers
import Twisty.Proofs.Notation.Resizing
import Twisty.Proofs.Sequencer.Ledger
import Twisty.Proofs.Sequencer.Operations

/-!
# Where the layers that are turned come from

A rotation may be issued long after its move was read, and the size of the puzzle that notation is
read for may have changed in the meantime. The rotation is still that of a layer of the puzzle that
its move was read for (`turned_layers_exist`).

Every rotation that is issued for a ticket is one of the rotations with which the request of that
ticket was made (`Ledger.Sound.exists_request_of_mem_issues`), and a request is made where work is
executed, for the moves that the work has at that moment (`Moment.Undertakes`). Whatever the size is
by then, the notation is that of a puzzle of some size (`exists_reader_moment_eq`), and the moves
that it reads turn layers of that puzzle (`Move.IsOn.wellFormed`).
-/

namespace Twisty

open Text

/-! ### The notation of a session -/

/-- A task leaves the notation as it is, unless it asks the notation a question. -/
theorem Session.react_reader (s : Session) (t : Task) :
    (s.react t).1.reader = s.reader ∨ ∃ q, (s.react t).1.reader = s.reader.after q := by
  cases t with
  | perform site c =>
    cases c with
    | ask q => exact .inr ⟨q, rfl⟩
    | execute work name onDone =>
      simp only [react, obey]
      split <;> exact .inl rfl
    | complete | drain | clear | inspect | issued | positions => exact .inl rfl
  | advance =>
    simp only [react, proceed]
    split
    · exact .inl rfl
    · split <;> exact .inl rfl
  | complete times =>
    cases times with
    | zero => exact .inl rfl
    | succ times =>
      simp only [react]
      split <;> exact .inl rfl
  | drain site reported =>
    simp only [react]
    split <;> exact .inl rfl
  | answer site reply => exact .inl rfl

/-- At every moment of a run, the notation is that of a puzzle of some size. -/
theorem exists_reader_moment_eq (size : PuzzleSize) (commands : List Command) (n : ℕ) :
    ∃ size', (moment (.ofSize size) commands n).session.reader = .ofSize size' := by
  induction n with
  | zero => exact ⟨size, rfl⟩
  | succ n ih =>
    obtain ⟨size', hreader⟩ := ih
    rw [moment_succ]
    generalize moment (.ofSize size) commands n = m at hreader
    obtain ⟨s, agenda⟩ := m
    cases agenda with
    | nil => exact ⟨size', hreader⟩
    | cons t ts =>
      rcases s.react_reader t with hnext | ⟨q, hnext⟩
      · exact ⟨size', hnext.trans hreader⟩
      · exact ⟨_, by rw [Moment.next, hnext, hreader, Notation.after_ofSize]⟩

/-! ### Rotations, requests and moves -/

/-- A rotation that was issued is one of those that its request was made with. -/
theorem Ledger.Sound.exists_request_of_mem_issues {l : Ledger} (h : l.Sound) {ticket : ℕ}
    {r : Rotation} (hr : (ticket, r) ∈ l.issues) :
    ∃ q ∈ l.made, q.ticket = ticket ∧ r ∈ q.steps := by
  have hticket : ticket ∈ l.made.map Request.ticket := by
    rw [h.numbered, List.mem_range]
    exact h.known _ hr
  obtain ⟨q, hq, rfl⟩ := List.mem_map.1 hticket
  have hissued : r ∈ rotationsOf q.ticket l.issues :=
    List.mem_map.2 ⟨(q.ticket, r), List.mem_filter.2 ⟨hr, by simp⟩, rfl⟩
  refine ⟨q, hq, rfl, ?_⟩
  rw [← h.whole q hq]
  exact List.mem_append_left _ hissued

/-- The next task executes some work, of which the given move is one, by a request with the given
ticket. -/
structure Moment.Undertakes (m : Moment) (ticket : ℕ) (work : Work) (move : Move) : Prop where
  agenda : ∃ site name onDone rest, m.agenda = .perform site (.execute work name onDone) :: rest
  ticket_eq : m.session.tickets = ticket
  mem_moves : ∃ moves, (work.prepare m.session.reader).moves? = some moves ∧ move ∈ moves

/-- The rotations of a request that the next task makes are those of the moves that it executes. -/
theorem Moment.exists_undertakes_of_mem_requests {m : Moment} {q : Request} (hq : q ∈ m.requests)
    {r : Rotation} (hr : r ∈ q.steps) :
    ∃ work move, m.Undertakes q.ticket work move ∧ r ∈ move.expand := by
  unfold requests at hq
  split at hq
  · next site work name onDone rest hagenda =>
    rw [Option.mem_toList, Option.map_eq_some_iff] at hq
    obtain ⟨moves, hmoves, rfl⟩ := hq
    obtain ⟨move, hmove, hr⟩ := List.mem_flatMap.1 hr
    exact ⟨work, move, ⟨⟨site, name, onDone, rest, hagenda⟩, rfl, moves, hmoves, hmove⟩, hr⟩
  · cases hq

/-- A rotation that was issued for a ticket is one of a move that was executed by the request with
that ticket. -/
theorem exists_undertakes_of_mem_issues {reader : Notation} {commands : List Command} {n : ℕ}
    {ticket : ℕ} {r : Rotation}
    (hr : (ticket, r) ∈ (moment reader commands n).session.journal.issues) :
    ∃ k < n, ∃ work move, (moment reader commands k).Undertakes ticket work move ∧
      r ∈ move.expand := by
  obtain ⟨q, hq, rfl, hstep⟩ := (sound_ledger reader commands n).exists_request_of_mem_issues hr
  have hmade : q ∈ (moment reader commands n).session.journal.requests := hq
  rw [requests_eq, List.mem_flatMap] at hmade
  obtain ⟨k, hk, hq⟩ := hmade
  exact ⟨k, List.mem_range.1 hk, Moment.exists_undertakes_of_mem_requests hq hstep⟩

/-! ### Work that is read -/

/-- Work that is a text and has its moves read when it is executed. -/
def Work.IsText : Work → Prop
  | moves _ => False
  | token _ | algorithm _ | counted _ _ => True

/-- The moves that a text has when it is executed are moves of the puzzle that notation is read for.
-/
theorem Work.isOn_of_mem_prepare {n : Notation} {work : Work} (hwork : work.IsText)
    {moves : List Move} (hmoves : (work.prepare n).moves? = some moves) {m : Move}
    (hm : m ∈ moves) : m.IsOn n.table := by
  cases work with
  | moves ms => exact hwork.elim
  | token t =>
    cases hmoves
    cases hread : n.move t with
    | error e => simp [Notation.move?, hread] at hm
    | ok m' =>
      have hm' : m = m' := by simpa [Notation.move?, hread] using hm
      rw [hm']
      exact Move.IsOn.of_parse hread
  | algorithm text =>
    cases hmoves
    exact Notation.isOn_of_mem_moves hm
  | counted text strict =>
    cases strict with
    | false =>
      cases hmoves
      exact Notation.isOn_of_mem_moves hm
    | true =>
      simp only [prepare, Notation.algorithmStrict_eq] at hmoves
      split at hmoves
      · next hread =>
        split at hread
        · cases hread
          cases hmoves
          exact Notation.isOn_of_mem_moves hm
        · cases hread
      · cases hmoves

/-- What a token names on a puzzle of any size, and the inverse of it, is either a rotation of the
whole puzzle without layers, or a turn of some layers of that puzzle in ascending order. The
subtractions by which the layers are found are exact in words of 16 bits. So at every moment of
every run, a layer that the puzzle was told to turn is one of a move that was executed before. It is
a layer of the puzzle that notation was read for when that was done, if the move was read then, and
of every puzzle on which a token names the move. -/
theorem turned_layers_exist (size : PuzzleSize) :
    (∀ token m, (Notation.ofSize size).move token = .ok m →
        m.kind.WellFormed size ∧ m.inverse.kind.WellFormed size ∧
          ∀ count face wide, m.stem = .counted count face wide →
            2 ≤ count ∧ (size.count - count.toUInt16).toNat + count = size.layers) ∧
      (size.count - 1).toNat = size.maxIndex ∧ (size.count - 1 - 1).toNat + 1 = size.maxIndex ∧
      ∀ commands n,
        let run := moment (.ofSize size) commands
        (run n).session.journal.received = (run n).session.journal.issues.map Prod.snd ∧
          ∀ ticket r p, (ticket, r) ∈ (run n).session.journal.issues → r.position? = some p →
            ∃ k < n, ∃ work m, (run k).Undertakes ticket work m ∧ r ∈ m.expand ∧
              (work.IsText → p < (run k).session.reader.size.layers) ∧
              ∀ size' token, (Notation.ofSize size').move token = .ok m → p < size'.layers := by
  have htwo := size.two_le_layers
  have hmax : (size.count - 1).toNat = size.maxIndex := by
    have hsub : (size.count - 1).toNat + 1 = size.layers :=
      PuzzleSize.toNat_count_sub_add (Nat.le_of_succ_le htwo)
    unfold PuzzleSize.maxIndex
    omega
  refine ⟨fun token m hm => ?_, hmax, ?_, fun commands n => ⟨Journal.received_eq_map_issues _, ?_⟩⟩
  · have hon : m.IsOn (.ofSize size) := Move.IsOn.of_parse hm
    refine ⟨hon.wellFormed, hon.inverse.wellFormed, fun count face wide hstem => ?_⟩
    obtain ⟨hlow, hhigh⟩ := hon.count_bounds hstem
    exact ⟨hlow, PuzzleSize.toNat_count_sub_add hhigh⟩
  · have hle : (1 : UInt16) ≤ size.count - 1 := by
      rw [UInt16.le_iff_toNat_le, hmax]
      exact Nat.le_sub_of_add_le htwo
    rw [UInt16.toNat_sub_of_le _ _ hle, hmax]
    exact Nat.sub_add_cancel (Nat.le_sub_of_add_le htwo)
  · intro ticket r p hr hp
    obtain ⟨k, hk, work, m, hm, hexpand⟩ := exists_undertakes_of_mem_issues hr
    have hposition : p ∈ m.positions := Move.mem_positions_of_mem_expand hexpand hp
    refine ⟨k, hk, work, m, hm, hexpand, fun hwork => ?_, fun size' token hread => ?_⟩
    · -- The bound is that of moment `k`, at which the text was read, and not that of moment `n`.
      obtain ⟨moves, hmoves, hmem⟩ := hm.mem_moves
      have hon := Work.isOn_of_mem_prepare hwork hmoves hmem
      obtain ⟨size', hreader⟩ := exists_reader_moment_eq size commands k
      rw [hreader] at hon ⊢
      exact hon.wellFormed.lt_layers p hposition
    · exact (Move.IsOn.of_parse hread).wellFormed.lt_layers p hposition

/-- A turn of two layers is executed on a puzzle of size 4, and the second layer is turned when
notation is read for size 2. -/
def resizedRun : ℕ → Moment :=
  moment (.ofSize ⟨4, by decide⟩)
    [.execute (.algorithm "2Rw".toList) [] [], .ask (.setSize 2), .complete 1]

/-- The layer 3 that is turned in the end is one of the puzzle of size 4 that the turn was read for.
-/
theorem turned_layers_of_resizedRun :
    (resizedRun 8).session.reader.size = .two ∧
      (resizedRun 8).session.journal.received =
        [.layer .x (.quarter .negative) 2, .layer .x (.quarter .negative) 3] ∧
      (∃ m, (Notation.ofSize ⟨4, by decide⟩).move "2Rw".toList = .ok m ∧
        m.positions = [2, 3] ∧ m.inverse.kind.WellFormed ⟨4, by decide⟩) ∧
      ∃ k < 8, ∃ work m, (resizedRun k).Undertakes 0 work m ∧ m.render = "2Rw".toList ∧
        3 < (resizedRun k).session.reader.size.layers := by
  obtain ⟨hmoves, -, -, hruns⟩ := turned_layers_exist ⟨4, by decide⟩
  obtain ⟨-, hissues⟩ := hruns
    [.execute (.algorithm "2Rw".toList) [] [], .ask (.setSize 2), .complete 1] 8
  have hissue : (0, .layer .x (.quarter .negative) 3) ∈ (resizedRun 8).session.journal.issues := by
    decide +kernel
  have hread : (Notation.ofSize ⟨4, by decide⟩).move "2Rw".toList =
      .ok (.ofTurn (.counted 2 .right true) (.ofFace ⟨4, by decide⟩ .right 2) .plain) := by
    decide +kernel
  obtain ⟨-, hinverse, -⟩ := hmoves _ _ hread
  obtain ⟨k, hk, work, m, hm, -, htext, -⟩ := hissues 0 _ 3 hissue rfl
  obtain ⟨site, name, onDone, rest, hagenda⟩ := hm.agenda
  obtain ⟨moves, hprepare, hmem⟩ := hm.mem_moves
  -- The only moment at which anything is executed is the first one.
  have hfirst : k = 0 := by
    interval_cases k
    · rfl
    all_goals cases hagenda
  subst hfirst
  cases hagenda
  cases hprepare
  have hvalue : ((Notation.ofSize ⟨4, by decide⟩).algorithm "2Rw".toList).value =
      [.ofTurn (.counted 2 .right true) (.ofFace ⟨4, by decide⟩ .right 2) .plain] := by
    decide +kernel
  have hrender : m.render = "2Rw".toList := by
    replace hmem : m ∈ ((Notation.ofSize ⟨4, by decide⟩).algorithm "2Rw".toList).value := hmem
    rw [hvalue, List.mem_singleton] at hmem
    rw [hmem]
    decide
  exact ⟨by decide +kernel, by decide +kernel, ⟨_, hread, by decide, hinverse⟩, 0, hk, _, m, hm,
    hrender, htext trivial⟩

end Twisty
