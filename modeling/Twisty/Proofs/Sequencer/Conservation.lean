import Twisty.Proofs.Sequencer.Ledger
import Twisty.Proofs.Sequencer.Operations

/-!
# No rotation is lost, repeated or reordered

At every moment of a run, the rotations that the puzzle has received and then those not issued yet
are the expansions of all executed moves, without the rotations that were dropped
(`received_append_unissued_eq`).

Both sides are sorted by the tickets of their requests, so that it is enough to compare them ticket
by ticket (`eq_flatMap_filter_of_pairwise`). For a single ticket the two are the same because a
request is at most once dropped or waiting, and because its rotations are those issued for it and
then those left to it (`Ledger.Sound.without_eq`).
-/

namespace Twisty

/-! ### Lists that are sorted by a key -/

section Sorted

variable {α : Type}

/-- A list with ascending keys up to `n` consists of the part below `n` and the part at `n`. -/
theorem filter_lt_append_filter_eq {n : ℕ} {l : List (ℕ × α)}
    (hs : (l.map Prod.fst).Pairwise (· ≤ ·)) (hn : ∀ i ∈ l, i.1 < n + 1) :
    l.filter (·.1 < n) ++ l.filter (·.1 = n) = l := by
  induction l with
  | nil => rfl
  | cons a l ih =>
    rw [List.map_cons, List.pairwise_cons] at hs
    have hl : ∀ i ∈ l, i.1 < n + 1 := fun i hi => hn i (List.mem_cons_of_mem _ hi)
    have ha := hn a List.mem_cons_self
    by_cases h : a.1 < n
    · have hne : a.1 ≠ n := h.ne
      simpa [h, hne] using ih hs.2 hl
    · -- All keys from here on are `n`.
      have heq : ∀ i ∈ a :: l, i.1 = n := by
        intro i hi
        have hle : a.1 ≤ i.1 := by
          rcases List.mem_cons.1 hi with rfl | hi
          · exact le_rfl
          · exact hs.1 _ (List.mem_map_of_mem hi)
        have := hn i hi
        omega
      rw [List.filter_eq_nil_iff.2 fun i hi => by simp [heq i hi], List.nil_append,
        List.filter_eq_self.2 fun i hi => by simp [heq i hi]]

/-- A list with ascending keys below `n` is its parts at the keys `0` to `n - 1`, in order. -/
theorem eq_flatMap_filter_of_pairwise {n : ℕ} {l : List (ℕ × α)}
    (hs : (l.map Prod.fst).Pairwise (· ≤ ·)) (hn : ∀ i ∈ l, i.1 < n) :
    l = (List.range n).flatMap fun k => l.filter (·.1 = k) := by
  induction n generalizing l with
  | zero =>
    have hl : l = [] := List.eq_nil_iff_forall_not_mem.2 fun i hi => Nat.not_lt_zero _ (hn i hi)
    rw [hl]
    rfl
  | succ n ih =>
    have hlow : ((l.filter (·.1 < n)).map Prod.fst).Pairwise (· ≤ ·) :=
      hs.sublist (List.filter_sublist.map _)
    have hih := ih hlow fun i hi => by simpa using (List.mem_filter.1 hi).2
    have hbelow : (List.range n).flatMap (fun k => (l.filter (·.1 < n)).filter (·.1 = k)) =
        (List.range n).flatMap fun k => l.filter (·.1 = k) := by
      refine List.flatMap_congr fun k hk => ?_
      rw [List.filter_filter]
      refine List.filter_congr fun i _ => ?_
      have hk := List.mem_range.1 hk
      by_cases h : i.1 = k <;> simp [h, hk]
    rw [List.range_succ, List.flatMap_append, List.flatMap_singleton, ← hbelow, ← hih,
      filter_lt_append_filter_eq hs hn]

end Sorted

/-! ### Issued and unissued rotations by ticket -/

/-- The rotations left to a request, each after its ticket. -/
def Request.course (r : Request) : List (ℕ × Rotation) :=
  r.steps.map (r.ticket, ·)

theorem Request.map_snd_course (r : Request) : r.course.map Prod.snd = r.steps := by
  simp [course, Function.comp_def]

/-- All rotations left to a request are listed for its ticket. -/
theorem Request.rotationsOf_course (r : Request) (ticket : ℕ) :
    rotationsOf ticket r.course = if r.ticket = ticket then r.steps else [] := by
  split_ifs with h
  · have hall : r.course.filter (·.1 = ticket) = r.course :=
      List.filter_eq_self.2 fun i hi => by
        obtain ⟨_, _, rfl⟩ := List.mem_map.1 hi
        simpa using h
    rw [rotationsOf, hall, map_snd_course]
  · refine rotationsOf_eq_nil fun i hi => ?_
    obtain ⟨_, _, rfl⟩ := List.mem_map.1 hi
    exact h

namespace Ledger

/-- The rotations that were issued and those of the waiting requests, each after its ticket. -/
def course (l : Ledger) : List (ℕ × Rotation) :=
  l.issues ++ l.waiting.flatMap Request.course

theorem map_snd_course (l : Ledger) :
    l.course.map Prod.snd = l.issues.map Prod.snd ++ l.waiting.flatMap Request.steps := by
  simp [course, List.map_flatMap, Request.map_snd_course]

/-- The part of the course at a ticket is what was issued for its request and what is waiting. -/
theorem rotationsOf_course (l : Ledger) (ticket : ℕ) :
    rotationsOf ticket l.course = rotationsOf ticket l.issues ++ stepsOf ticket l.waiting := by
  rw [course, rotationsOf_append]
  congr 1
  induction l.waiting with
  | nil => rfl
  | cons r rs ih =>
    rw [List.flatMap_cons, rotationsOf_append, r.rotationsOf_course, ih, stepsOf_cons]

namespace Sound

variable {l : Ledger}

/-- Rotations take their course in the order of their tickets. -/
theorem course_pairwise (h : l.Sound) : (l.course.map Prod.fst).Pairwise (· ≤ ·) := by
  obtain ⟨hissues, hwaiting, hle⟩ := List.pairwise_append.1 h.issued
  have hticket : ∀ r : Request, ∀ t ∈ r.course.map Prod.fst, t = r.ticket := by
    intro r t ht
    simp only [Request.course, List.map_map, List.mem_map] at ht
    obtain ⟨_, _, rfl⟩ := ht
    rfl
  rw [course, List.map_append, List.map_flatMap, List.pairwise_append, List.pairwise_flatMap]
  -- Within the issued rotations, within a waiting request, between two of them, and from the
  -- issued rotations to the waiting requests.
  refine ⟨hissues, ⟨fun r _ => ?_, ?_⟩, ?_⟩
  · refine List.pairwise_iff_forall_sublist.2 fun {t u} hsub => ?_
    have ht := hticket r t (hsub.subset (by simp))
    have hu := hticket r u (hsub.subset (by simp))
    exact (ht.trans hu.symm).le
  · refine (List.pairwise_map.1 hwaiting).imp fun {q r} hqr t ht u hu => ?_
    rw [hticket q t ht, hticket r u hu]
    exact hqr
  · intro t ht u hu
    obtain ⟨r, hr, hu⟩ := List.mem_flatMap.1 hu
    rw [hticket r u hu]
    exact hle t ht _ (List.mem_map_of_mem hr)

/-- All rotations of the course are those of requests that were made. -/
theorem lt_of_mem_course (h : l.Sound) : ∀ i ∈ l.course, i.1 < l.tickets := by
  intro i hi
  rcases List.mem_append.1 hi with hi | hi
  · exact h.known i hi
  · obtain ⟨r, hr, hi⟩ := List.mem_flatMap.1 hi
    obtain ⟨_, _, rfl⟩ := List.mem_map.1 hi
    refine h.mem_placed_iff.1 (List.mem_append_right _ ?_)
    exact List.mem_map_of_mem (List.mem_append_right _ hr)

/-- A request that was dropped is not waiting. -/
theorem stepsOf_waiting_eq_nil (h : l.Sound) {ticket : ℕ} (hd : stepsOf ticket l.dropped ≠ []) :
    stepsOf ticket l.waiting = [] := by
  refine stepsOf_eq_nil fun hw => hd (stepsOf_eq_nil fun hd => ?_)
  have hn := (List.nodup_append.1 h.nodup).2.1
  rw [List.map_append] at hn
  exact (List.nodup_append.1 hn).2.2 ticket hd ticket hw rfl

/-- The rotations of a request without those that were lost are those that were issued for it and
those that are waiting. -/
theorem without_eq (h : l.Sound) {r : Request} (hr : r ∈ l.made) :
    r.without l.dropped = rotationsOf r.ticket l.issues ++ stepsOf r.ticket l.waiting := by
  have hwhole := h.whole r hr
  rw [stepsOf_append] at hwhole
  rcases eq_or_ne (stepsOf r.ticket l.dropped) [] with hd | hd
  · rw [hd, List.nil_append] at hwhole
    rw [Request.without, hd, hwhole, List.length_nil, Nat.sub_zero, List.take_length]
  · rw [h.stepsOf_waiting_eq_nil hd, List.append_nil] at hwhole ⊢
    rw [Request.without, ← hwhole, List.length_append, Nat.add_sub_cancel, List.take_left]

/-- What was lost of a request is the end of its rotations. -/
theorem without_append_eq (h : l.Sound) {r : Request} (hr : r ∈ l.made) :
    r.without l.dropped ++ stepsOf r.ticket l.dropped = r.steps := by
  rw [h.without_eq hr, ← h.whole r hr, stepsOf_append]
  rcases eq_or_ne (stepsOf r.ticket l.dropped) [] with hd | hd
  · rw [hd, List.append_nil, List.nil_append]
  · rw [h.stepsOf_waiting_eq_nil hd, List.append_nil, List.append_nil]

/-- The course of all rotations is that of the requests one after the other. -/
theorem map_snd_course_eq (h : l.Sound) :
    l.course.map Prod.snd = l.made.flatMap fun r => r.without l.dropped :=
  calc l.course.map Prod.snd
    _ = ((List.range l.tickets).flatMap fun t => l.course.filter (·.1 = t)).map Prod.snd := by
      rw [← eq_flatMap_filter_of_pairwise h.course_pairwise h.lt_of_mem_course]
    _ = (l.made.map Request.ticket).flatMap fun t => rotationsOf t l.course := by
      rw [h.numbered, List.map_flatMap]
      rfl
    _ = l.made.flatMap fun r => rotationsOf r.ticket l.course := List.flatMap_map ..
    _ = _ := List.flatMap_congr fun r hr => by rw [rotationsOf_course, h.without_eq hr]

/-- If no request was dropped and none is waiting, all rotations of all requests have been issued.
-/
theorem issues_eq (h : l.Sound) (hd : l.dropped = []) (hw : l.waiting = []) :
    l.issues.map Prod.snd = l.made.flatMap Request.steps := by
  have hcourse : l.course.map Prod.snd = l.issues.map Prod.snd := by
    rw [l.map_snd_course, hw, List.flatMap_nil, List.append_nil]
  have hwhole : ∀ r ∈ l.made, r.without l.dropped = r.steps := by
    intro r _
    rw [hd]
    exact List.take_length ..
  rw [← hcourse, h.map_snd_course_eq]
  exact List.flatMap_congr hwhole

end Sound

end Ledger

/-! ### The log -/

/-- The log of a journal tells of the rotations that were issued, and at the level of traces of
nothing else. -/
def Journal.Traced (j : Journal) : Prop :=
  j.records.filter (·.level = .trace) = j.received.map .issued

/-- An occurrence that reports nothing, or not at the level of traces, keeps the log as it should
be. -/
theorem Journal.Traced.push {j : Journal} (h : j.Traced) {o : Occurrence}
    (ho : ∀ r, o = .logged r → r.level ≠ .trace) : Journal.Traced (j.push o) := by
  unfold Traced at h ⊢
  rw [received_eq_map_issues] at h ⊢
  rw [issues, gather_push, records_push, List.filter_append, h, List.map_append, List.map_append]
  congr 1
  cases o with
  | logged r => simp [Occurrence.record?, ho r rfl]
  | cleared rs => cases rs <;> simp [Occurrence.record?, LogRecord.level]
  | requested | issued | completed | spurious | began | answered =>
    simp [Occurrence.record?, LogRecord.level]

/-- Every change keeps the log as it should be. -/
theorem Journal.Traced.change (s s' : Session) (hc : Change s s') (h : s.journal.Traced) :
    s'.journal.Traced := by
  cases hc with
  | reader n => exact h
  | aside o ho =>
    refine h.push fun r hr => ?_
    rw [hr] at ho
    exact ho
  | request | clear | land | issue | begin => exact h.push nofun

/-- At every moment of a run, the rotations that the puzzle has received and then those not issued
yet are the expansions of the moves executed so far, in order, each without what was still unissued
of it when it was dropped. Their number is counted, and the traces in the log are the texts of the
rotations that were received. -/
theorem received_append_unissued_eq (reader : Notation) (commands : List Command) (n : ℕ) :
    let s := (moment reader commands n).session
    let made := s.journal.requests
    s.journal.received ++ s.sequencer.unissued = made.flatMap s.journal.kept ∧
      made.map Request.order =
        (List.range n).flatMap (fun k =>
          (moment reader commands k).executes.map (Prod.map expandAll id)) ∧
      s.journal.dropped = (List.range n).flatMap (fun k => (moment reader commands k).drops) ∧
      made.map Request.ticket = List.range made.length ∧
      (∀ r ∈ made, s.journal.kept r ++ s.journal.lost r.ticket = r.steps) ∧
      s.sequencer.pendingSteps = s.sequencer.unissued.length ∧
      (s.journal.records.filter (·.level = .trace)).map LogRecord.message =
        s.journal.received.map Rotation.render := by
  intro s made
  have h : s.ledger.Sound := sound_ledger reader commands n
  have htraced : s.journal.Traced :=
    Change.invariant (p := fun s => s.journal.Traced) Journal.Traced.change (by rfl) n
  refine ⟨?_, orders_eq .., dropped_eq .., h.map_ticket_made, fun r hr => h.without_append_eq hr,
    s.sequencer.pendingSteps_eq_length_unissued, ?_⟩
  · rw [Journal.received_eq_map_issues]
    exact s.ledger.map_snd_course.symm.trans h.map_snd_course_eq
  · rw [htraced, List.map_map]
    rfl

/-- The short run issues two of its four rotations. Its second request, a half turn, loses one of
its two quarter turns. -/
theorem received_shortRun :
    let s := (moment default shortRun 17).session
    s.journal.received = [.layer .x (.quarter .negative) 2, .layer .z (.quarter .negative) 2] ∧
      s.journal.received ++ s.sequencer.unissued = s.journal.requests.flatMap s.journal.kept ∧
      ∃ r ∈ s.journal.requests, s.journal.lost r.ticket = [.layer .z (.quarter .negative) 2] ∧
        s.journal.kept r ++ s.journal.lost r.ticket = r.steps := by
  intro s
  obtain ⟨hkept, -, -, -, hlost, -, -⟩ := received_append_unissued_eq default shortRun 17
  have hsecond : ∃ r ∈ s.journal.requests, r.ticket = 1 :=
    ⟨_, List.mem_cons_of_mem _ List.mem_cons_self, rfl⟩
  obtain ⟨r, hr, hticket⟩ := hsecond
  refine ⟨by decide, hkept, r, hr, ?_, hlost r hr⟩
  rw [hticket]
  decide

end Twisty
