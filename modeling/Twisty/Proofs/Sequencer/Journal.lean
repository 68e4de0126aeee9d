import Mathlib.Data.Nat.Notation
import Twisty.Sequencer.Session

/-!
# What a journal tells

The questions that can be asked of a journal: which requests were made (`Journal.requests`) and
dropped (`Journal.dropped`), which rotations were issued for which request (`Journal.issues`), which
were completed (`Journal.completions`), and which programs began (`Journal.beginnings`). Each is a
view of single occurrences, gathered over the journal in order, so that one occurrence more is one
view more (`Journal.gather_push`).
-/

namespace Twisty

namespace Occurrence

/-- The request that was made. -/
@[simp]
def requests : Occurrence → List Request
  | requested r _ => [r]
  | _ => []

/-- The requests that were dropped, with the rotations that they still had. -/
@[simp]
def dropped : Occurrence → List Request
  | cleared rs => rs
  | _ => []

/-- The rotation that was issued, after the ticket of its request. -/
@[simp]
def issues : Occurrence → List (ℕ × Rotation)
  | issued ticket r _ => [(ticket, r)]
  | _ => []

/-- The rotation that was completed. -/
@[simp]
def completions : Occurrence → List Rotation
  | completed r => [r]
  | _ => []

/-- The ticket of the request whose program began. -/
@[simp]
def beginnings : Occurrence → List ℕ
  | began ticket _ _ => [ticket]
  | _ => []

/-- An occurrence that changes nothing about the requests and the rotations. -/
def IsAside : Occurrence → Prop
  | logged record => record.level ≠ .trace
  | spurious | answered _ _ _ => True
  | _ => False

end Occurrence

/-- The rotations that are listed for a ticket. -/
def rotationsOf (ticket : ℕ) (issues : List (ℕ × Rotation)) : List Rotation :=
  (issues.filter (·.1 = ticket)).map Prod.snd

/-- The rotations left to the requests with a ticket. -/
def stepsOf (ticket : ℕ) (requests : List Request) : List Rotation :=
  (requests.filter (·.ticket = ticket)).flatMap Request.steps

/-- The rotations of a request without as many at its end as were still left to it when it was
dropped. -/
def Request.without (r : Request) (dropped : List Request) : List Rotation :=
  r.steps.take (r.steps.length - (stepsOf r.ticket dropped).length)

namespace Journal

/-- What a view of occurrences sees of a journal, in order. -/
def gather {α : Type} (view : Occurrence → List α) (j : Journal) : List α :=
  j.toList.flatMap view

/-- The requests that were made, as they were made. -/
abbrev requests (j : Journal) : List Request :=
  j.gather Occurrence.requests

/-- The requests that were dropped, with the rotations that they still had. -/
abbrev dropped (j : Journal) : List Request :=
  j.gather Occurrence.dropped

/-- The rotations that were issued, each after the ticket of its request. -/
abbrev issues (j : Journal) : List (ℕ × Rotation) :=
  j.gather Occurrence.issues

/-- The rotations that were completed. -/
abbrev completions (j : Journal) : List Rotation :=
  j.gather Occurrence.completions

/-- The tickets of the requests whose programs began. -/
abbrev beginnings (j : Journal) : List ℕ :=
  j.gather Occurrence.beginnings

/-- The rotations that the request with a ticket still had when it was dropped. -/
abbrev lost (ticket : ℕ) (j : Journal) : List Rotation :=
  stepsOf ticket j.dropped

/-- The rotations of a request without those that it lost when it was dropped. -/
abbrev kept (j : Journal) (r : Request) : List Rotation :=
  r.without j.dropped

@[simp]
theorem gather_empty {α : Type} (view : Occurrence → List α) : gather view #[] = [] :=
  rfl

/-- One occurrence more is one view more. -/
@[simp]
theorem gather_push {α : Type} (view : Occurrence → List α) (j : Journal) (o : Occurrence) :
    gather view (j.push o) = j.gather view ++ view o := by
  simp [gather]

@[simp]
theorem gather_append {α : Type} (view : Occurrence → List α) (i j : Journal) :
    gather view (i ++ j) = i.gather view ++ j.gather view := by
  simp [gather]

/-- The rotations that the puzzle received are those that were issued. -/
theorem received_eq_map_issues (j : Journal) : j.received = j.issues.map Prod.snd := by
  unfold received issues gather
  induction j.toList with
  | nil => rfl
  | cons o os ih =>
    rw [List.flatMap_cons, List.map_append, ← ih, List.filterMap_cons]
    cases o <;> rfl

theorem handed_push (j : Journal) (o : Occurrence) :
    handed (j.push o) = j.handed ++ o.handed?.toList := by
  rw [handed, Array.toList_push, List.filterMap_append]
  cases h : o.handed? <;> simp [handed, h]

theorem records_push (j : Journal) (o : Occurrence) :
    records (j.push o) = j.records ++ o.record?.toList := by
  rw [records, Array.toList_push, List.filterMap_append]
  cases h : o.record? <;> simp [records, h]

theorem received_push (j : Journal) (o : Occurrence) :
    received (j.push o) = j.received ++ o.rotation?.toList := by
  rw [received, Array.toList_push, List.filterMap_append]
  cases h : o.rotation? <;> simp [received, h]

/-- The answer to a command that stands by itself is the last one until there is another. -/
theorem reply_push_answered (j : Journal) (r : Reply) (status : Status) :
    reply (j.push (.answered .outside r status)) = r := by
  simp [reply, Occurrence.reply?]

/-- Whether any program has begun can be told from the list of those that have. -/
theorem anyBegan_iff (j : Journal) : j.anyBegan = true ↔ j.beginnings ≠ [] := by
  unfold anyBegan beginnings gather
  rw [← Array.any_toList]
  induction j.toList with
  | nil => simp
  | cons o os ih =>
    rw [List.any_cons, List.flatMap_cons, Bool.or_eq_true, ih]
    cases o <;> simp

end Journal

end Twisty
