import Mathlib.Data.List.Nodup
import Mathlib.Data.Nat.Notation
import Twisty.Proofs.Notation.Canonical

/-!
# The move table is complete

`BaseMove.Turns` says of each base move what it turns on a puzzle of a given size, in numbers of
layers: a face its outermost layer, a wide turn two of them, a slice the layer in the middle, and a
rotation the whole puzzle. The move table lists exactly these turns, each base move once
(`MoveTable.mem_entries_iff_turns`), and looking a base move up finds its turn
(`MoveTable.find?_eq_some_iff_turns`).

The reader reaches the table through names. The canonical spelling of a base move with a suffix
behind it is a move exactly if the table lists the base move, and then the listed turn is made, the
other way round if there are only primes in the suffix (`table_complete_and_read`).
-/

namespace Twisty

open Text

/-! ### What base moves turn -/

/-- The faces at the positive ends of their axes. -/
def Face.positives : List Face :=
  [right, up, front]

/-- The faces at the negative ends of their axes. -/
def Face.negatives : List Face :=
  [left, down, back]

/-- A face is at one end of its axis or at the other. -/
theorem Face.mem_positives_or_mem_negatives (f : Face) : f ∈ positives ∨ f ∈ negatives := by
  cases f <;> decide

/-- The faces at the positive ends are the ones that count as such. -/
theorem Face.isPositive_of_mem_positives {f : Face} (hf : f ∈ positives) : f.isPositive = true := by
  revert f
  decide

/-- The faces at the negative ends are the others. -/
theorem Face.isPositive_of_mem_negatives {f : Face} (hf : f ∈ negatives) :
    f.isPositive = false := by
  revert f
  decide

/-- The faces whose turns the slices follow. -/
def sliceLeaders : List (Slice × Face) :=
  [(.middle, .left), (.equator, .down), (.standing, .front)]

/-- Every slice follows a face. -/
theorem exists_mem_sliceLeaders (s : Slice) : ∃ f, (s, f) ∈ sliceLeaders :=
  ⟨s.leader, by cases s <;> decide⟩

/-- The faces whose turns the rotations follow. -/
def rotationLeaders : List (Axis × Face) :=
  [(.x, .right), (.y, .up), (.z, .front)]

/-- Every rotation follows a face. -/
theorem exists_mem_rotationLeaders (a : Axis) : ∃ f, (a, f) ∈ rotationLeaders := by
  cases a
  · exact ⟨.right, by decide⟩
  · exact ⟨.up, by decide⟩
  · exact ⟨.front, by decide⟩

/-- What a base move turns on a puzzle with `n` layers along each axis, and which way. A face is
turned clockwise as seen from outside. -/
inductive BaseMove.Turns (n : ℕ) : BaseMove → Turn → Prop where
  /-- A face at the positive end is the last layer. -/
  | last {f : Face} (hf : f ∈ Face.positives) :
      Turns n (.face f) ⟨.layers [n - 1], f.axis, .negative⟩
  /-- A face at the negative end is the first layer. -/
  | first {f : Face} (hf : f ∈ Face.negatives) :
      Turns n (.face f) ⟨.layers [0], f.axis, .positive⟩
  /-- The wide turn of a face at the positive end takes the layer before the last one along. -/
  | lastTwo {f : Face} (hn : 3 ≤ n) (hf : f ∈ Face.positives) :
      Turns n (.wide f) ⟨.layers [n - 2, n - 1], f.axis, .negative⟩
  /-- The wide turn of a face at the negative end takes the layer after the first one along. -/
  | firstTwo {f : Face} (hn : 3 ≤ n) (hf : f ∈ Face.negatives) :
      Turns n (.wide f) ⟨.layers [0, 1], f.axis, .positive⟩
  /-- On the smallest puzzle a wide turn takes everything along. -/
  | everything (hn : n = 2) (f : Face) : Turns n (.wide f) ⟨.whole, f.axis, f.direction⟩
  /-- A slice has as many layers below it as above it, and turns like its leader. -/
  | slice {s : Slice} {f : Face} (hs : (s, f) ∈ sliceLeaders) (k : ℕ) (hk : n = k + 1 + k) :
      Turns n (.slice s) ⟨.layers [k], f.axis, f.direction⟩
  /-- A rotation turns the whole puzzle like its leader. -/
  | rotation {a : Axis} {f : Face} (ha : (a, f) ∈ rotationLeaders) :
      Turns n (.rotation a) ⟨.whole, f.axis, f.direction⟩

namespace Turn

variable {size : PuzzleSize} {f : Face}

/-- The turn of the last layers. -/
theorem ofFace_of_mem_positives (hf : f ∈ Face.positives) (count : ℕ) :
    ofFace size f count =
      ⟨.layers (List.range' (size.layers - count) count), f.axis, .negative⟩ := by
  simp [ofFace, PuzzleSize.outerLayers, Face.direction, Face.isPositive_of_mem_positives hf]

/-- The turn of the first layers. -/
theorem ofFace_of_mem_negatives (hf : f ∈ Face.negatives) (count : ℕ) :
    ofFace size f count = ⟨.layers (List.range count), f.axis, .positive⟩ := by
  simp [ofFace, PuzzleSize.outerLayers, Face.direction, Face.isPositive_of_mem_negatives hf]

/-- The wide turn of the last two layers. -/
theorem ofWide_of_mem_positives (hn : 3 ≤ size.layers) (hf : f ∈ Face.positives) :
    ofWide size f = ⟨.layers [size.layers - 2, size.layers - 1], f.axis, .negative⟩ := by
  have hpositive := Face.isPositive_of_mem_positives hf
  rw [ofWide_of_three_le hn, if_pos hpositive, Face.direction, if_pos hpositive]
  rfl

/-- The wide turn of the first two layers. -/
theorem ofWide_of_mem_negatives (hn : 3 ≤ size.layers) (hf : f ∈ Face.negatives) :
    ofWide size f = ⟨.layers [0, 1], f.axis, .positive⟩ := by
  have hnegative : ¬ f.isPositive = true := by
    rw [Face.isPositive_of_mem_negatives hf]
    exact Bool.false_ne_true
  rw [ofWide_of_three_le hn, if_neg hnegative, Face.direction, if_neg hnegative]

/-- A slice turns like its leader. -/
theorem ofSlice_of_mem {s : Slice} (hs : (s, f) ∈ sliceLeaders) (middle : ℕ) :
    ofSlice middle s = ⟨.layers [middle], f.axis, f.direction⟩ := by
  have hleaders : ∀ p ∈ sliceLeaders, p.1.axis = p.2.axis ∧ p.1.direction = p.2.direction := by
    decide
  obtain ⟨haxis, hdirection⟩ := hleaders _ hs
  rw [ofSlice, haxis, hdirection]

/-- A rotation turns like its leader. -/
theorem ofRotation_of_mem {a : Axis} (ha : (a, f) ∈ rotationLeaders) :
    ofRotation a = ⟨.whole, f.axis, f.direction⟩ := by
  have hleaders : ∀ p ∈ rotationLeaders, ofRotation p.1 = ⟨.whole, p.2.axis, p.2.direction⟩ := by
    decide
  exact hleaders _ ha

end Turn

/-! ### The table -/

/-- Where no key is listed twice, what a key is looked up as is what is listed with it. -/
theorem lookup_eq_some_iff_mem {α β : Type} [BEq α] [LawfulBEq α] {entries : List (α × β)} {key : α}
    {value : β} (h : (entries.map Prod.fst).Nodup) :
    entries.lookup key = some value ↔ (key, value) ∈ entries := by
  induction entries with
  | nil => exact ⟨nofun, nofun⟩
  | cons e entries ih =>
    obtain ⟨key', value'⟩ := e
    obtain ⟨hkey', hrest⟩ := List.nodup_cons.1 h
    by_cases hkey : key = key'
    · subst hkey
      have hmem : (key, value) ∉ entries := fun hmem => hkey' (List.mem_map.2 ⟨_, hmem, rfl⟩)
      rw [List.lookup_cons_self, Option.some_inj, List.mem_cons, or_iff_left hmem, Prod.mk.injEq,
        and_iff_right rfl, eq_comm]
    · have hne : (key == key') = false := beq_eq_false_iff_ne.2 hkey
      rw [List.lookup_cons, hne, List.mem_cons, Prod.mk.injEq, ← ih hrest]
      simp [hkey]

namespace MoveTable

variable (size : PuzzleSize)

/-- The table lists the faces, the rotations, the wide turns, and the slices if the size is odd. -/
theorem map_fst_entries : (ofSize size).entries.map Prod.fst =
    Face.all.map .face ++ Axis.all.map .rotation ++ Face.all.map .wide ++
      if size.layers % 2 = 1 then Slice.all.map .slice else [] := by
  have hslices : (slices size).map Prod.fst =
      if size.layers % 2 = 1 then Slice.all.map .slice else [] := by
    unfold slices PuzzleSize.middleIndex?
    split_ifs
    · rfl
    · rfl
  simp only [ofSize, List.map_append, List.map_map, hslices]
  rfl

/-- It lists no base move twice. -/
theorem nodup_map_fst_entries : ((ofSize size).entries.map Prod.fst).Nodup := by
  rw [map_fst_entries]
  split_ifs
  · decide
  · decide

variable {size} {b : BaseMove} {turn : Turn}

/-- Looking a base move up finds what it turns. -/
theorem find?_eq_some_iff_turns : (ofSize size).find? b = some turn ↔ b.Turns size.layers turn := by
  rw [find?_ofSize]
  constructor
  · intro h
    cases b with
    | face f =>
      cases h
      rcases f.mem_positives_or_mem_negatives with hf | hf
      · rw [Turn.ofFace_of_mem_positives hf]
        exact .last hf
      · rw [Turn.ofFace_of_mem_negatives hf]
        exact .first hf
    | wide f =>
      cases h
      rcases size.eq_two_or_three_le_layers with rfl | hn
      · rw [Turn.ofWide_two]
        exact .everything rfl f
      · rcases f.mem_positives_or_mem_negatives with hf | hf
        · rw [Turn.ofWide_of_mem_positives hn hf]
          exact .lastTwo hn hf
        · rw [Turn.ofWide_of_mem_negatives hn hf]
          exact .firstTwo hn hf
    | slice s =>
      obtain ⟨middle, hmiddle, rfl⟩ := Option.map_eq_some_iff.1 h
      unfold PuzzleSize.middleIndex? at hmiddle
      split_ifs at hmiddle with hodd
      cases hmiddle
      obtain ⟨f, hs⟩ := exists_mem_sliceLeaders s
      rw [Turn.ofSlice_of_mem hs]
      exact .slice hs _ (by omega)
    | rotation a =>
      cases h
      obtain ⟨f, ha⟩ := exists_mem_rotationLeaders a
      rw [Turn.ofRotation_of_mem ha]
      exact .rotation ha
  · intro h
    cases h with
    | last hf => exact congrArg some (Turn.ofFace_of_mem_positives hf 1)
    | first hf => exact congrArg some (Turn.ofFace_of_mem_negatives hf 1)
    | lastTwo hn hf => exact congrArg some (Turn.ofWide_of_mem_positives hn hf)
    | firstTwo hn hf => exact congrArg some (Turn.ofWide_of_mem_negatives hn hf)
    | everything hn f =>
      have hsize : size = .two := PuzzleSize.ext_layers hn
      subst hsize
      exact congrArg some (Turn.ofWide_two f)
    | slice hs k hk =>
      have hmiddle : size.middleIndex? = some k := by
        unfold PuzzleSize.middleIndex?
        rw [if_pos (by omega)]
        exact congrArg some (by omega)
      show size.middleIndex?.map _ = _
      rw [hmiddle, Option.map_some, Turn.ofSlice_of_mem hs]
    | rotation ha => exact congrArg some (Turn.ofRotation_of_mem ha)

/-- The table lists every base move with what it turns. -/
theorem mem_entries_iff_turns : (b, turn) ∈ (ofSize size).entries ↔ b.Turns size.layers turn := by
  rw [← lookup_eq_some_iff_mem (nodup_map_fst_entries size)]
  exact find?_eq_some_iff_turns

/-- The table has the base moves that turn something. -/
theorem contains_iff : (ofSize size).contains b = true ↔ ∃ turn, b.Turns size.layers turn := by
  simp only [contains, Option.isSome_iff_exists, find?_eq_some_iff_turns]

end MoveTable

/-! ### Reading names -/

/-- The table of a puzzle lists its base moves, each once and in order, with what they turn. The
canonical spelling of a base move with a suffix behind it is a move exactly if the base move is in
the table. It turns what is listed there about the axis that is listed there, in the listed
direction or, if the suffix consists of primes and there is one, the other way round. -/
theorem table_complete_and_read (size : PuzzleSize) :
    let table := MoveTable.ofSize size
    (table.entries.map fun e => e.1.render) =
        (["R", "L", "U", "D", "F", "B", "x", "y", "z", "Rw", "Lw", "Uw", "Dw", "Fw", "Bw"] ++
          if size.layers % 2 = 1 then ["M", "E", "S"] else []).map String.toList ∧
      (table.entries.map Prod.fst).Nodup ∧
      (∀ b turn, (b, turn) ∈ table.entries ↔ b.Turns size.layers turn) ∧
      ∀ (b : BaseMove) (suffix : List Char), (∀ c ∈ suffix, c = '2' ∨ c = '\'') →
        ((∃ m, (Notation.ofSize size).move (b.render ++ suffix) = .ok m) ↔
          table.contains b = true) ∧
        ∀ m, (Notation.ofSize size).move (b.render ++ suffix) = .ok m →
          ∃ turn, (b, turn) ∈ table.entries ∧ m.kind = turn.kind ∧ m.axis = turn.axis ∧
            m.direction = if suffix ≠ [] ∧ '2' ∉ suffix then turn.direction.reverse
              else turn.direction := by
  intro table
  refine ⟨?_, MoveTable.nodup_map_fst_entries size, fun _ _ => MoveTable.mem_entries_iff_turns,
    fun b suffix hsuffix => ?_⟩
  · have hnames : (table.entries.map fun e => e.1.render) =
        (table.entries.map Prod.fst).map BaseMove.render := by
      rw [List.map_map]
      rfl
    rw [hnames, MoveTable.map_fst_entries]
    split_ifs
    · decide
    · decide
  -- A token that is put together so is a move exactly if its base move has a turn.
  have hmodifier := Modifier.ofSuffix?_eq_some_iff.2 ⟨hsuffix, rfl⟩
  have hmove : ∀ m, (Notation.ofSize size).move (b.render ++ suffix) = .ok m ↔
      ∃ turn, b.Turns size.layers turn ∧ m = .ofTurn (.base b) turn
        (if '2' ∈ suffix then .double else if suffix = [] then .plain else .prime) := by
    intro m
    simp only [← MoveTable.find?_eq_some_iff_turns]
    exact Move.parse_append_eq_ok_iff (.named b) hmodifier
  refine ⟨?_, fun m hm => ?_⟩
  · rw [MoveTable.contains_iff]
    constructor
    · rintro ⟨m, hm⟩
      obtain ⟨turn, hturn, -⟩ := (hmove m).1 hm
      exact ⟨turn, hturn⟩
    · rintro ⟨turn, hturn⟩
      exact ⟨_, (hmove _).2 ⟨turn, hturn, rfl⟩⟩
  · obtain ⟨turn, hturn, rfl⟩ := (hmove m).1 hm
    refine ⟨turn, MoveTable.mem_entries_iff_turns.2 hturn, rfl, rfl, ?_⟩
    show Modifier.apply _ turn.direction = _
    by_cases htwo : '2' ∈ suffix
    · simp [htwo, Modifier.apply]
    · by_cases hempty : suffix = []
      · simp [hempty, Modifier.apply]
      · simp [htwo, hempty, Modifier.apply]

/-- With two primes, the middle slice of a puzzle of size 3 turns layer 1 the other way round than
the left face does, and on the smallest puzzle there is no such move. -/
theorem table_complete_and_read_of_slice :
    (∀ c ∈ "''".toList, c = '2' ∨ c = '\'') ∧
      (∃ m, (Notation.ofSize .three).move ("M".toList ++ "''".toList) = .ok m ∧
        m.kind = .layers [1] ∧ m.axis = .x ∧ m.direction = .negative) ∧
      ¬ ∃ m, (Notation.ofSize .two).move ("M".toList ++ "''".toList) = .ok m := by
  have hsuffix : ∀ c ∈ "''".toList, c = '2' ∨ c = '\'' := by simp
  have hthree := (table_complete_and_read .three).2.2.2 (.slice .middle) _ hsuffix
  have htwo := (table_complete_and_read .two).2.2.2 (.slice .middle) _ hsuffix
  refine ⟨hsuffix, ?_, fun h => absurd (htwo.1.1 h) (by decide)⟩
  obtain ⟨m, hm⟩ := hthree.1.2 (by decide)
  obtain ⟨turn, hturn, hkind, haxis, hdirection⟩ := hthree.2 m hm
  have hlisted : turn = Turn.ofSlice 1 .middle := by
    rw [← lookup_eq_some_iff_mem (MoveTable.nodup_map_fst_entries .three)] at hturn
    exact (Option.some.inj hturn).symm
  subst hlisted
  exact ⟨m, hm, hkind, haxis, hdirection⟩

end Twisty
