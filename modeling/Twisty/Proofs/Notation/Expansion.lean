import Mathlib.Data.Nat.Notation
import Twisty.Proofs.Notation.Layers

/-!
# The rotations of a move and its modifier

A stem that names a turn can be written plainly, with a prime or with a `2`. The three moves differ
in the modifier only (`Move.parse_stripEnd_append`), which has two effects on the rotations that
execute a move. It says how often the layers of a turn are gone through, each time all of them
(`Move.expand_of_not_isRotation`), and how far the whole puzzle is rotated
(`Move.expand_of_isRotation`). A prime also reverses the direction, as does the inverse of a move of
quarter turns. Both leave everything else as it is, so that one lemma says of both that every angle
is negated (`Move.expand_eq_map_negate`).
-/

namespace Twisty

open Text

namespace Move

variable {m : Move}

/-- A rotation of the whole puzzle is one rotation. -/
theorem expand_of_isRotation (h : m.isRotation = true) :
    m.expand = [.whole m.axis (m.modifier.angle m.direction)] :=
  expand_of_whole (of_decide_eq_true h)

/-- A turn of layers is a quarter turn of each of them, as often as the quarter turn is made. -/
theorem expand_of_not_isRotation (h : m.isRotation = false) :
    m.expand = (List.replicate m.repetitions
      (m.positions.map (.layer m.axis (.quarter m.direction)))).flatten := by
  have hkind : m.kind ≠ .whole := of_decide_eq_false h
  cases hm : m.kind with
  | whole => exact absurd hm hkind
  | layers ps =>
    rw [expand_of_layers hm, positions, hm]
    rfl

/-- A plain turn of layers turns each of them once. -/
theorem expand_of_plain_layers (hplain : m.modifier = .plain) (h : m.isRotation = false) :
    m.expand = m.positions.map (.layer m.axis (.quarter m.direction)) := by
  rw [expand_of_not_isRotation h, repetitions, hplain]
  exact List.append_nil _

/-- Half a turn of layers turns all of them once before any of them is turned again. -/
theorem expand_of_double_layers (hdouble : m.modifier = .double) (h : m.isRotation = false) :
    m.expand = m.positions.map (.layer m.axis (.quarter m.direction)) ++
      m.positions.map (.layer m.axis (.quarter m.direction)) := by
  rw [expand_of_not_isRotation h, repetitions, hdouble]
  exact congrArg _ (List.append_nil _)

/-- Every rotation of a plain move is a quarter turn. -/
theorem angle_of_mem_expand (hplain : m.modifier = .plain) {r : Rotation} (hr : r ∈ m.expand) :
    r.angle = .quarter m.direction := by
  cases h : m.isRotation with
  | true =>
    rw [expand_of_isRotation h, hplain] at hr
    rw [List.mem_singleton.1 hr]
    rfl
  | false =>
    rw [expand_of_plain_layers hplain h] at hr
    obtain ⟨position, -, rfl⟩ := List.mem_map.1 hr
    rfl

/-- A move that differs from another one in its direction is executed by the opposite rotations. -/
theorem expand_eq_map_negate {m' : Move} (hkind : m'.kind = m.kind) (haxis : m'.axis = m.axis)
    (hdirection : m'.direction = m.direction.reverse)
    (hrepetitions : m'.repetitions = m.repetitions) : m'.expand = m.expand.map .negate := by
  have hrotation : m'.isRotation = m.isRotation := by
    rw [isRotation, hkind, isRotation]
  cases h : m.isRotation with
  | true =>
    have hangle : m'.modifier.angle m'.direction = (m.modifier.angle m.direction).negate := by
      rw [Modifier.angle_congr hrepetitions, hdirection, Modifier.angle_reverse]
    rw [expand_of_isRotation h, expand_of_isRotation (hrotation.trans h), haxis, hangle]
    rfl
  | false =>
    have hlayers : m'.positions.map (Rotation.layer m'.axis (.quarter m'.direction)) =
        (m.positions.map (Rotation.layer m.axis (.quarter m.direction))).map .negate := by
      rw [positions, hkind, haxis, hdirection, List.map_map]
      rfl
    rw [expand_of_not_isRotation h, expand_of_not_isRotation (hrotation.trans h), hrepetitions,
      hlayers, List.map_flatten, List.map_replicate]

/-- The inverse of a move of quarter turns is executed by the opposite rotations. -/
theorem expand_inverse_of_ne_double (h : m.modifier ≠ .double) :
    m.inverse.expand = m.expand.map .negate := by
  have hrepetitions : m.inverse.repetitions = m.repetitions := by
    unfold repetitions inverse
    cases hmodifier : m.modifier with
    | plain | prime => rfl
    | double => exact absurd hmodifier h
  exact expand_eq_map_negate rfl rfl (if_neg h) hrepetitions

/-- The inverse of a move of half turns is executed by the same rotations. -/
theorem expand_inverse_of_eq_double (h : m.modifier = .double) : m.inverse.expand = m.expand := by
  rw [inverse_eq_self_iff.2 h]

/-- A token that names a move without a modifier also names the turn of that move behind it. -/
theorem parse_stripEnd_append {table : MoveTable} {token suffix : List Char} {modifier : Modifier}
    (h : parse table token = .ok m) (hplain : m.modifier = .plain)
    (hmodifier : Modifier.ofSuffix? suffix = some modifier) :
    parse table (stripEnd token ++ suffix) = .ok (ofTurn m.stem m.turn modifier) := by
  obtain ⟨⟨turn, hturn, hm⟩, text, rest, htoken, hspelled, hrest⟩ := parse_eq_ok_iff.1 h
  rw [hplain, Modifier.ofSuffix?_eq_plain_iff] at hrest
  rw [hrest, List.append_nil] at htoken
  have hstrip : strip (stripEnd token ++ suffix) = text ++ suffix := by
    rw [strip_stripEnd_append, htoken]
    exact hspelled.strip_append fun c hc =>
      Modifier.not_isBlank_of_ofSuffix? hmodifier c (List.mem_of_getLast? hc)
  have hunaltered : m.turn = turn := by
    rw [hm, hplain]
    rfl
  rw [hunaltered]
  exact parse_eq_ok_iff.2 ⟨⟨turn, hturn, rfl⟩, text, suffix, hstrip, hspelled, hmodifier⟩

end Move

/-- A token without a suffix names a move, and with a prime or a `2` behind it, in place of any
blanks at its end, it names two more. A turn of layers is executed by one rotation for each of its
layers in ascending order, and half of it by the same rotations twice in a row. A rotation of the
whole puzzle is executed by one rotation, with twice the angle for half a turn. A prime and the
inverse of a quarter turn negate every angle, and half a turn is its own inverse. -/
theorem Notation.expansion_respects_modifiers {size : PuzzleSize} {token : List Char} {p : Move}
    (h : (ofSize size).move token = .ok p) (hplain : p.modifier = .plain) :
    ∃ p' d : Move,
      (ofSize size).move (stripEnd token ++ ['\'']) = .ok p' ∧
      (ofSize size).move (stripEnd token ++ ['2']) = .ok d ∧
      (p.isRotation = false →
        p.expand = p.positions.map (.layer p.axis (.quarter p.direction)) ∧
        p.positions.Pairwise (· < ·) ∧ d.expand = p.expand ++ p.expand) ∧
      (p.isRotation = true → ∃ a a' b : Angle,
        p.expand = [.whole p.axis a] ∧ p'.expand = [.whole p.axis a'] ∧
        d.expand = [.whole p.axis b] ∧
        a'.quarters = -a.quarters ∧ b.quarters = 2 * a.quarters) ∧
      p'.expand = p.expand.map .negate ∧
      p.inverse.expand = p.expand.map .negate ∧ p'.inverse.expand = p'.expand.map .negate ∧
      d.inverse.expand = d.expand ∧
      ∀ r ∈ p.expand, r.angle = .quarter p.direction := by
  have hnegate : (Move.ofTurn p.stem p.turn .prime).expand = p.expand.map .negate := by
    refine Move.expand_eq_map_negate rfl rfl rfl ?_
    rw [Move.repetitions, Move.repetitions, hplain]
    rfl
  have hne : p.modifier ≠ .double := by
    rw [hplain]
    nofun
  refine ⟨.ofTurn p.stem p.turn .prime, .ofTurn p.stem p.turn .double,
    Move.parse_stripEnd_append h hplain rfl, Move.parse_stripEnd_append h hplain rfl,
    fun hlayers => ?_, fun hrotation => ?_, hnegate, Move.expand_inverse_of_ne_double hne,
    Move.expand_inverse_of_ne_double nofun, Move.expand_inverse_of_eq_double rfl,
    fun r hr => Move.angle_of_mem_expand hplain hr⟩
  · have hexpand := Move.expand_of_plain_layers hplain hlayers
    refine ⟨hexpand, (Move.IsOn.of_parse h).wellFormed.ascending, ?_⟩
    rw [hexpand]
    exact Move.expand_of_double_layers rfl hlayers
  · refine ⟨.quarter p.direction, .quarter p.direction.reverse, .half p.direction, ?_,
      Move.expand_of_isRotation hrotation, Move.expand_of_isRotation hrotation,
      Angle.quarters_negate (.quarter p.direction), Angle.quarters_half p.direction⟩
    rw [Move.expand_of_isRotation hrotation, hplain]
    rfl

/-- On a puzzle of size 5, ` 03r ` turns the layers 2, 3 and 4, and half of it turns them twice. On
the smallest puzzle, `r` rotates the whole puzzle by a quarter turn and `r2` by two. -/
theorem Notation.expansion_on_five_and_two :
    let n := ofSize ⟨5, by decide⟩
    let n' := ofSize .two
    (∃ p p' d : Move, n.move " 03r ".toList = .ok p ∧ n.move " 03r'".toList = .ok p' ∧
      n.move " 03r2".toList = .ok d ∧
      p.expand.filterMap Rotation.position? = [2, 3, 4] ∧ p'.expand = p.expand.map .negate ∧
      d.expand.filterMap Rotation.position? = [2, 3, 4, 2, 3, 4]) ∧
    ∃ p d : Move, n'.move ['r'] = .ok p ∧ n'.move ['r', '2'] = .ok d ∧
      p.expand.map (·.angle.quarters) = [-1] ∧ d.expand.map (·.angle.quarters) = [-2] := by
  intro n n'
  constructor
  · let p : Move := ⟨.counted 3 .right true, ⟨.layers [2, 3, 4], .x, .negative⟩, .plain⟩
    have hp : n.move " 03r ".toList = .ok p := by rfl
    obtain ⟨p', d, hp', hd, hlayers, -, hnegate, -⟩ := expansion_respects_modifiers hp rfl
    obtain ⟨-, -, hdouble⟩ := hlayers rfl
    refine ⟨p, p', d, hp, hp', hd, by decide, hnegate, ?_⟩
    rw [hdouble]
    decide
  · let p : Move := ⟨.base (.wide .right), ⟨.whole, .x, .negative⟩, .plain⟩
    have hp : n'.move ['r'] = .ok p := by rfl
    obtain ⟨p', d, -, hd, -, hrotation, -⟩ := expansion_respects_modifiers hp rfl
    obtain ⟨a, a', b, ha, -, hb, -, htwice⟩ := hrotation rfl
    have hquarter : a.quarters = -1 := by
      cases ha
      rfl
    refine ⟨p, d, hp, hd, by decide, ?_⟩
    rw [hb, List.map_singleton, Rotation.angle, htwice, hquarter]
    rfl

end Twisty
