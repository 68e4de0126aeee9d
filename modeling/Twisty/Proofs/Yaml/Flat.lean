import Mathlib.Data.List.TakeWhile
import Twisty.Proofs.Yaml.Word

/-!
# Reading flat documents

A flat document of short keys that are words (`Line.WellFormed`) reads as the mapping of its keys to
its values, each resolved as a plain scalar, if the keys differ (`read_renderLines`). Comments are
passed over.

The value of a line ends at the next line, because that stands in a column which belongs to the
mapping and not to the value (`Input.exists_block?_value`). So a line is one entry
(`Input.exists_entries?_line`), behind which the comments are skipped
(`exists_skipFrom_renderLines`), and the lines are read one after the other
(`Input.exists_entries?_renderLines`). Every line passes on two units of fuel less than it was given
and is longer than that, so that the fuel for the text is enough.
-/

namespace Twisty.Yaml

/-! ### Lines -/

/-- A line that is a comment, or that sets a short key to a value. Only nothing is no key. -/
inductive Line.WellFormed : Line → Prop
  | comment {text : List Char} (h : ∀ c ∈ text, isCommentChar c = true) : WellFormed (.comment text)
  | entry {key value : List Char} (hkey : IsWord key) (hshort : key.length ≤ keyLimit)
      (hnull : Scalar.ofPlain key ≠ .null) (hvalue : IsWord value) : WellFormed (.entry key value)

/-- An entry as it is read: both of its texts resolved. -/
def resolveEntry (e : List Char × List Char) : Scalar × Node :=
  (.ofPlain e.1, .scalar (.ofPlain e.2))

/-- The lines from the first one on that is no comment. -/
def afterComments (lines : List Line) : List Line :=
  lines.dropWhile fun l => l.entry?.isNone

section Lines

variable {lines : List Line} (hlines : ∀ l ∈ lines, l.WellFormed)

include hlines

/-- A line has no blanks in front. -/
theorem atGap_renderLines : atGap (renderLines lines) = false ∨ renderLines lines = [] := by
  cases lines with
  | nil => exact .inr rfl
  | cons l lines =>
    left
    cases hlines l List.mem_cons_self with
    | comment => rfl
    | entry hkey _ _ _ =>
      obtain ⟨c, key, rfl⟩ := List.exists_cons_of_ne_nil hkey.ne_nil
      have hc := hkey.chars c List.mem_cons_self
      have hbreak : c ≠ '\n' := ne_of_isWordChar hc (by decide)
      simp [renderLines_entry, atGap, isWhite_of_isWordChar hc, hbreak]

/-- Comments are passed over. -/
theorem exists_skipFrom_renderLines (floor line : ℕ) :
    ∃ line', skipFrom floor .blanks (renderLines lines) ⟨line, 0, .indentation⟩ =
      some (renderLines (afterComments lines), ⟨line', 0, .indentation⟩) := by
  induction lines generalizing line with
  | nil => exact ⟨line, rfl⟩
  | cons l lines ih =>
    cases hlines l List.mem_cons_self with
    | comment htext =>
      obtain ⟨line', hline'⟩ := ih (fun l' hl' => hlines l' (List.mem_cons_of_mem _ hl')) (line + 1)
      refine ⟨line', ?_⟩
      rw [renderLines_comment]
      exact (skipFrom_comment htext).trans hline'
    | entry hkey _ _ _ =>
      obtain ⟨c, key, rfl⟩ := List.exists_cons_of_ne_nil hkey.ne_nil
      exact ⟨line, skipFrom_of_isWordChar (hkey.chars c List.mem_cons_self)⟩

end Lines


namespace Input

/-- The value of a line is a scalar in block context, after which the next line with an entry
stands.
-/
theorem exists_block?_value {i : Input} {value : List Char} (hvalue : IsWord value)
    {lines : List Line} (hlines : ∀ l ∈ lines, l.WellFormed)
    (hrest : i.rest = value ++ '\n' :: renderLines lines) (hcolumn : 0 < i.column) (fuel : ℕ) :
    ∃ line, block? (fuel + 3) ⟨1, 0, true⟩ i = some (.scalar (.ofPlain value),
      i.moved (renderLines (afterComments lines)) ⟨line, 0, .indentation⟩) := by
  have hword : i.AtWord := atWord_of_rest_eq hvalue hrest
  obtain ⟨line, hskip⟩ := exists_skipFrom_renderLines hlines 1 (i.line + 1)
  have hnext : (i.moved (renderLines lines) ⟨i.line + 1, 0, .indentation⟩).skip 1 =
      some (i.moved (renderLines (afterComments lines)) ⟨line, 0, .indentation⟩) := by
    show (skipFrom 1 .blanks (renderLines lines) ⟨i.line + 1, 0, .indentation⟩).map _ = _
    rw [hskip]
    rfl
  refine ⟨line, ?_⟩
  rw [block?_of_atWord hword ⟨1, 0, true⟩ hcolumn, content?_of_atWord hword,
    atom?_value hvalue hrest (atGap_renderLines hlines) fuel (by decide)]
  simp [hnext, Atom.resolve, Properties.resolve, Properties.empty]

/-- The value of a line stands behind the colon and a blank. -/
theorem value?_line {i : Input} {value rest : List Char} (hvalue : IsWord value)
    (hrest : i.rest = ':' :: ' ' :: (value ++ rest)) :
    i.value? 1 = some (i.moved (value ++ rest) ⟨i.line, i.column + 2, .blank⟩) := by
  obtain ⟨hne, hchars⟩ := hvalue
  obtain ⟨c, r, rfl⟩ := List.exists_cons_of_ne_nil hne
  have hc : isWordChar c = true := hchars c List.mem_cons_self
  have hgap : ((i.rest.drop 1).takeWhile isWhite).head? ≠ some '\t' := by
    simp [hrest, isWhite]
  have hcolon : i.place.step ':' = ⟨i.line, i.column + 1, .text⟩ := by
    simp [Place.step, isWhite, line, column]
  have hblank : Place.step ⟨i.line, i.column + 1, .text⟩ ' ' = ⟨i.line, i.column + 2, .blank⟩ := by
    simp [Place.step, isWhite]
  have hskip : skipFrom 1 .blanks (' ' :: (c :: r ++ rest)) ⟨i.line, i.column + 1, .text⟩ =
      some (c :: r ++ rest, ⟨i.line, i.column + 2, .blank⟩) := by
    rw [skipFrom, hblank]
    exact skipFrom_of_isWordChar hc
  have hdrop : i.drop 1 = i.moved (' ' :: (c :: r ++ rest)) ⟨i.line, i.column + 1, .text⟩ := by
    rw [drop, hrest, ← hcolon]
    rfl
  simp only [value?]
  rw [if_neg fun h => hgap h.1, hdrop, skip]
  change (skipFrom 1 .blanks (' ' :: (c :: r ++ rest)) ⟨i.line, i.column + 1, .text⟩).map _ = _
  rw [hskip]
  rfl

/-- From its colon on, a line gives one entry, if its key is new. -/
theorem exists_pair?_line {i : Input} {key : Scalar} {value : List Char}
    {entries : List (Scalar × Node)} (hkey : key ≠ .null) (hnew : key ∉ entries.map Prod.fst)
    (hvalue : IsWord value) {lines : List Line} (hlines : ∀ l ∈ lines, l.WellFormed)
    (hrest : i.rest = ':' :: ' ' :: (value ++ '\n' :: renderLines lines)) (hcolumn : 0 < i.column)
    (fuel : ℕ) :
    ∃ line, pair? (fuel + 4) 0 entries (.scalar key) i =
      entries? (fuel + 3) 0 ((key, .scalar (.ofPlain value)) :: entries)
        (i.moved (renderLines (afterComments lines)) ⟨line, 0, .indentation⟩) := by
  have hkey? : (Node.scalar key).key? = some key := by
    cases key with
    | null => exact absurd rfl hkey
    | flag | integer | decimal | nonfinite | text => rfl
  have hold : entries.any (·.1 = key) = false := by
    rw [List.any_eq_false]
    intro e he hkey
    exact hnew (List.mem_map.2 ⟨e, he, by simpa using hkey⟩)
  -- The value stands behind the key on the same line, where no mapping may begin.
  obtain ⟨line, hnode⟩ := exists_block?_value
    (i := i.moved (value ++ '\n' :: renderLines lines) ⟨i.line, i.column + 2, .blank⟩)
    hvalue hlines rfl (Nat.succ_pos _) fuel
  have hne : i.column ≠ 0 := Nat.pos_iff_ne_zero.1 hcolumn
  refine ⟨line, ?_⟩
  rw [pair?, hkey?, value?_line hvalue hrest]
  simp [hold, hne, hnode]

/-- A line is one entry of the mapping whose keys stand at the start of a line. -/
theorem exists_entries?_line {i : Input} {key value : List Char} {entries : List (Scalar × Node)}
    (hkey : IsWord key) (hshort : key.length ≤ keyLimit) (hnull : Scalar.ofPlain key ≠ .null)
    (hnew : Scalar.ofPlain key ∉ entries.map Prod.fst) (hvalue : IsWord value)
    {lines : List Line} (hlines : ∀ l ∈ lines, l.WellFormed)
    (hrest : i.rest = key ++ ':' :: ' ' :: (value ++ '\n' :: renderLines lines))
    (hcolumn : i.column = 0) (fuel : ℕ) :
    ∃ line, entries? (fuel + 5) 0 entries i =
      entries? (fuel + 3) 0 (resolveEntry (key, value) :: entries)
        (i.moved (renderLines (afterComments lines)) ⟨line, 0, .indentation⟩) := by
  have hword : i.AtWord := atWord_of_rest_eq hkey hrest
  obtain ⟨j, hatom, hskip, hatColon, hcolon, hline, hkeyColumn, hmoved⟩ :=
    exists_atom?_key hkey hrest (fuel + 3) 1
  rw [hcolumn, Nat.zero_add] at hkeyColumn
  have hlength : 0 < j.column := by
    rw [hkeyColumn]
    exact List.length_pos_iff.2 hkey.ne_nil
  obtain ⟨line, hpair⟩ := exists_pair?_line hnull hnew hvalue hlines hcolon hlength fuel
  rw [hmoved] at hpair
  refine ⟨line, ?_⟩
  rw [entries?]
  simp [hcolumn, atEnd_of_atWord hword, atIndicator_of_atWord hword (d := '?') (by decide),
    properties?_of_atWord hword, hatom, hskip, hline, hatColon, hkeyColumn, hshort]
  exact hpair

/-- The lines of a flat document are read as entries, each behind those before it. -/
theorem exists_entries?_renderLines {lines : List Line} (hlines : ∀ l ∈ lines, l.WellFormed)
    (hnodup : ((lineEntries lines).map fun e => Scalar.ofPlain e.1).Nodup)
    {entries : List (Scalar × Node)}
    (hnew : ∀ e ∈ lineEntries lines, Scalar.ofPlain e.1 ∉ entries.map Prod.fst) {i : Input}
    (hrest : i.rest = renderLines (afterComments lines)) (hcolumn : i.column = 0) {fuel : ℕ}
    (hfuel : 2 * lines.length + 3 ≤ fuel) :
    ∃ j, entries? fuel 0 entries i =
        some (entries.reverse ++ (lineEntries lines).map resolveEntry, j) ∧ j.rest = [] := by
  induction lines generalizing i entries fuel with
  | nil =>
    obtain ⟨fuel, rfl⟩ := Nat.exists_eq_add_of_le' (Nat.one_le_of_lt hfuel)
    have hempty : i.rest = [] := hrest
    exact ⟨i, by simp [entries?, atEnd, hempty, lineEntries], hempty⟩
  | cons l lines ih =>
    rw [List.length_cons] at hfuel
    obtain ⟨hl, hothers⟩ := List.forall_mem_cons.1 hlines
    cases hl with
    | comment htext => exact ih hothers hnodup hnew hrest hcolumn (by omega)
    | @entry key value hkey hshort hnull hvalue =>
      obtain ⟨fuel, rfl⟩ : ∃ f, fuel = f + 5 := ⟨fuel - 5, by omega⟩
      rw [lineEntries_entry] at hnodup hnew ⊢
      obtain ⟨hnewKey, hnew⟩ := List.forall_mem_cons.1 hnew
      rw [List.map_cons, List.nodup_cons] at hnodup
      obtain ⟨line, hline⟩ := exists_entries?_line hkey hshort hnull hnewKey hvalue hothers
        (hrest.trans (renderLines_entry key value lines)) hcolumn fuel
      -- The key that was read is not among those that follow.
      have hfresh : ∀ e ∈ lineEntries lines,
          Scalar.ofPlain e.1 ∉ (resolveEntry (key, value) :: entries).map Prod.fst := by
        intro e he
        rw [List.map_cons, List.mem_cons, not_or]
        exact ⟨fun heq => hnodup.1 (List.mem_map.2 ⟨e, he, heq⟩), hnew e he⟩
      have hfuel' : 2 * lines.length + 3 ≤ fuel + 3 := by omega
      obtain ⟨j, hj, hend⟩ :=
        ih (i := i.moved (renderLines (afterComments lines)) ⟨line, 0, .indentation⟩)
          hothers hnodup.2 hfresh rfl rfl hfuel'
      refine ⟨j, ?_, hend⟩
      rw [hline]
      simpa using hj

/-- The root of a flat document that begins with an entry is the mapping of its entries. -/
theorem exists_block?_renderLines {key value : List Char} {lines : List Line}
    (hlines : ∀ l ∈ .entry key value :: lines, l.WellFormed)
    (hnodup : ((lineEntries (.entry key value :: lines)).map fun e => Scalar.ofPlain e.1).Nodup)
    {i : Input} (hrest : i.rest = renderLines (.entry key value :: lines)) (hcolumn : i.column = 0)
    {fuel : ℕ} (hfuel : 2 * lines.length + 6 ≤ fuel) :
    ∃ j, block? fuel ⟨0, 0, false⟩ i =
        some (.mapping ((lineEntries (.entry key value :: lines)).map resolveEntry), j) ∧
      j.rest = [] := by
  obtain ⟨fuel, rfl⟩ : ∃ f, fuel = f + 6 := ⟨fuel - 6, by omega⟩
  obtain ⟨hl, hothers⟩ := List.forall_mem_cons.1 hlines
  cases hl with
  | entry hkey hshort hnull hvalue =>
    rw [lineEntries_entry, List.map_cons, List.nodup_cons] at hnodup
    rw [renderLines_entry] at hrest
    have hword : i.AtWord := atWord_of_rest_eq hkey hrest
    -- The first key is read before it is known to be one. It is the colon that makes it a key.
    obtain ⟨j, hatom, hskip, hatColon, hcolon, hline, hkeyColumn, -⟩ :=
      exists_atom?_key hkey hrest (fuel + 3) 0
    rw [hcolumn, Nat.zero_add] at hkeyColumn
    have hlength : 0 < j.column := by
      rw [hkeyColumn]
      exact List.length_pos_iff.2 hkey.ne_nil
    have hnone : Scalar.ofPlain key ∉ ([] : List (Scalar × Node)).map Prod.fst := List.not_mem_nil
    obtain ⟨line, hpair⟩ := exists_pair?_line hnull hnone hvalue hothers hcolon hlength fuel
    have hfresh : ∀ e ∈ lineEntries lines,
        Scalar.ofPlain e.1 ∉ [resolveEntry (key, value)].map Prod.fst := by
      intro e he hmem
      refine hnodup.1 (List.mem_map.2 ⟨e, he, ?_⟩)
      simpa [resolveEntry] using hmem
    have hfuel' : 2 * lines.length + 3 ≤ fuel + 3 := by omega
    obtain ⟨k, hk, hend⟩ := exists_entries?_renderLines
      (i := j.moved (renderLines (afterComments lines)) ⟨line, 0, .indentation⟩) hothers hnodup.2
      hfresh rfl rfl hfuel'
    have hentries : pair? (fuel + 4) 0 [] ((Atom.plain key).resolve .empty) j =
        some (((key, value) :: lineEntries lines).map resolveEntry, k) := hpair.trans hk
    refine ⟨k, ?_, hend⟩
    rw [lineEntries_entry, block?_of_atWord hword ⟨0, 0, false⟩ (Nat.zero_le _),
      content?_of_atWord hword, hatom]
    simp [hcolumn, hskip, hline, hatColon, hkeyColumn, hshort, hentries]

end Input

/-! ### Reading a document -/

/-- A word is not written like an infinity or like what is not a number, which have a point. -/
theorem isNonfinite_of_isWord {w : List Char} (h : IsWord w) : Scalar.isNonfinite w = false := by
  have hnot : ∀ c ∈ ['.', '+', '-'], c ∉ w := by
    intro c hc hw
    have hchar := h.chars c hw
    simp only [List.mem_cons, List.not_mem_nil, or_false] at hc
    rcases hc with rfl | rfl | rfl <;> simp [isWordChar] at hchar
  have hsign : (Decimal.sign w).2 = w := by
    unfold Decimal.sign
    split
    · exact absurd List.mem_cons_self (hnot '-' (by decide))
    · exact absurd List.mem_cons_self (hnot '+' (by decide))
    · rfl
  have hpoint : ∀ s ∈ [".inf", ".Inf", ".INF", ".nan", ".NaN", ".NAN"].map String.toList,
      w ≠ s := by
    rintro s hs rfl
    have hmem : '.' ∈ w := by
      simp only [List.map_cons, List.map_nil, List.mem_cons, List.not_mem_nil, or_false] at hs
      rcases hs with rfl | rfl | rfl | rfl | rfl | rfl <;> decide
    exact hnot '.' (by decide) hmem
  rw [Scalar.isNonfinite, hsign]
  simpa [and_assoc] using hpoint

/-- The value of a word is finite. -/
theorem isFinite_ofPlain {w : List Char} (h : IsWord w) :
    (Node.scalar (.ofPlain w)).isFinite = true := by
  unfold Scalar.ofPlain
  split
  · rfl
  split
  · rfl
  split
  · rfl
  split
  · rfl
  rw [isNonfinite_of_isWord h, if_neg Bool.false_ne_true]
  split
  · rfl
  · rfl

/-- The entries of a flat document have finite values. -/
theorem entriesFinite_map_resolveEntry {lines : List Line} (h : ∀ l ∈ lines, l.WellFormed) :
    Node.entriesFinite ((lineEntries lines).map resolveEntry) = true := by
  induction lines with
  | nil => rfl
  | cons l lines ih =>
    obtain ⟨hl, hothers⟩ := List.forall_mem_cons.1 h
    cases hl with
    | comment => exact ih hothers
    | @entry key value _ _ _ hvalue =>
      rw [lineEntries_entry, List.map_cons, resolveEntry, Node.entriesFinite,
        isFinite_ofPlain hvalue, ih hothers]
      rfl

/-- A text without a byte order mark, NUL and carriage returns is read as it is. -/
theorem prepare_eq_self {s : List Char} (h : ∀ c ∈ s, c ∉ ['\ufeff', '\x00', '\x0d']) :
    prepare s = s := by
  have hbreaks : prepare.breaks s = s := by
    induction s with
    | nil => rfl
    | cons c s ih =>
      obtain ⟨hc, hs⟩ := List.forall_mem_cons.1 h
      have hreturn : c ≠ '\x0d' := fun e => hc (by simp [e])
      simp [prepare.breaks, hreturn, ih hs]
  have hwhole : s.takeWhile (· ≠ '\x00') = s := by
    rw [List.takeWhile_eq_self_iff]
    intro c hc
    have hnul : c ≠ '\x00' := fun e => h c hc (by simp [e])
    simpa using hnul
  unfold prepare
  split
  · exact absurd List.mem_cons_self (h _ List.mem_cons_self)
  · simp only
    rw [hwhole, hbreaks]

/-- A flat document consists of the characters of words and comments, and of line ends. -/
theorem mem_renderLines {lines : List Line} (h : ∀ l ∈ lines, l.WellFormed) {c : Char}
    (hc : c ∈ renderLines lines) : isWordChar c = true ∨ isCommentChar c = true ∨ c = '\n' := by
  obtain ⟨l, hl, hc⟩ := List.mem_flatMap.1 hc
  cases h l hl with
  | comment htext =>
    simp only [Line.render, List.cons_append, List.mem_append, List.mem_cons, List.not_mem_nil,
      or_false] at hc
    rcases hc with rfl | hc | hc
    · exact .inr (.inl (by decide))
    · exact .inr (.inl (htext c hc))
    · exact .inr (.inr hc)
  | entry hkey _ _ hvalue =>
    simp only [Line.render, List.mem_append, List.mem_cons, List.not_mem_nil, or_false] at hc
    rcases hc with (hc | rfl | rfl | hc) | hc
    · exact .inl (hkey.chars c hc)
    · exact .inr (.inl (by decide))
    · exact .inr (.inl (by decide))
    · exact .inl (hvalue.chars c hc)
    · exact .inr (.inr hc)

/-- So it is read as it is. -/
theorem prepare_renderLines {lines : List Line} (h : ∀ l ∈ lines, l.WellFormed) :
    prepare (renderLines lines) = renderLines lines := by
  refine prepare_eq_self fun c hc hbad => ?_
  simp only [List.mem_cons, List.not_mem_nil, or_false] at hbad
  rcases mem_renderLines h hc with hword | hcomment | rfl
  · rcases hbad with rfl | rfl | rfl <;> simp [isWordChar] at hword
  · rcases hbad with rfl | rfl | rfl <;> simp [isCommentChar] at hcomment
  · simp at hbad

/-- A flat document has at least as many characters as lines. -/
theorem length_le_length_renderLines (lines : List Line) :
    lines.length ≤ (renderLines lines).length := by
  induction lines with
  | nil => exact Nat.le_refl 0
  | cons l lines ih =>
    have hline : 1 ≤ l.render.length := by
      cases l with
      | comment text => simp [Line.render]
      | entry key value =>
        simp only [Line.render, List.length_append, List.length_cons]
        omega
    rw [renderLines, List.flatMap_cons, List.length_append, List.length_cons]
    show _ ≤ _ + (renderLines lines).length
    omega

/-- The comments in front of a flat document set nothing. -/
theorem lineEntries_afterComments (lines : List Line) :
    lineEntries (afterComments lines) = lineEntries lines := by
  induction lines with
  | nil => rfl
  | cons l lines ih =>
    cases l with
    | comment text => exact ih
    | entry key value => rfl

/-- Behind them comes an entry, or nothing. -/
theorem afterComments_eq (lines : List Line) : afterComments lines = [] ∨
    ∃ key value others, afterComments lines = .entry key value :: others := by
  induction lines with
  | nil => exact .inl rfl
  | cons l lines ih =>
    cases l with
    | comment text => exact ih
    | entry key value => exact .inr ⟨key, value, lines, rfl⟩

/-- There is no mark at the end of a document where no point stands. -/
theorem Input.skipEnds_eq_some {i : Input} (h : i.at? '.' = false) (fuel : ℕ) :
    i.skipEnds fuel = some i := by
  cases fuel with
  | zero => rfl
  | succ fuel => simp [skipEnds, h]

/-- There are no directives where no percent sign stands. -/
theorem Input.directives?_eq_some {i : Input} (h : i.at? '%' = false) (fuel : ℕ)
    (version any : Bool) : i.directives? fuel version any = some (any, i) := by
  cases fuel with
  | zero => rfl
  | succ fuel => simp [directives?, h]

/-- The root of a flat document is found where its first entry begins. -/
theorem Input.root?_eq_mapping {i : Input} {key value : List Char} {lines : List Line}
    (hlines : ∀ l ∈ .entry key value :: lines, l.WellFormed)
    (hnodup : ((lineEntries (.entry key value :: lines)).map fun e => Scalar.ofPlain e.1).Nodup)
    (hrest : i.rest = renderLines (.entry key value :: lines)) (hcolumn : i.column = 0)
    (hword : i.AtWord) :
    i.root? = some (.mapping ((lineEntries (.entry key value :: lines)).map resolveEntry)) := by
  have hfuel : 2 * lines.length + 6 ≤ i.fuel := by
    have hlength := length_le_length_renderLines (.entry key value :: lines)
    rw [List.length_cons, ← hrest] at hlength
    unfold Input.fuel
    omega
  obtain ⟨j, hblock, hend⟩ := exists_block?_renderLines hlines hnodup hrest hcolumn hfuel
  have hdirectives : i.directives? i.fuel false false = some (false, i) :=
    directives?_eq_some (at?_of_atWord hword (by decide)) ..
  have hends : j.skipEnds i.fuel = some j := skipEnds_eq_some (by simp [at?, hend]) _
  rw [root?, hdirectives]
  simp [at?_of_atWord hword (d := '-') (by decide), hblock, hends, hend]

/-- A flat document reads as the mapping of its entries, if no key is there twice. -/
theorem read_renderLines {lines : List Line} (hlines : ∀ l ∈ lines, l.WellFormed)
    (hnodup : ((lineEntries lines).map fun e => Scalar.ofPlain e.1).Nodup) :
    read (renderLines lines) = some ((lineEntries lines).map resolveEntry) := by
  obtain ⟨line, hskip⟩ := exists_skipFrom_renderLines hlines 0 0
  obtain ⟨i, hi⟩ : ∃ i, i = (Input.start (renderLines lines)).moved
      (renderLines (afterComments lines)) ⟨line, 0, .indentation⟩ := ⟨_, rfl⟩
  have hstart : (Input.start (renderLines lines)).skip 0 = some i := by
    show (skipFrom 0 .blanks (renderLines lines) ⟨0, 0, .indentation⟩).map _ = _
    rw [hskip, hi]
    rfl
  have hrest : i.rest = renderLines (afterComments lines) := by rw [hi]; rfl
  have hcolumn : i.column = 0 := by rw [hi]; rfl
  rw [read, prepare_renderLines hlines]
  simp only [hstart, Option.bind_eq_bind, Option.bind_some]
  rcases afterComments_eq lines with hnone | ⟨key, value, others, hentry⟩
  · rw [hnone] at hrest
    have hempty : lineEntries lines = [] := by
      rw [← lineEntries_afterComments, hnone]
      rfl
    have hends : i.skipEnds i.fuel = some i :=
      Input.skipEnds_eq_some (by rw [Input.at?, hrest]; rfl) _
    rw [hends, hempty, Option.bind_some, hrest]
    rfl
  · have hafter : ∀ l ∈ .entry key value :: others, l.WellFormed := fun l hl =>
      hlines l ((List.dropWhile_sublist _).subset (hentry ▸ hl))
    have hentries : lineEntries (.entry key value :: others) = lineEntries lines := by
      rw [← hentry, lineEntries_afterComments]
    rw [hentry] at hrest
    have hword : i.AtWord := by
      cases hafter _ List.mem_cons_self with
      | entry hkey _ _ _ =>
        exact Input.atWord_of_rest_eq hkey (hrest.trans (renderLines_entry key value others))
    have hroot := Input.root?_eq_mapping hafter (hentries ▸ hnodup) hrest hcolumn hword
    have hne : i.rest ≠ [] := by
      obtain ⟨c, r, hcons, -⟩ := hword
      rw [hcons]
      exact List.cons_ne_nil c r
    have hends : i.skipEnds i.fuel = some i :=
      Input.skipEnds_eq_some (Input.at?_of_atWord hword (by decide)) _
    rw [hentries] at hroot
    simp [hends, hne, hroot, entriesFinite_map_resolveEntry hlines]

end Twisty.Yaml
