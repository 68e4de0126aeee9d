import Twisty.Preferences.Yaml
import Twisty.Proofs.Preferences.Library
import Twisty.Proofs.Yaml.Flat

/-!
# Documents in YAML keep the laws

The readers of this library do what is asked of libraries (`Library.yaml_laws`). A flat document
reads as the mapping of its keys to its values (`read_renderLines`), in which numbers and truth
values resolve to themselves and the keys of preferences to texts. Of all entries the last one for a
key wins, so that a later source wins over an earlier one (`Source.setting?_append`). Nothing is
merged: a key that is set below is a collection, whatever stands there.
-/

namespace Twisty

open Text Yaml Preferences

/-! ### Scalars -/

/-- A written number resolves to itself, as far as whole numbers go. -/
theorem ofPlain_decimal {n : ℕ} (h : Scalar.int64? n = some (n : ℤ)) :
    Scalar.ofPlain (decimal n) = .integer n := by
  have hnot : ∀ c, c.isDigit = false → c ∉ decimal n := by
    intro c hc hmem
    rw [isDigit_of_mem_decimal hmem] at hc
    cases hc
  have hsigned : signed? (decimal n) = some (n : ℤ) := by
    unfold signed?
    split
    · next heq => exact absurd (by rw [heq]; exact List.mem_cons_self) (hnot '-' (by decide))
    · rw [unsigned?_decimal]
      rfl
  have hinteger : Scalar.integer? (decimal n) = some (n : ℤ) := by
    -- Neither the prefix of another base nor a sign stands in front of the digits.
    unfold Scalar.integer?
    split
    · next heq => exact absurd (by simp [heq]) (hnot 'x' (by decide))
    · next heq => exact absurd (by simp [heq]) (hnot 'o' (by decide))
    · next heq => exact absurd (by simp [heq]) (hnot '+' (by decide))
    · rw [hsigned]
      exact h
  -- The words that mean nothing or a truth value are not digits only.
  have hnone : ∀ ss : List (List Char), (ss.all fun s => !isDigits s) = true →
      decimal n ∉ ss := by
    intro ss hss hmem
    have hdigits := List.all_eq_true.1 hss _ hmem
    rw [isDigits_decimal] at hdigits
    cases hdigits
  rw [Scalar.ofPlain, if_neg (hnone _ (by decide)), if_neg (hnone _ (by decide)),
    if_neg (hnone _ (by decide)), hinteger]

/-- A written word of 16 bits resolves to its number. -/
theorem ofPlain_decimal_toNat (w : UInt16) :
    Scalar.ofPlain (decimal w.toNat) = .integer w.toNat := by
  refine ofPlain_decimal (if_pos ?_)
  have hlt := w.toNat_lt
  have hmin : Int64.minValue.toInt ≤ 0 := by decide
  have hmax : 65536 ≤ Int64.maxValue.toInt := by decide
  omega

/-- A word of 16 bits converts to itself. -/
theorem Setting.toWord?_integer (w : UInt16) : toWord? (.scalar (.integer w.toNat)) = some w := by
  have hlt : (w.toNat : ℤ) < UInt16.size := by
    exact_mod_cast w.toNat_lt
  rw [toWord?, word?, if_pos ⟨Int.natCast_nonneg _, hlt⟩]
  simp

/-- The keys of preferences resolve to texts. -/
theorem ofPlain_of_mem_keys {key : List Char} (h : key ∈ keys) :
    Scalar.ofPlain key = .text key := by
  have hkeys : ∀ key ∈ keys, Scalar.ofPlain key = .text key := by decide
  exact hkeys key h

/-! ### Paths -/

namespace Key

/-- What begins neither with a point nor with a bracket continues no path. -/
theorem isPathRest_eq_false {rest : List Char} (hne : rest ≠ []) (hpoint : '.' ∉ rest)
    (hbracket : '[' ∉ rest) (fuel : ℕ) : isPathRest fuel rest = false := by
  unfold isPathRest
  split
  · exact absurd rfl hne
  · rfl
  · exact absurd List.mem_cons_self hpoint
  · exact absurd List.mem_cons_self hbracket
  · rfl

/-- A key without points and brackets is no path. -/
theorem isPath_eq_false {key : List Char} (hpoint : '.' ∉ key) (hbracket : '[' ∉ key) :
    isPath key = false := by
  have hsub : key.dropWhile isNameChar ⊆ key := (List.dropWhile_sublist _).subset
  by_cases hrest : key.dropWhile isNameChar = []
  · simp [isPath, hrest]
  · simp [isPath, isPathRest_eq_false hrest (fun h => hpoint (hsub h)) fun h => hbracket (hsub h)]

/-- So it is its own root. -/
theorem root_eq_self {key : List Char} (hpoint : '.' ∉ key) (hbracket : '[' ∉ key) :
    root key = key := by
  rw [root, isPath_eq_false hpoint hbracket]
  rfl

end Key

/-! ### Sources -/

namespace Source

/-- Entries for keys that differ are kept as they are, behind those for other keys. -/
theorem foldl_insert {source entries : Source Setting}
    (hnodup : ((source ++ entries).map Prod.fst).Nodup) :
    entries.foldl insert source = source ++ entries := by
  induction entries generalizing source with
  | nil => rw [List.foldl_nil, List.append_nil]
  | cons e entries ih =>
    have hnew : source.any (·.1 = e.1) = false := by
      rw [List.map_append, List.map_cons, List.nodup_middle, List.nodup_cons] at hnodup
      rw [List.any_eq_false]
      intro e' he' heq
      have hmem : e'.1 ∈ source.map Prod.fst := List.mem_map_of_mem he'
      rw [of_decide_eq_true heq] at hmem
      exact hnodup.1 (List.mem_append_left _ hmem)
    have hinsert : insert source e = source ++ [e] := by
      simp [insert, hnew]
    rw [List.foldl_cons, hinsert, ih (by rw [List.append_assoc]; exact hnodup), List.append_assoc]
    rfl

/-- A source is made of entries for keys that differ. -/
theorem ofList_eq_self {entries : Source Setting} (hnodup : (entries.map Prod.fst).Nodup) :
    ofList entries = entries :=
  foldl_insert hnodup

/-- A variable whose name begins differently is not meant. -/
theorem ofBinding?_eq_none {stem : List Char} {b : List Char × List Char}
    (h : ¬ prefixOf stem <+: b.1.map Char.toLower) : ofBinding? stem b = none := by
  have hprefix : (prefixOf stem).isPrefixOf (b.1.map Char.toLower) = false := by
    rw [Bool.eq_false_iff, Ne, List.isPrefixOf_iff_prefix]
    exact h
  simp [ofBinding?, hprefix]

/-- What a key is set to by later entries wins over what earlier ones set it to. -/
theorem setting?_append (source later : Source Setting) (key : List Char) :
    setting? (source ++ later) key = (setting? later key).or (setting? source key) := by
  unfold setting?
  rw [List.filter_append, List.getLast?_append]
  cases (later.filter fun e => Key.root e.1 = key).getLast? with
  | none => rfl
  | some e => rfl

/-- Entries for other keys may be left out. -/
theorem setting?_flatten_filter (sources : List (Source Setting)) (key : List Char) :
    setting? (sources.map fun s => s.filter fun e => Key.root e.1 = key).flatten key =
      setting? sources.flatten key := by
  have hfilter : (sources.map fun s => s.filter fun e => Key.root e.1 = key).flatten =
      sources.flatten.filter fun e => Key.root e.1 = key := by
    rw [List.filter_flatten]
  rw [hfilter]
  unfold setting?
  rw [List.filter_filter]
  simp only [Bool.and_self]

end Source

/-! ### Laws -/

/-- An entry of a flat document of preferences, as it is read, sets its key to its scalar. -/
theorem ofPair?_resolveEntry {e : List Char × List Char} (h : e.1 ∈ keys) :
    Source.ofPair? (resolveEntry e) = some (e.1, .scalar (.ofPlain e.2)) := by
  rw [resolveEntry, ofPlain_of_mem_keys h]
  rfl

namespace Library

/-- What the documentation speaks of, in YAML. -/
def yamlTerms : Terms Setting where
  scalar text := .scalar (.ofPlain text)
  IsCollection s := s = .collection
  root := Key.root

/-- A flat document of preferences is read as what its lines set. -/
theorem read?_yaml_renderLines {lines : List Line} (hplain : ∀ l ∈ lines, l.IsPlain)
    (hkeys : ∀ e ∈ lineEntries lines, e.1 ∈ keys)
    (hnodup : ((lineEntries lines).map Prod.fst).Nodup) :
    yaml.read? (renderLines lines) =
      some ((lineEntries lines).map fun e => (e.1, yamlTerms.scalar e.2)) := by
  have hwellFormed : ∀ l ∈ lines, l.WellFormed := by
    intro l hl
    cases hplain l hl with
    | comment htext => exact .comment htext
    | @entry key value hkey hvalue =>
      have hmem : key ∈ keys := hkeys _ (List.mem_filterMap.2 ⟨_, hl, rfl⟩)
      have hshort : ∀ key ∈ keys, key.length ≤ keyLimit := by decide
      refine .entry hkey (hshort key hmem) ?_ hvalue
      rw [ofPlain_of_mem_keys hmem]
      exact nofun
  have hscalars : ((lineEntries lines).map fun e => Scalar.ofPlain e.1).Nodup := by
    have htexts : (lineEntries lines).map (fun e => Scalar.ofPlain e.1) =
        ((lineEntries lines).map Prod.fst).map Scalar.text := by
      rw [List.map_map]
      exact List.map_congr_left fun e he => ofPlain_of_mem_keys (hkeys e he)
    rw [htexts]
    exact hnodup.map fun _ _ h => Scalar.text.inj h
  have hentries : ((lineEntries lines).map resolveEntry).filterMap Source.ofPair? =
      (lineEntries lines).map fun e => (e.1, yamlTerms.scalar e.2) := by
    rw [List.filterMap_map]
    exact List.filterMap_eq_map_iff_forall_eq_some.2 fun e he => ofPair?_resolveEntry (hkeys e he)
  show (read (renderLines lines)).map Source.ofDocument = _
  rw [read_renderLines hwellFormed hscalars, Option.map_some, Source.ofDocument, hentries]
  refine congrArg some (Source.ofList_eq_self ?_)
  rw [List.map_map]
  exact hnodup

/-- Documents in YAML keep the laws. -/
theorem yaml_laws : yaml.Laws yamlTerms where
  find?_of_eq_some h := by
    show List.findSome? _ (_ :: _) = _
    rw [List.findSome?_cons, h]
  exists_of_find?_eq_some h := List.exists_of_findSome?_eq_some h
  write_fields p := rfl
  read?_renderLines := read?_yaml_renderLines
  toWord?_scalar w := by
    show Setting.toWord? (.scalar (.ofPlain (decimal w.toNat))) = _
    rw [ofPlain_decimal_toNat, Setting.toWord?_integer]
  toFlag?_scalar b := by cases b <;> decide
  toWord?_of_isCollection h := by
    cases h
    rfl
  toFlag?_of_isCollection h := by
    cases h
    rfl
  environment_eq_nil := by
    intro environment h
    have hnone : environment.filterMap (Source.ofBinding? environmentStem) = [] :=
      List.filterMap_eq_nil_iff.2 fun b hb => Source.ofBinding?_eq_none (h b hb)
    show Source.ofList _ = _
    rw [hnone]
    rfl
  root_eq_self := Key.root_eq_self
  setting?_filter sources key _ := Source.setting?_flatten_filter sources key
  setting?_singleton := by
    intro key hkey v
    obtain ⟨hpoint, hbracket⟩ := not_mem_of_mem_keys hkey
    simp [yaml, Source.setting?, Source.settingOf, Key.root_eq_self hpoint hbracket,
      Key.isPath_eq_false hpoint hbracket]
  setting?_eq_none := by
    intro sources h key _
    have hempty : sources.flatten = [] := List.flatten_eq_nil_iff.2 h
    show Source.setting? sources.flatten key = none
    rw [hempty]
    rfl
  setting?_append_of_eq_none := by
    intro source key _ h sources
    have hnone : Source.setting? source key = none := by simpa [yaml] using h
    simp [yaml, Source.setting?_append, hnone]
  setting?_append_of_eq_some := by
    intro source key v _ h sources
    have hsome : Source.setting? source key = some v := by simpa [yaml] using h
    exact ⟨v, by simp [yaml, Source.setting?_append, hsome], .inl rfl⟩

end Library

end Twisty
