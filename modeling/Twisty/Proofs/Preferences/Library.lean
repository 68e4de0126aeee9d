import Mathlib.Data.List.Nodup
import Twisty.Preferences.Save

/-!
# What libraries say that they do

`Library.Laws` is what is taken from the documentation of the libraries that preferences are loaded
and saved by: where a file is looked for, how a flat document is written and what it sets, how
scalars and collections convert, which variables of the environment are meant, which entries matter
to a key, and that the last source wins. Nothing is said of what becomes of preferences.

The layers of the preferences are the sources that the program asks for, the highest one first
(`Library.layers`), and `Library.effective?` is what a key is set to by the highest layer that sets
it. The libraries put the sources together before anything is converted. What the conversion of the
result gives is what that of the effective value gives (`Laws.field?_reverse`), so that preferences
are loaded exactly if they are what the layers set (`Laws.load?_eq_some_iff`).
-/

namespace Twisty

open Text Yaml

namespace Preferences

/-- The keys of the preferences that are words of 16 bits. -/
def wordKeys : List (List Char) :=
  [puzzleSizeKey, minPuzzleSizeKey, maxPuzzleSizeKey]

/-- The keys of the preferences. -/
def keys : List (List Char) :=
  wordKeys ++ [strictKey]

/-- The names of the variables of the environment that are meant begin with this, in any case. -/
def environmentPrefix : List Char :=
  "cubeseq_".toList

/-- There is one field for every key. -/
theorem map_fst_fields (p : Preferences) : p.fields.map Prod.fst = keys :=
  rfl

/-- No key of preferences looks like a path. -/
theorem not_mem_of_mem_keys {key : List Char} (h : key ∈ keys) : '.' ∉ key ∧ '[' ∉ key := by
  have hkeys : ∀ key ∈ keys, '.' ∉ key ∧ '[' ∉ key := by decide
  exact hkeys key h

end Preferences

open Preferences

/-- What the documentation of libraries speaks of, for values of some type. -/
structure Library.Terms (Value : Type) where
  /-- The value of a text without quotes in a document. -/
  scalar : List Char → Value
  /-- A value is a sequence or a mapping. -/
  IsCollection : Value → Prop
  /-- The key that an entry for a path sets, or below which it sets something. -/
  root : List Char → List Char

/-- What the documentation of libraries says. -/
structure Library.Laws {Value : Type} (L : Library Value) (T : Library.Terms Value) : Prop where
  /-- A file at the path itself is the one that is meant. -/
  find?_of_eq_some {files : List Char → Option (List Char)} {path text : List Char}
    (h : files path = some text) : L.find? files path = some text
  /-- A file is looked for at the path itself and at the path with an extension. -/
  exists_of_find?_eq_some {files : List Char → Option (List Char)} {path text : List Char}
    (h : L.find? files path = some text) : ∃ p ∈ Path.candidates path, files p = some text
  /-- A record is written in one line for each field. -/
  write_fields (p : Preferences) :
    L.write p.fields = renderLines (p.fields.map fun f => .entry f.1 f.2.text)
  /-- A flat document sets each of its keys to the scalar on the same line, and no two lines may set
  the same key. -/
  read?_renderLines {lines : List Line} (hplain : ∀ l ∈ lines, l.IsPlain)
    (hkeys : ∀ e ∈ lineEntries lines, e.1 ∈ keys)
    (hnodup : ((lineEntries lines).map Prod.fst).Nodup) :
    L.read? (renderLines lines) = some ((lineEntries lines).map fun e => (e.1, T.scalar e.2))
  /-- A word of 16 bits in digits converts to itself. -/
  toWord?_scalar (w : UInt16) : L.toWord? (T.scalar (Field.word w).text) = some w
  /-- A truth value converts to itself. -/
  toFlag?_scalar (b : Bool) : L.toFlag? (T.scalar (Field.flag b).text) = some b
  /-- A collection is no number. -/
  toWord?_of_isCollection {v : Value} (h : T.IsCollection v) : L.toWord? v = none
  /-- A collection is no truth value. -/
  toFlag?_of_isCollection {v : Value} (h : T.IsCollection v) : L.toFlag? v = none
  /-- Variables whose names begin differently are not meant. -/
  environment_eq_nil {environment : List (List Char × List Char)}
    (h : ∀ b ∈ environment, ¬ environmentPrefix <+: b.1.map Char.toLower) :
    L.environment environmentStem environment = []
  /-- A key without points and brackets is no path to anything below another one. -/
  root_eq_self {key : List Char} (hpoint : '.' ∉ key) (hbracket : '[' ∉ key) : T.root key = key
  /-- An entry matters to the first key on its path only. -/
  setting?_filter (sources : List (Source Value)) {key : List Char} (hkey : key ∈ keys) :
    L.setting? (sources.map fun s => s.filter fun e => T.root e.1 = key) key =
      L.setting? sources key
  /-- A key is set to the value of an entry for it. -/
  setting?_singleton {key : List Char} (hkey : key ∈ keys) (v : Value) :
    L.setting? [[(key, v)]] key = some v
  /-- Where no source sets anything, no key is set. -/
  setting?_eq_none {sources : List (Source Value)} (h : ∀ s ∈ sources, s = []) {key : List Char}
    (hkey : key ∈ keys) : L.setting? sources key = none
  /-- A source that does not set a key leaves it to the sources before. -/
  setting?_append_of_eq_none {source : Source Value} {key : List Char} (hkey : key ∈ keys)
    (h : L.setting? [source] key = none) (sources : List (Source Value)) :
    L.setting? (sources ++ [source]) key = L.setting? sources key
  /-- A source that sets a key wins over the sources before. Collections may be merged. -/
  setting?_append_of_eq_some {source : Source Value} {key : List Char} {v : Value}
    (hkey : key ∈ keys) (h : L.setting? [source] key = some v) (sources : List (Source Value)) :
    ∃ v', L.setting? (sources ++ [source]) key = some v' ∧
      (v' = v ∨ T.IsCollection v' ∧ T.IsCollection v)

/-! ### Flat documents of preferences -/

/-- A written number is a word. -/
theorem isWord_decimal (n : ℕ) : IsWord (decimal n) where
  ne_nil := decimal_ne_nil n
  chars c hc := by
    have hdigit := isDigit_of_mem_decimal hc
    simp [isWordChar, Char.isAlphanum, hdigit]

/-- The text of a field is a word. -/
theorem Field.isWord_text (f : Field) : IsWord f.text := by
  cases f with
  | word w => exact isWord_decimal _
  | flag b => cases b <;> decide

/-- The keys of preferences are words. -/
theorem Preferences.isWord_of_mem_keys {key : List Char} (h : key ∈ keys) : IsWord key := by
  have hwords : ∀ key ∈ keys, IsWord key := by decide
  exact hwords key h

namespace Library

variable {Value : Type} {L : Library Value} {T : Terms Value}

/-- The source that sets preferences. -/
def Terms.source (T : Terms Value) (p : Preferences) : Source Value :=
  p.fields.map fun f => (f.1, T.scalar f.2.text)

/-- A flat document with the fields of preferences sets them, whatever the comments are. -/
theorem Laws.read?_of_lineEntries (hL : L.Laws T) {lines : List Line} {p : Preferences}
    (hplain : ∀ l ∈ lines, l.IsPlain)
    (hentries : lineEntries lines = p.fields.map fun f => (f.1, f.2.text)) :
    L.read? (renderLines lines) = some (T.source p) := by
  have hkeys : (lineEntries lines).map Prod.fst = keys := by
    rw [hentries, List.map_map]
    exact p.map_fst_fields
  have hread := hL.read?_renderLines hplain
    (fun e he => hkeys ▸ List.mem_map_of_mem he) (by rw [hkeys]; decide)
  rw [hread, hentries, List.map_map]
  rfl

/-- What is written for preferences is read as the source that sets them. -/
theorem Laws.read?_write (hL : L.Laws T) (p : Preferences) :
    L.read? (L.write p.fields) = some (T.source p) := by
  rw [hL.write_fields]
  refine hL.read?_of_lineEntries (List.forall_mem_map.2 fun f hf => ?_) ?_
  · exact .entry (isWord_of_mem_keys (List.mem_map_of_mem hf)) f.2.isWord_text
  · rw [lineEntries, List.filterMap_map]
    exact List.filterMap_eq_map_iff_forall_eq_some.2 fun f _ => rfl

/-- The file that comes with the program sets the preferences that are built in. -/
theorem Laws.read?_builtInLines (hL : L.Laws T) :
    L.read? (renderLines builtInLines) = some (T.source builtIn) :=
  hL.read?_of_lineEntries (by decide) (by decide)

/-! ### What a source sets -/

theorem Laws.root_eq_self_of_mem (hL : L.Laws T) {key : List Char} (hkey : key ∈ keys) :
    T.root key = key :=
  hL.root_eq_self (not_mem_of_mem_keys hkey).1 (not_mem_of_mem_keys hkey).2

/-- A source of keys of preferences that differ sets each to the value of its entry. -/
theorem Laws.setting?_of_mem (hL : L.Laws T) {source : Source Value}
    (hkeys : ∀ e ∈ source, e.1 ∈ keys) (hnodup : (source.map Prod.fst).Nodup)
    {key : List Char} {v : Value} (h : (key, v) ∈ source) : L.setting? [source] key = some v := by
  have hkey : key ∈ keys := hkeys _ h
  obtain ⟨before, after, rfl⟩ := List.append_of_mem h
  rw [List.map_append, List.map_cons, List.nodup_middle, List.nodup_cons, ← List.map_append]
    at hnodup
  -- No other entry has the key for its root.
  have hothers : ∀ e ∈ before ++ after, T.root e.1 ≠ key := by
    intro e he heq
    have hmem : e ∈ before ++ (key, v) :: after := by
      rw [List.mem_append] at he
      exact List.mem_append.2 (he.imp_right (List.mem_cons_of_mem _))
    rw [hL.root_eq_self_of_mem (hkeys e hmem)] at heq
    exact hnodup.1 (List.mem_map.2 ⟨e, he, heq⟩)
  have hfilter : (before ++ (key, v) :: after).filter (fun e => T.root e.1 = key) = [(key, v)] := by
    have hbefore : before.filter (fun e => T.root e.1 = key) = [] :=
      List.filter_eq_nil_iff.2 fun e he => by simp [hothers e (List.mem_append_left _ he)]
    have hafter : after.filter (fun e => T.root e.1 = key) = [] :=
      List.filter_eq_nil_iff.2 fun e he => by simp [hothers e (List.mem_append_right _ he)]
    have hroot : decide (T.root key = key) = true := decide_eq_true (hL.root_eq_self_of_mem hkey)
    rw [List.filter_append, hbefore, List.filter_cons, if_pos hroot, hafter, List.nil_append]
  rw [← hL.setting?_filter _ hkey, List.map_singleton, hfilter]
  exact hL.setting?_singleton hkey v

/-- The source that sets preferences sets every key to the scalar of its field. -/
theorem Laws.setting?_source (hL : L.Laws T) {p : Preferences} {key : List Char} {f : Field}
    (h : (key, f) ∈ p.fields) : L.setting? [T.source p] key = some (T.scalar f.text) := by
  have hkeys : (T.source p).map Prod.fst = keys := by
    rw [Terms.source, List.map_map]
    exact p.map_fst_fields
  refine hL.setting?_of_mem (fun e he => hkeys ▸ List.mem_map_of_mem he) ?_
    (List.mem_map_of_mem (f := fun f : List Char × Field => (f.1, T.scalar f.2.text)) h)
  rw [hkeys]
  decide

/-! ### Layers -/

/-- What a key is set to by the first layer that sets it, where the highest layer is listed first.
-/
def effective? (L : Library Value) (layers : List (Source Value)) (key : List Char) :
    Option Value :=
  layers.findSome? fun layer => L.setting? [layer] key

/-- Of sources that come lowest first, a key gets a value that converts as the effective one of the
layers does, since what is merged does not convert. -/
theorem Laws.map_setting?_reverse (hL : L.Laws T) {α : Type} {convert : Value → Option α}
    (hconvert : ∀ {v}, T.IsCollection v → convert v = none) {key : List Char} (hkey : key ∈ keys)
    (layers : List (Source Value)) :
    (L.setting? layers.reverse key).map convert = (L.effective? layers key).map convert := by
  induction layers with
  | nil =>
    have hnone : L.setting? [] key = none := hL.setting?_eq_none (by simp) hkey
    rw [List.reverse_nil, hnone]
    rfl
  | cons layer layers ih =>
    rw [List.reverse_cons, effective?, List.findSome?_cons]
    cases h : L.setting? [layer] key with
    | none =>
      rw [hL.setting?_append_of_eq_none hkey h]
      exact ih
    | some v =>
      obtain ⟨v', hv', rfl | ⟨hcollection', hcollection⟩⟩ :=
        hL.setting?_append_of_eq_some hkey h layers.reverse
      · rw [hv']
      · rw [hv', Option.map_some, Option.map_some, hconvert hcollection', hconvert hcollection]

/-- So a preference is its effective value converted, if a layer sets its key. -/
theorem Laws.field?_reverse (hL : L.Laws T) {α : Type} {convert : Value → Option α}
    (hconvert : ∀ {v}, T.IsCollection v → convert v = none) {key : List Char} (hkey : key ∈ keys)
    {layers : List (Source Value)} (hset : (L.effective? layers key).isSome) (value : α) :
    L.field? convert value layers.reverse key = (L.effective? layers key).bind convert := by
  obtain ⟨v, hv⟩ := Option.isSome_iff_exists.1 hset
  have hmap := hL.map_setting?_reverse hconvert hkey layers
  rw [hv, Option.map_some, Option.map_eq_some_iff] at hmap
  obtain ⟨v', hv', hconverts⟩ := hmap
  rw [field?, hv', hv, Option.bind_some]
  exact hconverts

/-- The layers of the preferences, the highest one first. -/
def layers (L : Library Value) (T : Terms Value) (user : List (Source Value))
    (environment : List (List Char × List Char)) : List (Source Value) :=
  L.environment environmentStem environment :: user.reverse ++ [T.source builtIn]

/-- Every preference is what its key is set to by the highest layer that sets it. -/
structure SetBy (L : Library Value) (layers : List (Source Value)) (p : Preferences) : Prop where
  puzzleSize : (L.effective? layers puzzleSizeKey).bind L.toWord? = some p.puzzleSize
  minPuzzleSize : (L.effective? layers minPuzzleSizeKey).bind L.toWord? = some p.minPuzzleSize
  maxPuzzleSize : (L.effective? layers maxPuzzleSizeKey).bind L.toWord? = some p.maxPuzzleSize
  strict : (L.effective? layers strictKey).bind L.toFlag? = some p.strict

variable {files : List Char → Option (List Char)} {path : Option (List Char)}
  {user : List (Source Value)} {environment : List (List Char × List Char)} {p : Preferences}

/-- Some layer sets every key, as the lowest one does. -/
theorem Laws.isSome_effective?_layers (hL : L.Laws T) {key : List Char} (hkey : key ∈ keys) :
    (L.effective? (L.layers T user environment) key).isSome := by
  rw [← builtIn.map_fst_fields] at hkey
  obtain ⟨⟨_, f⟩, hf, rfl⟩ := List.mem_map.1 hkey
  refine List.findSome?_isSome_iff.2 ⟨T.source builtIn, ?_, ?_⟩
  · exact List.mem_append_right _ List.mem_cons_self
  · rw [hL.setting?_source hf]
    rfl

/-- The preferences of an acceptable file and an environment, each from the highest layer that sets
its key. -/
theorem Laws.load?_eq (hL : L.Laws T) (huser : L.userSources? files path = some user) :
    L.load? files path environment = (do
      let l := L.layers T user environment
      let puzzleSize ← (L.effective? l puzzleSizeKey).bind L.toWord?
      let minPuzzleSize ← (L.effective? l minPuzzleSizeKey).bind L.toWord?
      let maxPuzzleSize ← (L.effective? l maxPuzzleSizeKey).bind L.toWord?
      let strict ← (L.effective? l strictKey).bind L.toFlag?
      return ⟨puzzleSize, minPuzzleSize, maxPuzzleSize, strict⟩) := by
  have hsources : L.sources? files path environment =
      some (L.layers T user environment).reverse := by
    rw [sources?, hL.read?_builtInLines, huser]
    simp [layers]
  have hword : ∀ key ∈ wordKeys, ∀ value, L.field? L.toWord? value
      (L.layers T user environment).reverse key =
        (L.effective? (L.layers T user environment) key).bind L.toWord? := by
    intro key hkey
    have hkey' : key ∈ keys := List.mem_append_left _ hkey
    exact hL.field?_reverse hL.toWord?_of_isCollection hkey' (hL.isSome_effective?_layers hkey')
  have hstrict : ∀ value, L.field? L.toFlag? value (L.layers T user environment).reverse strictKey =
      (L.effective? (L.layers T user environment) strictKey).bind L.toFlag? := by
    have hkey : strictKey ∈ keys := by decide
    exact hL.field?_reverse hL.toFlag?_of_isCollection hkey (hL.isSome_effective?_layers hkey)
  rw [load?, hsources, Option.bind_some, preferences?]
  simp only [hword puzzleSizeKey (by decide), hword minPuzzleSizeKey (by decide),
    hword maxPuzzleSizeKey (by decide), hstrict]

/-- Preferences are loaded exactly if they are what the layers set. -/
theorem Laws.load?_eq_some_iff (hL : L.Laws T) (huser : L.userSources? files path = some user) :
    L.load? files path environment = some p ↔ L.SetBy (L.layers T user environment) p := by
  rw [hL.load?_eq huser]
  constructor
  · intro h
    obtain ⟨puzzleSize, hsize, h⟩ := Option.bind_eq_some_iff.1 h
    obtain ⟨least, hleast, h⟩ := Option.bind_eq_some_iff.1 h
    obtain ⟨most, hmost, h⟩ := Option.bind_eq_some_iff.1 h
    obtain ⟨strict, hstrict, h⟩ := Option.bind_eq_some_iff.1 h
    cases h
    exact ⟨hsize, hleast, hmost, hstrict⟩
  · rintro ⟨hsize, hleast, hmost, hstrict⟩
    simp [hsize, hleast, hmost, hstrict]

/-- If they are, nothing is reported. -/
theorem Laws.load_of_setBy (hL : L.Laws T) (huser : L.userSources? files path = some user)
    (h : L.SetBy (L.layers T user environment) p) : L.load files path environment = ⟨p, []⟩ := by
  rw [load, (hL.load?_eq_some_iff huser).2 h]

end Library

end Twisty
