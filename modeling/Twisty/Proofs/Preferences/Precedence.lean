import Twisty.Proofs.Preferences.Yaml

/-!
# Which layer decides

Settings come in three layers: the environment, the file, and the file that comes with the program.
The libraries put the sources together, the lowest one first, and settings are converted only then.
So a setting that would not convert does no harm where a higher layer sets the key again, and one
that is effective discards all preferences (`Laws.load?_eq_none_iff`). No preference looks at an
entry for another key (`Laws.effective?_known`). All of this holds of any libraries that
keep the laws (`Library.highest_layer_decides`).
-/

namespace Twisty

open Preferences

namespace Library

variable {Value : Type} {L : Library Value} {T : Terms Value}

/-- Whether an entry sets a preference. -/
def Terms.isKnown (T : Terms Value) (e : List Char × Value) : Bool :=
  keys.contains (T.root e.1)

/-- The entries of sources that set preferences. -/
def Terms.known (T : Terms Value) (sources : List (Source Value)) : List (Source Value) :=
  sources.map (List.filter T.isKnown)

/-- Entries that set no preference may be left out. -/
theorem Laws.setting?_filter_isKnown (hL : L.Laws T) {key : List Char} (hkey : key ∈ keys)
    (source : Source Value) :
    L.setting? [source.filter T.isKnown] key = L.setting? [source] key := by
  have hknown : ∀ e : List Char × Value, decide (T.root e.1 = key) = true → T.isKnown e = true := by
    intro e he
    rw [Terms.isKnown, of_decide_eq_true he, List.contains_iff_mem]
    exact hkey
  have hfilter : (source.filter T.isKnown).filter (fun e => T.root e.1 = key) =
      source.filter fun e => T.root e.1 = key := by
    rw [List.filter_filter]
    refine List.filter_congr fun e _ => ?_
    rw [Bool.and_eq_left_iff_imp]
    exact hknown e
  rw [← hL.setting?_filter [source.filter T.isKnown] hkey, ← hL.setting?_filter [source] hkey,
    List.map_singleton, List.map_singleton, hfilter]

theorem Laws.effective?_known (hL : L.Laws T) {key : List Char} (hkey : key ∈ keys)
    (layers : List (Source Value)) :
    L.effective? (T.known layers) key = L.effective? layers key := by
  rw [effective?, Terms.known, List.findSome?_map, effective?]
  refine congrArg (List.findSome? · layers) (funext fun layer => ?_)
  exact hL.setting?_filter_isKnown hkey layer

theorem known_layers (user : List (Source Value)) (environment : List (List Char × List Char)) :
    T.known (L.layers T user environment) =
      T.known [L.environment environmentStem environment] ++ (T.known user).reverse ++
        T.known [T.source builtIn] := by
  simp [Terms.known, layers]

/-- What some key is set to by the highest layer that sets it does not convert to the type of the
preference. -/
def SomeUnconverted (L : Library Value) (layers : List (Source Value)) : Prop :=
  (∃ key ∈ wordKeys, (L.effective? layers key).bind L.toWord? = none) ∨
    (L.effective? layers strictKey).bind L.toFlag? = none

instance (layers : List (Source Value)) : Decidable (L.SomeUnconverted layers) :=
  inferInstanceAs (Decidable (_ ∨ _))

variable {files files' : List Char → Option (List Char)} {path path' : Option (List Char)}
  {user user' : List (Source Value)} {environment environment' : List (List Char × List Char)}

/-- Nothing is loaded if one effective setting does not convert, whatever the others are. -/
theorem Laws.load?_eq_none_iff (hL : L.Laws T) (huser : L.userSources? files path = some user) :
    L.load? files path environment = none ↔ L.SomeUnconverted (L.layers T user environment) := by
  rw [hL.load?_eq huser]
  unfold SomeUnconverted
  simp only [wordKeys, List.exists_mem_cons_iff]
  generalize (L.effective? (L.layers T user environment) puzzleSizeKey).bind L.toWord? = a
  generalize (L.effective? (L.layers T user environment) minPuzzleSizeKey).bind L.toWord? = b
  generalize (L.effective? (L.layers T user environment) maxPuzzleSizeKey).bind L.toWord? = c
  generalize (L.effective? (L.layers T user environment) strictKey).bind L.toFlag? = d
  cases a <;> cases b <;> cases c <;> cases d <;> simp

/-- Where nothing can be loaded, all preferences are the built-in ones, and this is reported. -/
theorem load_of_load?_eq_none (h : L.load? files path environment = none) :
    L.load files path environment = ⟨builtIn, [.preferencesFailed]⟩ := by
  rw [load, h]

/-- Nothing is loaded of a text that is not acceptable. -/
theorem load?_eq_none_of_read? {name text : List Char} (hfind : L.find? files name = some text)
    (hread : L.read? text = none) : L.load? files (some name) environment = none := by
  have huser : L.userSources? files (some name) = none := by
    rw [userSources?, hfind]
    show (L.read? text).map _ = none
    rw [hread]
    rfl
  rw [load?, sources?, huser]
  cases L.read? (Yaml.renderLines builtInLines) with
  | none => rfl
  | some source => rfl

/-- What is loaded depends on the file and the environment through the effective settings of the
four keys only. -/
theorem Laws.load_congr (hL : L.Laws T) (huser : L.userSources? files path = some user)
    (huser' : L.userSources? files' path' = some user')
    (h : ∀ key ∈ keys, L.effective? (L.layers T user' environment') key =
      L.effective? (L.layers T user environment) key) :
    L.load files' path' environment' = L.load files path environment := by
  have hsize := h puzzleSizeKey (by decide)
  have hleast := h minPuzzleSizeKey (by decide)
  have hmost := h maxPuzzleSizeKey (by decide)
  have hstrict := h strictKey (by decide)
  have hload : L.load? files' path' environment' = L.load? files path environment := by
    rw [hL.load?_eq huser, hL.load?_eq huser']
    simp only [hsize, hleast, hmost, hstrict]
  rw [load, load, hload]

/-- A file that does not exist is the same as none. -/
theorem Laws.load_of_missing (hL : L.Laws T) {name : List Char}
    (hmissing : ∀ p ∈ Path.candidates name, files p = none) :
    L.load files (some name) environment = L.load files none environment := by
  have hfind : L.find? files name = none := by
    refine Option.eq_none_iff_forall_ne_some.2 fun text htext => ?_
    obtain ⟨p, hp, hfile⟩ := hL.exists_of_find?_eq_some htext
    rw [hmissing p hp] at hfile
    cases hfile
  have huser : L.userSources? files (some name) = some [[]] := by
    rw [userSources?, hfind]
  have hnone : L.userSources? files none = some [] := rfl
  -- One layer more, which sets nothing.
  refine hL.load_congr hnone huser fun key hkey => ?_
  have hempty : L.setting? [[]] key = none := hL.setting?_eq_none (by simp) hkey
  simp [effective?, layers, List.findSome?_cons, hempty]

/-- Loading is layered, and it is all or nothing. If the file is not acceptable, or if some
effective setting does not convert, the preferences are the built-in ones and one warning is given.
Otherwise every preference is its effective setting, converted, and there is no warning.

So what the file sets does not matter for a key that the environment sets, whether it converts or
not. Entries for other keys do not matter, and a file that does not exist is the same as none. -/
theorem highest_layer_decides (hL : L.Laws T) (files : List Char → Option (List Char))
    (path : Option (List Char)) (environment : List (List Char × List Char)) :
    (∀ name text, path = some name → L.find? files name = some text → L.read? text = none →
      L.load files path environment = ⟨builtIn, [.preferencesFailed]⟩) ∧
    (∀ user, L.userSources? files path = some user →
      (L.SomeUnconverted (L.layers T user environment) →
        L.load files path environment = ⟨builtIn, [.preferencesFailed]⟩) ∧
      (¬ L.SomeUnconverted (L.layers T user environment) →
        ∃ p : Preferences, L.SetBy (L.layers T user environment) p ∧
          L.load files path environment = ⟨p, []⟩) ∧
      (∀ files' path' user', L.userSources? files' path' = some user' →
        (∀ key ∈ keys, L.setting? [L.environment environmentStem environment] key = none →
          L.effective? user'.reverse key = L.effective? user.reverse key) →
        L.load files' path' environment = L.load files path environment) ∧
      ∀ files' path' user' environment', L.userSources? files' path' = some user' →
        T.known user' = T.known user →
        T.known [L.environment environmentStem environment'] =
          T.known [L.environment environmentStem environment] →
        L.load files' path' environment' = L.load files path environment) ∧
    ∀ name, (∀ p ∈ Path.candidates name, files p = none) →
      L.load files (some name) environment = L.load files none environment := by
  refine ⟨?_, fun user huser => ⟨?_, ?_, ?_, ?_⟩, fun name => hL.load_of_missing⟩
  · rintro name text rfl hfind hread
    exact load_of_load?_eq_none (load?_eq_none_of_read? hfind hread)
  · exact fun h => load_of_load?_eq_none ((hL.load?_eq_none_iff huser).2 h)
  · intro hconverted
    rw [← hL.load?_eq_none_iff huser, ← Ne, Option.ne_none_iff_exists'] at hconverted
    obtain ⟨p, hp⟩ := hconverted
    have hset : L.SetBy (L.layers T user environment) p := (hL.load?_eq_some_iff huser).1 hp
    exact ⟨p, hset, hL.load_of_setBy huser hset⟩
  -- The environment stands above the file, so that the file is asked only where it is silent.
  · intro files' path' user' huser' hfile
    refine hL.load_congr huser huser' fun key hkey => ?_
    simp only [effective?, layers, List.cons_append, List.findSome?_cons, List.findSome?_append]
    cases henv : L.setting? [L.environment environmentStem environment] key with
    | some v => rfl
    | none =>
      have hlayers := hfile key hkey henv
      unfold effective? at hlayers
      rw [hlayers]
  · intro files' path' user' environment' huser' hknown hknownEnvironment
    refine hL.load_congr huser huser' fun key hkey => ?_
    rw [← hL.effective?_known hkey, ← hL.effective?_known hkey (L.layers T user environment),
      known_layers, known_layers, hknown, hknownEnvironment]

/-- A file in YAML, which is found with an extension, sets the size to a list. It is loaded where
the environment sets the size again, with or without an entry for another key, and so is one that
sets the size to a number. Without the environment nothing of it is loaded, and nothing is loaded of
a text that is no document. A file that does not exist leaves the preferences as they are built in.
-/
theorem highest_layer_decides_over_list :
    let file (text : String) : List Char → Option (List Char) :=
      fun path => if path = "prefs.yaml".toList then some text.toList else none
    let load (text : String) := yaml.load (file text) (some "prefs".toList)
    let environment := [("CUBESEQ_PUZZLE_SIZE".toList, "4".toList)]
    load "puzzle_size: [x]\nstrict: on\nother: 7\n" environment = ⟨⟨4, 2, 5, true⟩, []⟩ ∧
      load "puzzle_size: 5\nstrict: on" environment = ⟨⟨4, 2, 5, true⟩, []⟩ ∧
      load "puzzle_size: [x]\nstrict: on" (("CUBESEQ_OTHER".toList, []) :: environment) =
        ⟨⟨4, 2, 5, true⟩, []⟩ ∧
      load "puzzle_size: [x]\nstrict: on\nother: 7\n" [] = ⟨builtIn, [.preferencesFailed]⟩ ∧
      load "strict: [on" environment = ⟨builtIn, [.preferencesFailed]⟩ ∧
      yaml.load (file "strict: on") (some "other".toList) environment =
        yaml.load (file "strict: on") none environment := by
  intro file load environment
  let path : Option (List Char) := some "prefs".toList
  let source : Source Setting := [("puzzle_size".toList, .collection),
    ("strict".toList, .scalar (.text "on".toList)), ("other".toList, .scalar (.integer 7))]
  let text := "puzzle_size: [x]\nstrict: on\nother: 7\n"
  have hsource : yaml.userSources? (file text) path = some [source] := by decide +kernel
  obtain ⟨-, hlayers, -⟩ := highest_layer_decides yaml_laws (file text) path environment
  obtain ⟨-, hconverted, hreplaced, hunknown⟩ := hlayers _ hsource
  obtain ⟨p, hp, hload⟩ := hconverted (by decide +kernel)
  have hset : yaml.SetBy (yaml.layers yamlTerms [source] environment) ⟨4, 2, 5, true⟩ :=
    ⟨by decide +kernel, by decide +kernel, by decide +kernel, by decide +kernel⟩
  have hpreferences : some p = some ⟨4, 2, 5, true⟩ := by
    rw [← (yaml_laws.load?_eq_some_iff hsource).2 hp, (yaml_laws.load?_eq_some_iff hsource).2 hset]
  cases hpreferences
  refine ⟨hload, ?_, ?_, ?_, ?_, ?_⟩
  · refine (hreplaced (file "puzzle_size: 5\nstrict: on") path [[("puzzle_size".toList,
      .scalar (.integer 5)), ("strict".toList, .scalar (.text "on".toList))]]
      (by decide +kernel) (by decide +kernel)).trans hload
  · refine (hunknown (file "puzzle_size: [x]\nstrict: on") path [[("puzzle_size".toList,
      .collection), ("strict".toList, .scalar (.text "on".toList))]] _
      (by decide +kernel) (by decide +kernel) (by decide +kernel)).trans hload
  · exact ((highest_layer_decides yaml_laws (file text) path []).2.1 _ hsource).1
      (by decide +kernel)
  · exact (highest_layer_decides yaml_laws (file "strict: [on") path environment).1 _ _ rfl
      (show _ = some "strict: [on".toList by decide +kernel)
      (Option.isNone_iff_eq_none.1 (by decide +kernel))
  · exact (highest_layer_decides yaml_laws (file "strict: on") path environment).2.2 _
      (by decide +kernel)

end Library

end Twisty
