import Twisty.Proofs.Preferences.Yaml

/-!
# Saved preferences are loaded again

Of libraries that keep the laws, what is written for preferences is read as a source that sets every
one of them (`Laws.read?_write`). So nothing is left to the built-in preferences, and the
environment comes after the file. A preference is the saved one, unless the environment sets it
(`Library.load_of_save`).
-/

namespace Twisty

open Preferences

namespace Files

variable {files saved : Files} {path : Path} {text : List Char}

/-- A text that was written at a path is read there. -/
theorem read?_of_write (h : files.write path text = some saved) : saved.read? path = some text := by
  unfold write at h
  split at h
  · cases h
    have hdirectories : path.directories.all (path.directories ++ files.directories).contains :=
      List.all_eq_true.2 fun d hd => by
        simp [hd]
    rw [read?, if_pos hdirectories]
    exact List.lookup_cons_self
  · cases h

end Files

namespace Library

variable {Value : Type} {L : Library Value} {T : Terms Value}

/-- An environment sets a key to what converts to the given value, or does not set it if no value is
given. -/
def EnvironmentSets {α : Type} (L : Library Value) (environment : List (List Char × List Char))
    (convert : Value → Option α) (key : List Char) (value? : Option α) : Prop :=
  (L.setting? [L.environment environmentStem environment] key).map convert = value?.map some

instance {α : Type} [DecidableEq α] (environment : List (List Char × List Char))
    (convert : Value → Option α) (key : List Char) (value? : Option α) :
    Decidable (L.EnvironmentSets environment convert key value?) :=
  inferInstanceAs (Decidable (_ = _))

/-- A preference is what the environment sets it to, or else what the layer below does. -/
theorem EnvironmentSets.bind_effective? {α : Type} {environment : List (List Char × List Char)}
    {convert : Value → Option α} {key : List Char} {value? : Option α}
    (henv : L.EnvironmentSets environment convert key value?) {source : Source Value} {v : Value}
    (hv : L.setting? [source] key = some v) {value : α} (hvalue : convert v = some value)
    (lower : List (Source Value)) :
    (L.effective? (L.environment environmentStem environment :: source :: lower) key).bind convert =
      some (value?.getD value) := by
  unfold EnvironmentSets at henv
  rw [effective?, List.findSome?_cons]
  cases hset : L.setting? [L.environment environmentStem environment] key with
  | none =>
    rw [hset] at henv
    cases value? with
    | none =>
      rw [List.findSome?_cons, hv]
      exact hvalue
    | some _ => cases henv
  | some _ =>
    rw [hset] at henv
    cases value? with
    | none => cases henv
    | some _ => exact Option.some.inj henv

/-- The source that sets preferences, with the environment above it, sets those with the preferences
replaced that the environment sets. -/
theorem Laws.setBy_source (hL : L.Laws T) (p : Preferences)
    {environment : List (List Char × List Char)} {size? least? most? : Option UInt16}
    {strict? : Option Bool} (hsize : L.EnvironmentSets environment L.toWord? puzzleSizeKey size?)
    (hleast : L.EnvironmentSets environment L.toWord? minPuzzleSizeKey least?)
    (hmost : L.EnvironmentSets environment L.toWord? maxPuzzleSizeKey most?)
    (hstrict : L.EnvironmentSets environment L.toFlag? strictKey strict?) :
    L.SetBy (L.layers T [T.source p] environment) ⟨size?.getD p.puzzleSize,
      least?.getD p.minPuzzleSize, most?.getD p.maxPuzzleSize, strict?.getD p.strict⟩ where
  puzzleSize := hsize.bind_effective? (hL.setting?_source (by simp [fields]))
    (hL.toWord?_scalar p.puzzleSize) _
  minPuzzleSize := hleast.bind_effective? (hL.setting?_source (by simp [fields]))
    (hL.toWord?_scalar p.minPuzzleSize) _
  maxPuzzleSize := hmost.bind_effective? (hL.setting?_source (by simp [fields]))
    (hL.toWord?_scalar p.maxPuzzleSize) _
  strict := hstrict.bind_effective? (hL.setting?_source (by simp [fields]))
    (hL.toFlag?_scalar p.strict) _

/-- Saved preferences are loaded again, from any path at which they could be saved: as they are
where no variable of the environment is meant, and otherwise with exactly those replaced that the
environment sets. -/
theorem load_of_save (hL : L.Laws T) {p : Preferences} {path : List Char} {files saved : Files}
    (hsave : L.save p (.ofText path) files = some saved) :
    (∀ environment : List (List Char × List Char),
        (∀ b ∈ environment, ¬ environmentPrefix <+: b.1.map Char.toLower) →
        L.load saved.textAt? (some path) environment = ⟨p, []⟩) ∧
      ∀ (environment : List (List Char × List Char)) (size? least? most? : Option UInt16)
        (strict? : Option Bool),
        L.EnvironmentSets environment L.toWord? puzzleSizeKey size? →
        L.EnvironmentSets environment L.toWord? minPuzzleSizeKey least? →
        L.EnvironmentSets environment L.toWord? maxPuzzleSizeKey most? →
        L.EnvironmentSets environment L.toFlag? strictKey strict? →
        L.load saved.textAt? (some path) environment = ⟨⟨size?.getD p.puzzleSize,
          least?.getD p.minPuzzleSize, most?.getD p.maxPuzzleSize, strict?.getD p.strict⟩, []⟩ := by
  have htext : saved.textAt? path = some (L.write p.fields) := Files.read?_of_write hsave
  have huser : L.userSources? saved.textAt? (some path) = some [T.source p] := by
    rw [userSources?, hL.find?_of_eq_some htext]
    show (L.read? (L.write p.fields)).map _ = _
    rw [hL.read?_write]
    rfl
  refine ⟨fun environment hnone => ?_, fun environment _ _ _ _ hsize hleast hmost hstrict =>
    hL.load_of_setBy huser (hL.setBy_source p hsize hleast hmost hstrict)⟩
  have hunset : ∀ {α : Type} (convert : Value → Option α) (key : List Char), key ∈ keys →
      L.EnvironmentSets environment convert key none := by
    intro α convert key hkey
    have hsetting : L.setting? [[]] key = none := hL.setting?_eq_none (by simp) hkey
    rw [EnvironmentSets, hL.environment_eq_nil hnone, hsetting]
    rfl
  exact hL.load_of_setBy huser (hL.setBy_source p (hunset _ _ (by decide)) (hunset _ _ (by decide))
    (hunset _ _ (by decide)) (hunset _ _ (by decide)))

/-- In YAML, preferences outside their own range are saved below a new directory and loaded again,
first as they are and then with a size and a strictness from the environment. -/
theorem load_of_save_nested :
    ∃ saved : Files, yaml.save ⟨0, 65535, 7, true⟩ (.ofText "nested/prefs.yaml".toList) ⟨[], [[]]⟩ =
        some saved ∧
      yaml.load saved.textAt? (some "nested/prefs.yaml".toList) [("HOME".toList, "/".toList)] =
        ⟨⟨0, 65535, 7, true⟩, []⟩ ∧
      yaml.load saved.textAt? (some "nested/prefs.yaml".toList)
          [("CUBESEQ_PUZZLE_SIZE".toList, "4".toList), ("cubeseq_strict".toList, "No".toList)] =
        ⟨⟨4, 65535, 7, false⟩, []⟩ := by
  have hsave : (yaml.save ⟨0, 65535, 7, true⟩ (.ofText "nested/prefs.yaml".toList)
      ⟨[], [[]]⟩).isSome = true := by decide
  obtain ⟨saved, hsaved⟩ := Option.isSome_iff_exists.1 hsave
  obtain ⟨hunset, hset⟩ := load_of_save yaml_laws hsaved
  refine ⟨saved, hsaved, hunset _ (by decide), ?_⟩
  exact hset _ (some 4) none none (some false) (by decide +kernel) (by decide +kernel)
    (by decide +kernel) (by decide +kernel)

end Library

end Twisty
