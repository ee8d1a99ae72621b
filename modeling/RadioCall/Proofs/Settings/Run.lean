/-
This file defines runs of settings: values are set, and settings are loaded and saved, in
any order and with any arguments, while others may replace the files at any time. Beside
the run stands what the loads that succeeded took over, one section of a file each. What a
single load can do is said once: it takes over the section of the file and nothing else,
or it changes nothing but the remembered path.
-/

import RadioCall.Settings.Store

namespace RadioCall

/-! ### What a load can do -/

namespace Settings

theorem settle_ne_ok_true (fault : Fault) : settle fault ≠ .ok true := by
  unfold settle
  split <;> nofun

/-- The section of settings that the file at the remembered path holds. -/
def foundSection? (settings : Settings) (files : FileTree) : Option (List (Scalar × Document)) :=
  match readStored files settings.path with
  | .ok stored => storedSection? stored
  | .error _ => none

theorem foundSection?_of_find_eq_error {settings : Settings} {files : FileTree} {fault : Fault}
    (missing : files.find settings.path = .error fault) :
    settings.foundSection? files = none := by
  rw [foundSection?, readStored, FileTree.read, missing]
  rfl

/-- A load succeeds and takes over the section that the file holds, or there is no such
section and a load changes nothing but the path. -/
theorem load_cases (settings : Settings) (files : FileTree) (path : Option Path) :
    (∃ entries, (settings.withPath path).foundSection? files = some entries ∧
      settings.load files path = (.ok true, (settings.withPath path).withSection entries)) ∨
    ((settings.withPath path).foundSection? files = none ∧
      ∃ outcome, outcome ≠ .ok true ∧
        settings.load files path = (outcome, settings.withPath path)) := by
  simp only [load]
  cases found : files.find (settings.withPath path).path with
  | error fault =>
    refine Or.inr ⟨foundSection?_of_find_eq_error found, ?_⟩
    rw [FileTree.isPresent, found]
    cases fault with
    | nameTooLong => exact ⟨.error .nameTooLong, nofun, rfl⟩
    | _ => exact ⟨.ok false, nofun, rfl⟩
  | ok entry =>
    rw [FileTree.isPresent, found, foundSection?]
    simp only
    cases readStored files (settings.withPath path).path with
    | error fault => exact Or.inr ⟨rfl, settle fault, settle_ne_ok_true fault, rfl⟩
    | ok stored =>
      simp only
      cases storedSection? stored with
      | none => exact Or.inr ⟨rfl, .ok false, nofun, rfl⟩
      | some entries => exact Or.inl ⟨entries, rfl, rfl⟩

/-- Saving changes nothing but the path and whether something is left to save. -/
theorem save_settings_cases (settings : Settings) (files : FileTree) (path : Option Path) :
    (settings.save files path).settings = settings.withPath path ∨
      (settings.save files path).settings = { settings.withPath path with isDirty := false } := by
  simp only [save]
  split
  · exact Or.inl rfl
  · split
    · exact Or.inl rfl
    · split
      · exact Or.inl rfl
      · exact Or.inr rfl

end Settings

/-! ### Runs -/

/-- What can happen to settings and to the files around them. -/
inductive SettingsEvent
  | setCallsign (given : Text)
  | setVocabularyPath (given : Text)
  | setLogLevel (given : Text)
  | load (path : Option Path)
  | save (path : Option Path)
  | replaceFiles (files : FileTree)

/-- Files and settings, with the sections that loads took over so far, latest first. -/
structure SettingsRun where
  files : FileTree
  settings : Settings
  taken : List (List (Scalar × Document))

namespace SettingsRun

/-- The section that a load takes over, if it succeeds. -/
def takes? (run : SettingsRun) (path : Option Path) : Option (List (Scalar × Document)) :=
  match (run.settings.load run.files path).1 with
  | .ok true => (run.settings.withPath path).foundSection? run.files
  | _ => none

/-- One event of a run. A callsign that is refused changes nothing. -/
def step (run : SettingsRun) : SettingsEvent → SettingsRun
  | .setCallsign given =>
    match run.settings.setCallsign given with
    | .ok changed => { run with settings := changed }
    | .error _ => run
  | .setVocabularyPath given => { run with settings := run.settings.setVocabularyPath given }
  | .setLogLevel given => { run with settings := run.settings.setLogLevel given }
  | .load path =>
    { run with
      settings := (run.settings.load run.files path).2
      taken := (run.takes? path).toList ++ run.taken }
  | .save path =>
    let saved := run.settings.save run.files path
    { run with settings := saved.settings, files := saved.tree }
  | .replaceFiles files => { run with files := files }

/-- The run of events over the files that are there at first, from the first settings. -/
def after (files : FileTree) (events : List SettingsEvent) : SettingsRun :=
  events.foldl step ⟨files, .initial, []⟩

theorem after_concat (files : FileTree) (events : List SettingsEvent) (event : SettingsEvent) :
    after files (events ++ [event]) = (after files events).step event := by
  rw [after, List.foldl_append]
  rfl

end SettingsRun

end RadioCall
