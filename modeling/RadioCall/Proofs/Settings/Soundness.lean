/-
This file proves when settings stay sound over whole runs: the callsign is one word, the
path of the vocabulary is a text and the level of the log is one of the known levels. The
first settings are sound, and whatever is set fits, since a callsign is refused unless it
is one word, which it still is in small letters, and an unknown level is passed over. A
load has no such check, so a setting fits in every state of a run exactly if it fits in
every section that a load of the run took over, and a file with a callsign of two words
makes that the callsign.
-/

import Mathlib.Data.List.Induction
import RadioCall.Proofs.Settings.Run
import RadioCall.Proofs.Text.LetterCase
import RadioCall.Proofs.Text.Words
import RadioCall.Settings.Controller

namespace RadioCall

/-! ### Settings that fit -/

/-- The three settings. -/
inductive Setting
  | callsign
  | vocabularyPath
  | logLevel

namespace Setting

/-- The value of a setting. -/
def value : Setting → Settings → Document
  | callsign, settings => settings.callsign
  | vocabularyPath, settings => settings.vocabularyPath
  | logLevel, settings => settings.logLevel

/-- The value that a stored section gives a setting, by default if it leaves it out. -/
def stored (setting : Setting) (entries : List (Scalar × Document)) : Document :=
  setting.value (Settings.initial.withSection entries)

/-- What a setting is supposed to be: a callsign of one word, a path, a known level. -/
def Fits : Setting → Document → Prop
  | callsign, value => ∃ word, value = .text word ∧ IsWord word
  | vocabularyPath, value => ∃ path, value = .text path
  | logLevel, value => ∃ level ∈ Settings.logLevels, value = .text level

theorem fits_initial (setting : Setting) : setting.Fits (setting.value .initial) := by
  cases setting with
  | callsign => exact ⟨Settings.defaultCallsign, rfl, by decide⟩
  | vocabularyPath => exact ⟨[], rfl⟩
  | logLevel => exact ⟨Settings.defaultLogLevel, by decide, rfl⟩

theorem value_withPath (setting : Setting) (settings : Settings) (path : Option Path) :
    setting.value (settings.withPath path) = setting.value settings := by
  cases setting <;> rfl

theorem value_withSection (setting : Setting) (settings : Settings)
    (entries : List (Scalar × Document)) :
    setting.value (settings.withSection entries) = setting.stored entries := by
  cases setting <;> rfl

theorem value_save (setting : Setting) (settings : Settings) (files : FileTree)
    (path : Option Path) :
    setting.value (settings.save files path).settings = setting.value settings := by
  rcases settings.save_settings_cases files path with saved | saved
  · rw [saved, value_withPath]
  · rw [saved]
    cases setting <;> rfl

end Setting

/-! ### What is set fits -/

/-- A word stays one in small letters. -/
theorem IsWord.lower {word : Text} (isWord : IsWord word) : IsWord (lower word) :=
  ⟨lower_ne_nil isWord.nonempty, fun _ member => isBlank_of_mem_lower isWord.unbroken member⟩

/-- A callsign that is taken is the only word of what is given, in small letters. -/
theorem Settings.setCallsign_eq_ok {settings changed : Settings} {given : Text}
    (accepted : settings.setCallsign given = .ok changed) :
    ∃ word, words given = [word] ∧
      changed = { settings with callsign := .text (lower word), isDirty := true } := by
  unfold setCallsign at accepted
  split at accepted
  · next word single => exact ⟨word, single, (Except.ok.inj accepted).symm⟩
  · cases accepted

/-- Setting one of the settings leaves each as it was or gives it a value that fits. -/
theorem Setting.value_setCallsign (setting : Setting) {settings changed : Settings} {given : Text}
    (accepted : settings.setCallsign given = .ok changed) :
    setting.value changed = setting.value settings ∨ setting.Fits (setting.value changed) := by
  obtain ⟨word, single, rfl⟩ := Settings.setCallsign_eq_ok accepted
  cases setting with
  | callsign =>
    have isWord : IsWord word := isWord_of_mem_words (single ▸ List.mem_singleton_self word)
    exact Or.inr ⟨lower word, rfl, isWord.lower⟩
  | vocabularyPath => exact Or.inl rfl
  | logLevel => exact Or.inl rfl

theorem Setting.value_setVocabularyPath (setting : Setting) (settings : Settings) (given : Text) :
    setting.value (settings.setVocabularyPath given) = setting.value settings ∨
      setting.Fits (setting.value (settings.setVocabularyPath given)) := by
  cases setting with
  | callsign => exact Or.inl rfl
  | vocabularyPath => exact Or.inr ⟨given, rfl⟩
  | logLevel => exact Or.inl rfl

theorem Setting.value_setLogLevel (setting : Setting) (settings : Settings) (given : Text) :
    setting.value (settings.setLogLevel given) = setting.value settings ∨
      setting.Fits (setting.value (settings.setLogLevel given)) := by
  unfold Settings.setLogLevel
  split
  · next known =>
    cases setting with
    | callsign => exact Or.inl rfl
    | vocabularyPath => exact Or.inl rfl
    | logLevel => exact Or.inr ⟨upper given, List.contains_iff_mem.mp known, rfl⟩
  · exact Or.inl rfl

/-! ### Runs -/

namespace SettingsRun

/-- An event gives each setting its value from a section that is taken over, or takes over
none and leaves the setting as it was or gives it a value that fits. -/
theorem step_cases (setting : Setting) (run : SettingsRun) (event : SettingsEvent) :
    (∃ entries, (run.step event).taken = entries :: run.taken ∧
      setting.value (run.step event).settings = setting.stored entries) ∨
    (run.step event).taken = run.taken ∧
      (setting.value (run.step event).settings = setting.value run.settings ∨
        setting.Fits (setting.value (run.step event).settings)) := by
  cases event with
  | setCallsign given =>
    refine Or.inr ?_
    simp only [step]
    cases accepted : run.settings.setCallsign given with
    | ok changed => exact ⟨rfl, setting.value_setCallsign accepted⟩
    | error fault => exact ⟨rfl, Or.inl rfl⟩
  | setVocabularyPath given =>
    exact Or.inr ⟨rfl, setting.value_setVocabularyPath run.settings given⟩
  | setLogLevel given => exact Or.inr ⟨rfl, setting.value_setLogLevel run.settings given⟩
  | load path =>
    simp only [step, takes?]
    rcases run.settings.load_cases run.files path with
      ⟨entries, found, loaded⟩ | ⟨-, outcome, failed, loaded⟩
    · rw [loaded, found]
      exact Or.inl ⟨entries, rfl, setting.value_withSection _ entries⟩
    · rw [loaded]
      refine Or.inr ⟨?_, Or.inl (setting.value_withPath run.settings path)⟩
      split
      · exact absurd ‹outcome = .ok true› failed
      · rfl
  | save path => exact Or.inr ⟨rfl, Or.inl (setting.value_save run.settings run.files path)⟩
  | replaceFiles files => exact Or.inr ⟨rfl, Or.inl rfl⟩

/-- A setting fits in every state of a run exactly if it fits in every section that a load
of the run took over. -/
theorem forall_fits_iff (files : FileTree) (events : List SettingsEvent) (setting : Setting) :
    (∀ earlier, earlier <+: events → setting.Fits (setting.value (after files earlier).settings)) ↔
      ∀ entries ∈ (after files events).taken, setting.Fits (setting.stored entries) := by
  induction events using List.reverseRecOn with
  | nil =>
    simp only [List.prefix_nil, forall_eq]
    exact iff_of_true setting.fits_initial fun _ member => absurd member List.not_mem_nil
  | append_singleton events event ih =>
    simp only [List.prefix_concat_iff, forall_eq_or_imp]
    rw [after_concat]
    rcases step_cases setting (after files events) event with
      ⟨entries, grown, given⟩ | ⟨same, keptOrFits⟩
    · rw [grown, given, List.forall_mem_cons, ih]
    · rw [same, ← ih]
      refine ⟨And.right, fun allFit => ⟨?_, allFit⟩⟩
      rcases keptOrFits with kept | fits
      · rw [kept]
        exact allFit events (List.prefix_refl events)
      · exact fits

/-- The settings file in the home directory, with a callsign of two words. -/
def twoWordFile : FileTree :=
  FileTree.empty.place Settings.defaultPath
    (.text "\x7b\"gci\": \x7b\"callsign\": \"dark star\"\x7d\x7d".toList)

/-- A load of this file leaves a callsign of two words, so it took over a section in which the
callsign does not fit. -/
theorem not_fits_twoWordFile :
    ¬Setting.callsign.Fits (Setting.callsign.value (after twoWordFile [.load none]).settings) ∧
      ¬∀ entries ∈ (after twoWordFile [.load none]).taken,
        Setting.callsign.Fits (Setting.callsign.stored entries) := by
  have isCallsign : (after twoWordFile [.load none]).settings.callsignText =
      .ok "dark star".toList := by decide +kernel
  have unfit :
      ¬Setting.callsign.Fits (Setting.callsign.value (after twoWordFile [.load none]).settings) := by
    rintro ⟨word, same, isWord⟩
    rw [Setting.value] at same
    rw [Settings.callsignText, same] at isCallsign
    obtain rfl : word = "dark star".toList := Except.ok.inj isCallsign
    exact absurd isWord (by decide)
  have law := forall_fits_iff twoWordFile [.load none] .callsign
  exact ⟨unfit, fun allFit => unfit (law.mpr allFit _ (List.prefix_refl _))⟩

end SettingsRun

end RadioCall
