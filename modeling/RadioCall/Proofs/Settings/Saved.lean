/-
This file proves that settings that were saved load again. What saving can do is said once, with
the files it leaves behind. If it succeeds, the file holds the sections that it held before, in
their order, and the settings as the only content of their section; and the text of the file
reads back, so a load from it gives the settings.
-/

import RadioCall.Proofs.File.Tree
import RadioCall.Proofs.Json.Storable
import RadioCall.Proofs.Settings.Soundness

namespace RadioCall

/-! ### What saving can do -/

namespace Settings

/-- How saving ends, given the settings with their path: no directory can be made, the sections
of the file cannot be read, the file cannot be opened, its text cannot be made once it is open,
or all goes well. -/
inductive SavesAs (settings : Settings) (files : FileTree) : Saved → Prop
  | noDirectory {tree : FileTree} {fault : Fault}
      (directories : files.makeDirectories settings.path.parent = (tree, .error fault)) :
      SavesAs settings files ⟨settle fault, settings, tree⟩
  | notRead {tree : FileTree} {fault : Fault}
      (directories : files.makeDirectories settings.path.parent = (tree, .ok ()))
      (fails : storedSections tree settings.path = .error fault) :
      SavesAs settings files ⟨settle fault, settings, tree⟩
  | notOpened {tree : FileTree} {sections : List (Scalar × Document)} {content : Content}
      {fault : Fault} (directories : files.makeDirectories settings.path.parent = (tree, .ok ()))
      (isRead : storedSections tree settings.path = .ok sections)
      (fails : tree.write settings.path content = .error fault) :
      SavesAs settings files ⟨settle fault, settings, tree⟩
  | notMade {tree written : FileTree} {sections : List (Scalar × Document)} {fault : Fault}
      (directories : files.makeDirectories settings.path.parent = (tree, .ok ()))
      (isRead : storedSections tree settings.path = .ok sections)
      (fails : Json.indented (settings.store sections) = .error fault)
      (isWritten : tree.write settings.path (.text []) = .ok written) :
      SavesAs settings files ⟨settle fault, settings, written⟩
  | saved {tree written : FileTree} {sections : List (Scalar × Document)} {text : Text}
      (directories : files.makeDirectories settings.path.parent = (tree, .ok ()))
      (isRead : storedSections tree settings.path = .ok sections)
      (isMade : Json.indented (settings.store sections) = .ok text)
      (isWritten : tree.write settings.path (.text text) = .ok written) :
      SavesAs settings files ⟨.ok true, { settings with isDirty := false }, written⟩

theorem savesAs_save (settings : Settings) (files : FileTree) (path : Option Path) :
    (settings.withPath path).SavesAs files (settings.save files path) := by
  simp only [save]
  split
  · next tree fault directories => exact .noDirectory directories
  · next tree directories =>
    split
    · next fault fails => exact .notRead directories fails
    · next sections isRead =>
      unfold FileTree.writeMade
      cases isMade : Json.indented ((settings.withPath path).store sections) with
      | error fault =>
        cases isWritten : tree.write (settings.withPath path).path (.text []) with
        | error other =>
          simp only [Except.toOption, Option.getD_none, isWritten]
          exact .notOpened directories isRead isWritten
        | ok written =>
          simp only [Except.toOption, Option.getD_none, isWritten]
          exact .notMade directories isRead isMade isWritten
      | ok text =>
        cases isWritten : tree.write (settings.withPath path).path (.text text) with
        | error other =>
          simp only [Except.toOption, Option.getD_some, isWritten]
          exact .notOpened directories isRead isWritten
        | ok written =>
          simp only [Except.toOption, Option.getD_some, isWritten]
          exact .saved directories isRead isMade isWritten

/-! ### Sections of files -/

end Settings

/-- A document of a file is one that can be stored. -/
theorem Content.canBeStored_of_asJson {content : Content} {document : Document}
    (isRead : content.asJson = .ok document) : document.CanBeStored nestingLimit := by
  obtain ⟨_, -, isRead⟩ := bind_eq_ok_iff.mp isRead
  exact Json.canBeStored_of_read isRead

/-- The sections at a place: none where nothing is, and those of the JSON mapping that a file
holds. -/
inductive HoldsSections (files : FileTree) (location : Location) :
    List (Scalar × Document) → Prop
  | missing (isMissing : files.entry? location = none) : HoldsSections files location []
  | file {content : Content} {sections : List (Scalar × Document)}
      (isFile : files.entry? location = some (.file content))
      (isJson : content.asJson = .ok (.mapping sections)) : HoldsSections files location sections

namespace Settings

theorem readStored_eq_ok_iff {tree : FileTree} {path : Path} {stored : Document} :
    readStored tree path = .ok stored ↔
      ∃ content, tree.find path = .ok (.file content) ∧ content.asJson = .ok stored := by
  rw [readStored, bind_eq_ok_iff]
  simp only [FileTree.read_eq_ok_iff]

/-- The sections that saving reads from a file that is there are its JSON mapping. -/
theorem storedSections_eq_ok_iff {tree : FileTree} {path : Path}
    {sections : List (Scalar × Document)} :
    storedSections tree path = .ok sections ↔
      tree.isPresent path = .ok false ∧ sections = [] ∨
        readStored tree path = .ok (.mapping sections) := by
  rw [storedSections, bind_eq_ok_iff]
  constructor
  · rintro ⟨isThere, isPresent, isRead⟩
    cases isThere with
    | false => exact .inl ⟨isPresent, (Except.ok.inj isRead).symm⟩
    | true =>
      obtain ⟨stored, isStored, isMapping⟩ := bind_eq_ok_iff.mp isRead
      cases stored with
      | mapping present =>
        obtain rfl := Except.ok.inj isMapping
        exact .inr isStored
      | _ => cases isMapping
  · rintro (⟨isMissing, rfl⟩ | isStored)
    · exact ⟨false, isMissing, rfl⟩
    · obtain ⟨content, isFound, -⟩ := readStored_eq_ok_iff.mp isStored
      exact ⟨true, FileTree.isPresent_eq_true_iff.mpr ⟨_, isFound⟩,
        bind_eq_ok_iff.mpr ⟨_, isStored, rfl⟩⟩

/-- The sections that are read before a file is written are those at its place. -/
theorem holdsSections_of_stored {tree written : FileTree} {path : Path} {content : Content}
    {sections : List (Scalar × Document)} (isRead : storedSections tree path = .ok sections)
    (isWritten : tree.write path content = .ok written) :
    HoldsSections tree (path.location tree.working) sections := by
  rcases storedSections_eq_ok_iff.mp isRead with ⟨isMissing, rfl⟩ | isStored
  · obtain ⟨location, leads, noDirectory, -⟩ := FileTree.write_eq_ok_iff.mp isWritten
    obtain rfl := FileTree.eq_location_of_locate leads
    cases isEntry : tree.entry? (path.location tree.working) with
    | none => exact .missing isEntry
    | some entry =>
      have isFound := FileTree.find_eq_ok_iff.mpr ⟨_, leads, isEntry⟩
      rw [FileTree.isPresent_eq_true_iff.mpr ⟨entry, isFound⟩] at isMissing
      cases isMissing
  · obtain ⟨content, isFound, isJson⟩ := readStored_eq_ok_iff.mp isStored
    exact .file (FileTree.entry?_of_find isFound) isJson

theorem canBeStored_of_storedSections {tree : FileTree} {path : Path}
    {sections : List (Scalar × Document)} (isRead : storedSections tree path = .ok sections) :
    (Document.mapping sections).CanBeStored nestingLimit := by
  rcases storedSections_eq_ok_iff.mp isRead with ⟨-, rfl⟩ | isStored
  · exact Document.canBeStored_emptyMapping _
  · obtain ⟨_, -, isJson⟩ := readStored_eq_ok_iff.mp isStored
    exact Content.canBeStored_of_asJson isJson

end Settings

/-- Where directories are added, the sections of files stay. -/
theorem FileTree.OnlyAddsDirectories.holdsSections {before after : FileTree}
    (adds : OnlyAddsDirectories before after) {location : Location}
    {sections : List (Scalar × Document)} (holds : HoldsSections after location sections) :
    HoldsSections before location sections := by
  cases holds with
  | missing isMissing => exact .missing (adds.entry?_eq_none isMissing)
  | file isFile isJson => exact .file (adds.file_iff.mp isFile) isJson

/-! ### Stored settings -/

namespace Settings

theorem nodup_names :
    ["callsign".toList, "vocabulary_path".toList, "log_level".toList].Nodup := by
  decide

/-- The settings as they are stored can be, if each of them can. -/
theorem record_isJson {settings : Settings}
    (areJson : ∀ setting : Setting, (setting.value settings).IsJson) :
    settings.record.IsJson := by
  refine Document.isJson_record nodup_names ?_
  simp only [List.forall_mem_cons]
  exact ⟨areJson .callsign, areJson .vocabularyPath, areJson .logLevel, nofun⟩

theorem withSection_record (settings other : Settings) :
    ∃ entries, settings.record = .mapping entries ∧
      other.withSection entries = { settings with path := other.path, isDirty := false } :=
  ⟨_, rfl, rfl⟩

/-- Storing settings keeps the other sections, and leaves nothing else in their own. -/
theorem filter_store {sections : List (Scalar × Document)} (areFields : AreFields sections)
    (settings : Settings) :
    ∃ stored, settings.store sections = .mapping stored ∧
      stored.filter (fun found => found.1 == .text settingsSection) =
        [(.text settingsSection, settings.record)] ∧
      stored.filter (fun found => found.1 != .text settingsSection) =
        sections.filter fun found => found.1 != .text settingsSection := by
  refine ⟨_, rfl, ?_⟩
  rw [Table.put_isSameKey areFields.haveTextKeys]
  exact ⟨Table.filter_put_eq areFields.nodup _ _, Table.filter_put_ne _ _ _⟩

/-- The section of settings is found among stored sections. -/
theorem storedSection?_store {sections : List (Scalar × Document)} (areFields : AreFields sections)
    (settings : Settings) {entries : List (Scalar × Document)}
    (isRecord : settings.record = .mapping entries) :
    storedSection? (settings.store sections) = some entries := by
  have found : Document.find? settingsSection
      (Table.put Scalar.isSameKey sections (.text settingsSection) settings.record) =
        some settings.record := by
    rw [Document.find?_eq_lookup (areFields.put _ _).haveTextKeys,
      Table.put_isSameKey areFields.haveTextKeys, Table.lookup_put, if_pos (beq_self_eq_true _)]
  rw [store, storedSection?, found, isRecord]

/-- A load takes over what a file holds. -/
theorem load_of_storedSection? {settings : Settings} {tree : FileTree} {path : Option Path}
    {stored : Document} {entries : List (Scalar × Document)}
    (isStored : readStored tree (settings.withPath path).path = .ok stored)
    (isSection : storedSection? stored = some entries) :
    settings.load tree path = (.ok true, (settings.withPath path).withSection entries) := by
  obtain ⟨content, isFound, -⟩ := readStored_eq_ok_iff.mp isStored
  simp only [load]
  rw [FileTree.isPresent_eq_true_iff.mpr ⟨_, isFound⟩, isStored]
  simp only [isSection]

/-- Settings that a file holds load into fresh settings. -/
theorem load_initial_of_store {settings : Settings} {tree : FileTree}
    {sections : List (Scalar × Document)} (areFields : AreFields sections)
    (isStored : readStored tree settings.path = .ok (settings.store sections)) :
    initial.load tree (some settings.path) = (.ok true, { settings with isDirty := false }) := by
  obtain ⟨entries, isRecord, taken⟩ :=
    settings.withSection_record (initial.withPath (some settings.path))
  have loaded : initial.load tree (some settings.path) = _ :=
    load_of_storedSection? isStored (storedSection?_store areFields settings isRecord)
  rw [taken] at loaded
  exact loaded

/-- After a save that succeeded the file holds the settings among the sections from before. -/
theorem readStored_of_save {settings : Settings} {files : FileTree} {path : Option Path}
    (areJson : ∀ setting : Setting, (setting.value settings).IsJson)
    (isSaved : (settings.save files path).outcome = .ok true) :
    (settings.save files path).settings = { settings.withPath path with isDirty := false } ∧
      ∃ sections, AreFields sections ∧
        HoldsSections files ((settings.withPath path).path.location files.working) sections ∧
        (settings.save files path).tree.working = files.working ∧
        readStored (settings.save files path).tree (settings.withPath path).path =
          .ok ((settings.withPath path).store sections) := by
  have savesAs := settings.savesAs_save files path
  generalize settings.save files path = saved at savesAs isSaved
  cases savesAs with
  | noDirectory => exact absurd isSaved (settle_ne_ok_true _)
  | notRead => exact absurd isSaved (settle_ne_ok_true _)
  | notOpened => exact absurd isSaved (settle_ne_ok_true _)
  | notMade => exact absurd isSaved (settle_ne_ok_true _)
  | @saved tree written sections text directories isRead isMade isWritten =>
    have sectionsJson := (canBeStored_of_storedSections isRead).isJson
    cases sectionsJson with
    | mapping areFields sectionsJson =>
      have recordJson : (settings.withPath path).record.IsJson :=
        record_isJson fun setting => by
          rw [Setting.value_withPath]
          exact areJson setting
      have storedJson : ((settings.withPath path).store sections).IsJson :=
        .mapping (areFields.put _ _) (Table.forall_mem_put sectionsJson _ recordJson)
      have adds := files.onlyAddsDirectories_makeDirectories (settings.withPath path).path.parent
      rw [directories] at adds
      have holds := adds.holdsSections (holdsSections_of_stored isRead isWritten)
      rw [adds.working_eq] at holds
      exact ⟨rfl, sections, areFields, holds,
        (FileTree.working_of_write isWritten).trans adds.working_eq,
        readStored_eq_ok_iff.mpr
          ⟨_, FileTree.find_of_write isWritten, Json.read_of_indented storedJson isMade⟩⟩

/-- Settings that were saved load into fresh settings, with nothing left to save. The other
sections of the file are those from before, in their order; of their own section nothing is
left but the settings. -/
theorem load_of_save {settings : Settings} {files : FileTree} {path : Option Path}
    (areJson : ∀ setting : Setting, (setting.value settings).IsJson)
    (isSaved : (settings.save files path).outcome = .ok true) :
    initial.load (settings.save files path).tree (some (settings.withPath path).path) =
        (.ok true, { settings.withPath path with isDirty := false }) ∧
      ∃ before after,
        HoldsSections files ((settings.withPath path).path.location files.working) before ∧
        HoldsSections (settings.save files path).tree
          ((settings.withPath path).path.location files.working) after ∧
        after.filter (fun found => found.1 == .text settingsSection) =
          [(.text settingsSection, settings.record)] ∧
        after.filter (fun found => found.1 != .text settingsSection) =
          before.filter fun found => found.1 != .text settingsSection := by
  obtain ⟨-, sections, areFields, holds, sameWorking, isStored⟩ :=
    readStored_of_save areJson isSaved
  refine ⟨load_initial_of_store areFields isStored, ?_⟩
  obtain ⟨stored, isStore, own, others⟩ := filter_store areFields (settings.withPath path)
  obtain ⟨content, isFound, isJson⟩ := readStored_eq_ok_iff.mp isStored
  rw [isStore] at isJson
  have isFile := FileTree.entry?_of_find isFound
  rw [sameWorking] at isFile
  exact ⟨sections, stored, holds, .file isFile isJson, own, others⟩

/-- A settings file with sections before and after the one of settings. -/
def sharedFile : FileTree :=
  FileTree.empty.place defaultPath
    (.text "\x7b\"radio\": [1.5, null], \"gci\": \x7b\"old\": 0\x7d, \"map\": \"x\"\x7d".toList)

/-- Settings with a callsign that was set. -/
def renamed : Settings :=
  { initial with callsign := .text "darkstar".toList, isDirty := true }

theorem load_of_save_sharedFile :
    (∀ setting : Setting, (setting.value renamed).IsJson) ∧
      (renamed.save sharedFile none).outcome = .ok true ∧
      initial.load (renamed.save sharedFile none).tree (some defaultPath) =
        (.ok true, { renamed with isDirty := false }) := by
  have areJson (setting : Setting) : (setting.value renamed).IsJson := by
    cases setting <;> exact .scalar trivial
  have isSaved : (renamed.save sharedFile none).outcome = .ok true := by decide +kernel
  exact ⟨areJson, isSaved, (load_of_save areJson isSaved).1⟩

end Settings

end RadioCall
