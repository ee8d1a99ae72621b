/-
This file proves when loading and saving settings end in a fault instead of telling that they
failed. Where the path leads is of no consequence, but for the null character and, when loading,
for names that are too long. A file that is found makes both fault if its bytes are no text, a
numeral of it is too long or it is nested too deep; and saving faults if the file holds JSON that
is no mapping, or if the settings cannot be written once the file is open.
-/

import RadioCall.Proofs.Settings.Saved

namespace RadioCall

theorem settle_eq_error_iff {fault other : Fault} :
    settle fault = .error other ↔ fault.isSettled = false ∧ fault = other := by
  unfold settle
  split
  · next settled => simp [settled]
  · next reported => simp [reported]

/-! ### Faults of paths -/

namespace FileTree

theorem check_eq_error_iff {path : Path} {fault : Fault} :
    check path = .error fault ↔
      path.hasNull ∧ fault = .nullInPath ∨
        ¬path.hasNull ∧ path.isTooLong ∧ fault = .nameTooLong := by
  unfold check
  split
  · next hasNull => simp [hasNull, @eq_comm _ fault]
  · next noNull =>
    split
    · next tooLong => simp [noNull, tooLong, @eq_comm _ fault]
    · next short => simp [noNull, short]

theorem isSettled_of_follow {tree : FileTree} {location : Location} {step : Step} {fault : Fault}
    (fails : tree.follow location step = .error fault) : fault.isSettled := by
  unfold follow at fails
  split at fails
  · split at fails
    · cases fails
      rfl
    · cases fails
  · cases fails
    rfl
  · cases fails
    rfl

/-- A path with the null character is refused; any other fault on the way is a matter of the
files. -/
theorem locate_eq_error {tree : FileTree} {path : Path} {fault : Fault}
    (fails : tree.locate path = .error fault) :
    path.hasNull ∧ fault = .nullInPath ∨ fault.isSettled := by
  rcases bind_eq_error_iff.mp fails with refused | ⟨_, -, stopped⟩
  · rcases check_eq_error_iff.mp refused with hasNull | ⟨-, -, rfl⟩
    · exact .inl hasNull
    · exact .inr rfl
  · obtain ⟨_, _, _, _, -, -, stops⟩ := foldlM_eq_error_iff.mp stopped
    exact .inr (isSettled_of_follow stops)

theorem locate_of_hasNull (tree : FileTree) {path : Path} (hasNull : path.hasNull) :
    tree.locate path = .error .nullInPath :=
  bind_eq_error_iff.mpr (.inl (check_eq_error_iff.mpr (.inl ⟨hasNull, rfl⟩)))

theorem find_of_hasNull (tree : FileTree) {path : Path} (hasNull : path.hasNull) :
    tree.find path = .error .nullInPath :=
  bind_eq_error_iff.mpr (.inl (tree.locate_of_hasNull hasNull))

theorem write_of_hasNull (tree : FileTree) {path : Path} (hasNull : path.hasNull)
    (content : Content) : tree.write path content = .error .nullInPath :=
  bind_eq_error_iff.mpr (.inl (tree.locate_of_hasNull hasNull))

theorem write_eq_error {tree : FileTree} {path : Path} {content : Content} {fault : Fault}
    (fails : tree.write path content = .error fault) :
    path.hasNull ∧ fault = .nullInPath ∨ fault.isSettled := by
  rcases bind_eq_error_iff.mp fails with lost | ⟨location, -, refused⟩
  · exact locate_eq_error lost
  · split at refused
    · cases refused
      exact .inr rfl
    · cases refused

theorem isPresent_eq_error_iff {tree : FileTree} {path : Path} {fault : Fault} :
    tree.isPresent path = .error fault ↔
      tree.find path = .error .nameTooLong ∧ fault = .nameTooLong := by
  unfold isPresent
  split
  · next isFound => simp [isFound]
  · next tooLong => simp [tooLong, @eq_comm _ fault]
  · next other missing => simpa [missing] using fun same => absurd same other

theorem isPresent_of_hasNull (tree : FileTree) {path : Path} (hasNull : path.hasNull) :
    tree.isPresent path = .ok false := by
  rw [isPresent, tree.find_of_hasNull hasNull]

theorem isSettled_of_makeSteps {tree made : FileTree} {location : Location} {steps : List Step}
    {fault : Fault} (fails : tree.makeSteps location steps = (made, .error fault)) :
    fault.isSettled := by
  induction steps generalizing tree location with
  | nil => cases fails
  | cons step rest ih =>
    rw [makeSteps] at fails
    split at fails
    · cases fails
      rfl
    · split at fails
      · exact ih fails
      · cases fails
        split <;> rfl
      · exact ih fails

theorem makeDirectories_eq_error {tree made : FileTree} {path : Path} {fault : Fault}
    (fails : tree.makeDirectories path = (made, .error fault)) :
    path.hasNull ∧ fault = .nullInPath ∨ fault.isSettled := by
  unfold makeDirectories at fails
  split at fails
  · next refused =>
    cases fails
    rcases check_eq_error_iff.mp refused with hasNull | ⟨-, -, rfl⟩
    · exact .inl hasNull
    · exact .inr rfl
  · exact .inr (isSettled_of_makeSteps fails)

theorem makeDirectories_of_hasNull (tree : FileTree) {path : Path} (hasNull : path.hasNull) :
    tree.makeDirectories path = (tree, .error .nullInPath) := by
  rw [makeDirectories, check_eq_error_iff.mpr (.inl ⟨hasNull, rfl⟩)]

end FileTree

/-! ### Faults of contents -/

/-- Why a file cannot be read as JSON, other than that it holds none. -/
inductive Content.IsUnreadable : Content → Fault → Prop
  | notDecodable : IsUnreadable undecodable .notDecodable
  | numeralTooLong {value : Text} {digits : Nat} (long : numeralLimit < digits)
      (fails : Json.read value = .error (.numeralTooLong digits)) :
      IsUnreadable (text value) (.numeralTooLong digits)
  | nestedTooDeep {value : Text} (fails : Json.read value = .error .nestedTooDeep) :
      IsUnreadable (text value) .nestedTooDeep

theorem Content.isUnreadable_iff {content : Content} {fault : Fault} :
    content.IsUnreadable fault ↔ content.asJson = .error fault ∧ fault.isSettled = false := by
  constructor
  · intro unreadable
    cases unreadable with
    | notDecodable => exact ⟨rfl, rfl⟩
    | numeralTooLong long fails => exact ⟨fails, rfl⟩
    | nestedTooDeep fails => exact ⟨fails, rfl⟩
  · rintro ⟨fails, reported⟩
    cases content with
    | undecodable =>
      cases fails
      exact .notDecodable
    | text value =>
      cases Json.isReadingFault_of_read fails with
      | malformed => cases reported
      | nestedTooDeep => exact .nestedTooDeep fails
      | numeralTooLong long => exact .numeralTooLong long fails

/-! ### Faults of writing -/

theorem isSettled_of_writeInteger {value : Int} {fault : Fault}
    (fails : writeInteger value = .error fault) : fault.isSettled = false := by
  obtain ⟨-, rfl⟩ := writeInteger_eq_error_iff.mp fails
  rfl

namespace Json

theorem isSettled_of_scalarText {value : Scalar} {fault : Fault}
    (fails : scalarText value = .error fault) : fault.isSettled = false := by
  cases value with
  | integer value => exact isSettled_of_writeInteger fails
  | boolean value => cases value <;> cases fails
  | _ =>
    cases fails
    try rfl

theorem isSettled_of_scalarLiteral {value : Scalar} {fault : Fault}
    (fails : scalarLiteral value = .error fault) : fault.isSettled = false := by
  unfold scalarLiteral at fails
  split at fails
  · cases fails
  · exact isSettled_of_scalarText fails

mutual

/-- Whatever a document holds, that it cannot be written is no matter of the files. -/
theorem isSettled_of_write (level : Level) (document : Document) {fault : Fault}
    (fails : write level document = .error fault) : fault.isSettled = false := by
  cases document with
  | scalar value =>
    rw [write] at fails
    exact isSettled_of_scalarLiteral fails
  | list items =>
    rw [write] at fails
    rcases bind_eq_error_iff.mp fails with fails | ⟨_, -, impossible⟩
    · exact isSettled_of_writeItems level.deeper items fails
    · cases impossible
  | mapping entries =>
    rw [write] at fails
    rcases bind_eq_error_iff.mp fails with fails | ⟨_, -, impossible⟩
    · exact isSettled_of_writeEntries level.deeper entries fails
    · cases impossible
  | set items =>
    rw [write] at fails
    cases fails
    rfl
  | pair first second =>
    rw [write] at fails
    rcases bind_eq_error_iff.mp fails with fails | ⟨_, -, fails⟩
    · exact isSettled_of_write level.deeper first fails
    · rcases bind_eq_error_iff.mp fails with fails | ⟨_, -, impossible⟩
      · exact isSettled_of_write level.deeper second fails
      · cases impossible

theorem isSettled_of_writeItems (level : Level) (items : List Document) {fault : Fault}
    (fails : writeItems level items = .error fault) : fault.isSettled = false := by
  cases items with
  | nil => cases fails
  | cons item rest =>
    rw [writeItems] at fails
    rcases bind_eq_error_iff.mp fails with fails | ⟨_, -, fails⟩
    · exact isSettled_of_write level item fails
    · rcases bind_eq_error_iff.mp fails with fails | ⟨_, -, impossible⟩
      · exact isSettled_of_writeItems level rest fails
      · cases impossible

theorem isSettled_of_writeEntries (level : Level) (entries : List (Scalar × Document))
    {fault : Fault} (fails : writeEntries level entries = .error fault) :
    fault.isSettled = false := by
  cases entries with
  | nil => cases fails
  | cons entry rest =>
    obtain ⟨key, value⟩ := entry
    rw [writeEntries] at fails
    rcases bind_eq_error_iff.mp fails with fails | ⟨_, -, fails⟩
    · exact isSettled_of_scalarText (map_eq_error_iff.mp fails)
    rcases bind_eq_error_iff.mp fails with fails | ⟨_, -, fails⟩
    · exact isSettled_of_write level value fails
    rcases bind_eq_error_iff.mp fails with fails | ⟨_, -, impossible⟩
    · exact isSettled_of_writeEntries level rest fails
    · cases impossible

end

theorem isSettled_of_indented {document : Document} {fault : Fault}
    (fails : indented document = .error fault) : fault.isSettled = false := by
  unfold indented at fails
  split at fails
  · exact isSettled_of_write _ document fails
  · cases fails
    rfl

end Json

namespace Settings

/-- Reading a file that is found faults with a report exactly if its content is unreadable. -/
theorem readStored_eq_error_iff {tree : FileTree} {path : Path} {entry : Entry} {fault : Fault}
    (isFound : tree.find path = .ok entry) :
    (readStored tree path = .error fault ∧ fault.isSettled = false) ↔
      ∃ content, entry = .file content ∧ content.IsUnreadable fault := by
  simp only [Content.isUnreadable_iff]
  cases entry with
  | directory =>
    have isRead : readStored tree path = .error .isDirectory := by
      rw [readStored, FileTree.read, isFound]
      rfl
    rw [isRead]
    constructor
    · rintro ⟨same, reported⟩
      cases same
      cases reported
    · rintro ⟨content, same, -⟩
      cases same
  | file content =>
    have isRead : readStored tree path = content.asJson := by
      rw [readStored, FileTree.read_eq_ok_iff.mpr isFound]
      rfl
    rw [isRead]
    constructor
    · exact fun fails => ⟨content, rfl, fails⟩
    · rintro ⟨_, same, fails⟩
      obtain rfl := Entry.file.inj same
      exact fails

/-! ### Loading -/

/-- Why loading from a path ends in a fault. -/
inductive LoadFails (files : FileTree) (path : Path) : Fault → Prop
  | nameTooLong (fails : files.find path = .error .nameTooLong) : LoadFails files path .nameTooLong
  | unreadable {content : Content} {fault : Fault} (isFile : files.find path = .ok (.file content))
      (isUnreadable : content.IsUnreadable fault) : LoadFails files path fault

theorem load_eq_error_iff {settings : Settings} {files : FileTree} {path : Option Path}
    {fault : Fault} :
    (settings.load files path).1 = .error fault ↔
      LoadFails files (settings.withPath path).path fault := by
  simp only [load]
  constructor
  · intro fails
    split at fails
    · next isMissing =>
      cases fails
      obtain ⟨tooLong, rfl⟩ := FileTree.isPresent_eq_error_iff.mp isMissing
      exact .nameTooLong tooLong
    · cases fails
    · next isPresent =>
      obtain ⟨entry, isFound⟩ := FileTree.isPresent_eq_true_iff.mp isPresent
      split at fails
      · next notRead =>
        obtain ⟨reported, rfl⟩ := settle_eq_error_iff.mp fails
        obtain ⟨content, rfl, isUnreadable⟩ :=
          (readStored_eq_error_iff isFound).mp ⟨notRead, reported⟩
        exact .unreadable isFound isUnreadable
      · split at fails <;> cases fails
  · intro fails
    cases fails with
    | nameTooLong tooLong =>
      rw [FileTree.isPresent_eq_error_iff.mpr ⟨tooLong, rfl⟩]
    | unreadable isFile isUnreadable =>
      obtain ⟨notRead, reported⟩ :=
        (readStored_eq_error_iff isFile).mpr ⟨_, rfl, isUnreadable⟩
      rw [FileTree.isPresent_eq_true_iff.mpr ⟨_, isFile⟩, notRead]
      exact settle_eq_error_iff.mpr ⟨reported, rfl⟩

/-! ### Saving -/

/-- Why saving settings to their path ends in a fault. -/
inductive SaveFails (settings : Settings) (files : FileTree) : Fault → Prop
  | nullInDirectory (hasNull : settings.path.parent.hasNull) :
      SaveFails settings files .nullInPath
  | nullInName {tree : FileTree}
      (directories : files.makeDirectories settings.path.parent = (tree, .ok ()))
      (hasNull : settings.path.hasNull) : SaveFails settings files .nullInPath
  | unreadable {tree : FileTree} {content : Content} {fault : Fault}
      (directories : files.makeDirectories settings.path.parent = (tree, .ok ()))
      (isFile : tree.find settings.path = .ok (.file content))
      (isUnreadable : content.IsUnreadable fault) : SaveFails settings files fault
  | notMapping {tree : FileTree} {stored : Document}
      (directories : files.makeDirectories settings.path.parent = (tree, .ok ()))
      (isStored : readStored tree settings.path = .ok stored)
      (isOther : ∀ sections, stored ≠ .mapping sections) : SaveFails settings files .wrongKind
  | unwritable {tree written : FileTree} {sections : List (Scalar × Document)} {fault : Fault}
      (directories : files.makeDirectories settings.path.parent = (tree, .ok ()))
      (isRead : storedSections tree settings.path = .ok sections)
      (isOpen : tree.write settings.path (.text []) = .ok written)
      (fails : Json.indented (settings.store sections) = .error fault) :
      SaveFails settings files fault

/-- The sections of a file cannot be read if its name is too long, if it cannot be read as
JSON, or if it holds JSON that is no mapping. -/
theorem storedSections_eq_error_iff {tree : FileTree} {path : Path} {fault : Fault} :
    storedSections tree path = .error fault ↔
      tree.find path = .error .nameTooLong ∧ fault = .nameTooLong ∨
        ∃ entry, tree.find path = .ok entry ∧
          (readStored tree path = .error fault ∨
            ∃ stored, readStored tree path = .ok stored ∧
              (∀ sections, stored ≠ .mapping sections) ∧ fault = .wrongKind) := by
  rw [storedSections, bind_eq_error_iff, FileTree.isPresent_eq_error_iff]
  refine or_congr_right ?_
  constructor
  · rintro ⟨isThere, isPresent, fails⟩
    cases isThere with
    | false => cases fails
    | true =>
      obtain ⟨entry, isFound⟩ := FileTree.isPresent_eq_true_iff.mp isPresent
      refine ⟨entry, isFound, ?_⟩
      rcases bind_eq_error_iff.mp fails with notRead | ⟨stored, isStored, isOther⟩
      · exact .inl notRead
      · refine .inr ⟨stored, isStored, ?_⟩
        split at isOther
        · cases isOther
        · next noMapping => exact ⟨fun sections => noMapping sections,
            (Except.error.inj isOther).symm⟩
  · rintro ⟨entry, isFound, fails⟩
    refine ⟨true, FileTree.isPresent_eq_true_iff.mpr ⟨entry, isFound⟩, bind_eq_error_iff.mpr ?_⟩
    rcases fails with notRead | ⟨stored, isStored, isOther, rfl⟩
    · exact .inl notRead
    · refine .inr ⟨stored, isStored, ?_⟩
      split
      · next sections => exact absurd rfl (isOther sections)
      · rfl

theorem saveFails_of_savesAs {settings : Settings} {files : FileTree} {saved : Saved}
    {fault : Fault} (savesAs : settings.SavesAs files saved) (fails : saved.outcome = .error fault) :
    SaveFails settings files fault := by
  cases savesAs with
  | noDirectory directories =>
    obtain ⟨reported, rfl⟩ := settle_eq_error_iff.mp fails
    rcases FileTree.makeDirectories_eq_error directories with ⟨hasNull, rfl⟩ | settled
    · exact .nullInDirectory hasNull
    · rw [settled] at reported
      cases reported
  | notRead directories notRead =>
    obtain ⟨reported, rfl⟩ := settle_eq_error_iff.mp fails
    rcases storedSections_eq_error_iff.mp notRead with
      ⟨-, rfl⟩ | ⟨entry, isFound, notStored | ⟨stored, isStored, isOther, rfl⟩⟩
    · cases reported
    · obtain ⟨content, rfl, isUnreadable⟩ :=
        (readStored_eq_error_iff isFound).mp ⟨notStored, reported⟩
      exact .unreadable directories isFound isUnreadable
    · exact .notMapping directories isStored isOther
  | notOpened directories isRead notOpened =>
    obtain ⟨reported, rfl⟩ := settle_eq_error_iff.mp fails
    rcases FileTree.write_eq_error notOpened with ⟨hasNull, rfl⟩ | settled
    · exact .nullInName directories hasNull
    · rw [settled] at reported
      cases reported
  | notMade directories isRead notMade isOpen =>
    obtain ⟨-, rfl⟩ := settle_eq_error_iff.mp fails
    exact .unwritable directories isRead isOpen notMade
  | saved => cases fails

theorem save_eq_error_iff {settings : Settings} {files : FileTree} {path : Option Path}
    {fault : Fault} :
    (settings.save files path).outcome = .error fault ↔
      SaveFails (settings.withPath path) files fault := by
  refine ⟨saveFails_of_savesAs (settings.savesAs_save files path), fun fails => ?_⟩
  simp only [save]
  cases fails with
  | nullInDirectory hasNull => rw [files.makeDirectories_of_hasNull hasNull]; rfl
  | @nullInName tree directories hasNull =>
    have isRead := storedSections_eq_ok_iff.mpr (.inl ⟨tree.isPresent_of_hasNull hasNull, rfl⟩)
    simp only [directories, isRead, FileTree.writeMade, tree.write_of_hasNull hasNull]
    rfl
  | unreadable directories isFile isUnreadable =>
    obtain ⟨notStored, reported⟩ :=
      (readStored_eq_error_iff isFile).mpr ⟨_, rfl, isUnreadable⟩
    have notRead := storedSections_eq_error_iff.mpr (.inr ⟨_, isFile, .inl notStored⟩)
    simp only [directories, notRead]
    exact settle_eq_error_iff.mpr ⟨reported, rfl⟩
  | notMapping directories isStored isOther =>
    obtain ⟨content, isFile, -⟩ := readStored_eq_ok_iff.mp isStored
    have notRead := storedSections_eq_error_iff.mpr
      (.inr ⟨_, isFile, .inr ⟨_, isStored, isOther, rfl⟩⟩)
    simp only [directories, notRead]
    rfl
  | unwritable directories isRead isOpen fails =>
    simp only [directories, isRead, FileTree.writeMade, fails, Except.toOption, Option.getD_none,
      isOpen]
    exact settle_eq_error_iff.mpr ⟨Json.isSettled_of_indented fails, rfl⟩

/-- Loading and saving end in a fault exactly for these reasons. -/
theorem endsInFault_iff (settings : Settings) (files : FileTree) (path : Option Path)
    (fault : Fault) :
    ((settings.load files path).1 = .error fault ↔
      LoadFails files (settings.withPath path).path fault) ∧
    ((settings.save files path).outcome = .error fault ↔
      SaveFails (settings.withPath path) files fault) :=
  ⟨load_eq_error_iff, save_eq_error_iff⟩

/-- Bytes that are no text make loading fault, though a text that is no JSON does not. -/
example :
    (initial.load (FileTree.empty.place defaultPath .undecodable) none).1 = .error .notDecodable ∧
      (initial.load (FileTree.empty.place defaultPath (.text ['['])) none).1 = .ok false := by
  decide +kernel

end Settings

end RadioCall
