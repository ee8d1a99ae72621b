/-
This file says what happens to a tree of files. Making directories adds directories where there
was nothing and leaves all else as it is, so a path that led to something leads to it still. A
file that was written is found again, and no other place has changed.
-/

import RadioCall.File.Tree
import RadioCall.Proofs.Checked
import RadioCall.Proofs.Document.Table

namespace RadioCall

namespace FileTree

/-! ### Places -/

theorem entry?_put {tree : FileTree} {location : Location} (isBelow : ¬tree.isWorking location)
    (entry : Entry) (other : Location) :
    FileTree.entry? (tree.put location entry) other =
      if other = location then some entry else tree.entry? other := by
  have sameWorking : (tree.put location entry).isWorking other = tree.isWorking other := rfl
  rw [FileTree.entry?, sameWorking, put, Table.lookup_put]
  by_cases same : other = location
  · rw [if_neg (same ▸ isBelow), if_pos (beq_iff_eq.mpr same), if_pos same]
  · rw [if_neg (beq_iff_eq.not.mpr same), if_neg same, entry?]

/-- The working directory and those above it are always there. -/
theorem isBelow_of_ne_directory {tree : FileTree} {location : Location}
    (other : tree.entry? location ≠ some .directory) : ¬tree.isWorking location :=
  fun isTop => other (if_pos isTop)

/-! ### Added directories -/

/-- Whether a tree comes from another one by adding directories where there was nothing. -/
structure OnlyAddsDirectories (before after : FileTree) : Prop where
  installed_eq : after.installed = before.installed
  working_eq : after.working = before.working
  entry?_cases : ∀ location, after.entry? location = before.entry? location ∨
    before.entry? location = none ∧ after.entry? location = some .directory

namespace OnlyAddsDirectories

variable {before between after : FileTree}

theorem refl (tree : FileTree) : OnlyAddsDirectories tree tree :=
  ⟨rfl, rfl, fun _ => .inl rfl⟩

theorem trans (first : OnlyAddsDirectories before between)
    (second : OnlyAddsDirectories between after) : OnlyAddsDirectories before after := by
  refine ⟨second.installed_eq.trans first.installed_eq,
    second.working_eq.trans first.working_eq, fun location => ?_⟩
  rcases first.entry?_cases location with same | ⟨missing, added⟩
  · rw [← same]
    exact second.entry?_cases location
  · refine .inr ⟨missing, ?_⟩
    rcases second.entry?_cases location with same | ⟨_, isDirectory⟩
    · rw [same, added]
    · exact isDirectory

theorem entry?_eq (adds : OnlyAddsDirectories before after) {location : Location} {entry : Entry}
    (isThere : before.entry? location = some entry) : after.entry? location = some entry := by
  rcases adds.entry?_cases location with same | ⟨missing, _⟩
  · rw [same, isThere]
  · rw [missing] at isThere
    cases isThere

theorem entry?_eq_none (adds : OnlyAddsDirectories before after) {location : Location}
    (missing : after.entry? location = none) : before.entry? location = none := by
  rcases adds.entry?_cases location with same | ⟨_, isDirectory⟩
  · rw [← same, missing]
  · rw [missing] at isDirectory
    cases isDirectory

/-- The files are the same. -/
theorem file_iff (adds : OnlyAddsDirectories before after) {location : Location}
    {content : Content} :
    after.entry? location = some (.file content) ↔ before.entry? location = some (.file content) := by
  refine ⟨fun isFile => ?_, adds.entry?_eq⟩
  rcases adds.entry?_cases location with same | ⟨_, isDirectory⟩
  · rw [← same, isFile]
  · rw [isFile] at isDirectory
    cases isDirectory

end OnlyAddsDirectories

theorem onlyAddsDirectories_put {tree : FileTree} {location : Location}
    (missing : tree.entry? location = none) :
    OnlyAddsDirectories tree (tree.put location .directory) := by
  refine ⟨rfl, rfl, fun other => ?_⟩
  rw [entry?_put (isBelow_of_ne_directory (by rw [missing]; nofun))]
  split
  · next same => exact .inr ⟨same ▸ missing, rfl⟩
  · exact .inl rfl

/-- Whether it succeeds or not, making directories adds directories only. -/
theorem onlyAddsDirectories_makeSteps (tree : FileTree) (location : Location) (steps : List Step) :
    OnlyAddsDirectories tree (tree.makeSteps location steps).1 := by
  induction steps generalizing tree location with
  | nil => exact .refl tree
  | cons step rest ih =>
    rw [makeSteps]
    split
    · exact .refl tree
    · split
      · exact ih tree _
      · exact .refl tree
      · next missing => exact (onlyAddsDirectories_put missing).trans (ih _ _)

theorem onlyAddsDirectories_makeDirectories (tree : FileTree) (path : Path) :
    OnlyAddsDirectories tree (tree.makeDirectories path).1 := by
  unfold makeDirectories
  split
  · exact .refl tree
  · exact onlyAddsDirectories_makeSteps tree _ _

/-! ### Paths -/

theorem follow_eq_ok_iff {tree : FileTree} {location next : Location} {step : Step} :
    tree.follow location step = .ok next ↔
      tree.entry? location = some .directory ∧ ¬step.isTooLong ∧ next = location.follow step := by
  unfold follow
  split
  · next isDirectory =>
    split
    · next tooLong => simp [tooLong]
    · next short => simp [isDirectory, short, @eq_comm _ next]
  · next isFile => simp [isFile]
  · next missing => simp [missing]

/-- A path leads to its place, if anywhere. -/
theorem eq_location_of_locate {tree : FileTree} {path : Path} {location : Location}
    (leads : tree.locate path = .ok location) : location = path.location tree.working := by
  obtain ⟨_, -, leads⟩ := bind_eq_ok_iff.mp leads
  rw [Path.location]
  generalize Location.ofRoot tree.working path.root = start at leads ⊢
  generalize path.steps = steps at leads ⊢
  induction steps generalizing start with
  | nil => exact (Except.ok.inj leads).symm
  | cons step rest ih =>
    rw [List.foldlM_cons] at leads
    obtain ⟨next, follows, leads⟩ := bind_eq_ok_iff.mp leads
    rw [List.foldl_cons, ← (follow_eq_ok_iff.mp follows).2.2]
    exact ih next leads

/-- Where all directories are kept, a path leads to the same place. -/
theorem locate_of_keepsDirectories {before after : FileTree}
    (sameWorking : after.working = before.working)
    (keeps : ∀ location, before.entry? location = some .directory →
      after.entry? location = some .directory)
    {path : Path} {location : Location} (leads : before.locate path = .ok location) :
    after.locate path = .ok location := by
  obtain ⟨_, isChecked, leads⟩ := bind_eq_ok_iff.mp leads
  refine bind_eq_ok_iff.mpr ⟨(), isChecked, ?_⟩
  rw [sameWorking]
  generalize Location.ofRoot before.working path.root = start at leads ⊢
  generalize path.steps = steps at leads ⊢
  induction steps generalizing start with
  | nil => exact leads
  | cons step rest ih =>
    rw [List.foldlM_cons] at leads
    obtain ⟨next, follows, leads⟩ := bind_eq_ok_iff.mp leads
    obtain ⟨isDirectory, short, same⟩ := follow_eq_ok_iff.mp follows
    rw [List.foldlM_cons]
    exact bind_eq_ok_iff.mpr
      ⟨next, follow_eq_ok_iff.mpr ⟨keeps start isDirectory, short, same⟩, ih next leads⟩

theorem find_eq_ok_iff {tree : FileTree} {path : Path} {entry : Entry} :
    tree.find path = .ok entry ↔
      ∃ location, tree.locate path = .ok location ∧ tree.entry? location = some entry := by
  unfold find
  rw [bind_eq_ok_iff]
  refine exists_congr fun location => and_congr_right fun _ => ?_
  split
  · next isThere => rw [isThere, Except.ok.injEq, Option.some.injEq]
  · next missing => rw [missing]; exact ⟨nofun, nofun⟩

/-- What a path leads to is at its place. -/
theorem entry?_of_find {tree : FileTree} {path : Path} {entry : Entry}
    (isFound : tree.find path = .ok entry) :
    tree.entry? (path.location tree.working) = some entry := by
  obtain ⟨location, leads, isThere⟩ := find_eq_ok_iff.mp isFound
  rw [← eq_location_of_locate leads]
  exact isThere

theorem read_eq_ok_iff {tree : FileTree} {path : Path} {content : Content} :
    tree.read path = .ok content ↔ tree.find path = .ok (.file content) := by
  unfold read
  rw [bind_eq_ok_iff]
  constructor
  · rintro ⟨entry, isFound, isContent⟩
    cases entry with
    | directory => cases isContent
    | file present =>
      obtain rfl := Except.ok.inj isContent
      exact isFound
  · exact fun isFound => ⟨_, isFound, rfl⟩

theorem isPresent_eq_true_iff {tree : FileTree} {path : Path} :
    tree.isPresent path = .ok true ↔ ∃ entry, tree.find path = .ok entry := by
  unfold isPresent
  split
  · next entry isFound => exact iff_of_true rfl ⟨entry, isFound⟩
  · next tooLong => simp [tooLong]
  · next missing => simp [missing]

/-! ### Writing -/

/-- A file is written where the path leads, unless there is a directory. -/
theorem write_eq_ok_iff {tree written : FileTree} {path : Path} {content : Content} :
    tree.write path content = .ok written ↔
      ∃ location, tree.locate path = .ok location ∧ tree.entry? location ≠ some .directory ∧
        written = tree.put location (.file content) := by
  unfold write
  rw [bind_eq_ok_iff]
  refine exists_congr fun location => and_congr_right fun _ => ?_
  split
  · next isDirectory => simp [isDirectory]
  · next other =>
    rw [Except.ok.injEq, @eq_comm _ written]
    exact ⟨fun same => ⟨other, same⟩, And.right⟩

/-- Writing a file changes no other place. -/
theorem entry?_of_write {tree written : FileTree} {path : Path} {content : Content}
    (isWritten : tree.write path content = .ok written) (other : Location) :
    written.entry? other =
      if other = path.location tree.working then some (.file content) else tree.entry? other := by
  obtain ⟨location, leads, noDirectory, rfl⟩ := write_eq_ok_iff.mp isWritten
  rw [entry?_put (isBelow_of_ne_directory noDirectory), eq_location_of_locate leads]

theorem installed_of_write {tree written : FileTree} {path : Path} {content : Content}
    (isWritten : tree.write path content = .ok written) : written.installed = tree.installed := by
  obtain ⟨_, -, -, rfl⟩ := write_eq_ok_iff.mp isWritten
  rfl

theorem working_of_write {tree written : FileTree} {path : Path} {content : Content}
    (isWritten : tree.write path content = .ok written) : written.working = tree.working := by
  obtain ⟨_, -, -, rfl⟩ := write_eq_ok_iff.mp isWritten
  rfl

/-- Wherever a file is put, the program is installed and works in the same directories. -/
theorem installed_working_place (tree : FileTree) (path : Path) (content : Content) :
    (tree.place path content).installed = tree.installed ∧
      (tree.place path content).working = tree.working := by
  have adds := tree.onlyAddsDirectories_makeDirectories path.parent
  unfold place
  split
  · next isWritten =>
    exact ⟨(installed_of_write isWritten).trans adds.installed_eq,
      (working_of_write isWritten).trans adds.working_eq⟩
  · exact ⟨rfl, rfl⟩

/-- A file that was written is read as it was written. -/
theorem find_of_write {tree written : FileTree} {path : Path} {content : Content}
    (isWritten : tree.write path content = .ok written) :
    written.find path = .ok (.file content) := by
  have places := entry?_of_write isWritten
  obtain ⟨location, leads, noDirectory, -⟩ := write_eq_ok_iff.mp isWritten
  obtain rfl := eq_location_of_locate leads
  refine find_eq_ok_iff.mpr ⟨path.location tree.working, ?_, by rw [places, if_pos rfl]⟩
  refine locate_of_keepsDirectories (working_of_write isWritten)
    (fun other isDirectory => ?_) leads
  have elsewhere : other ≠ path.location tree.working := by
    rintro rfl
    exact noDirectory isDirectory
  rw [places, if_neg elsewhere, isDirectory]

end FileTree

end RadioCall
