/-
This file follows the shared settings through calls that take them, resets, and files that change
in between. Beside the run stands what the first call since the last reset found. That call alone
loads; every later one gives out what it left, whatever the files are by then. A load that ends in
a fault leaves the first settings behind, so the call after it gives these out as if they had been
loaded.
-/

import Mathlib.Data.List.Induction
import RadioCall.Proofs.Settings.Failure
import RadioCall.Settings.Session

namespace RadioCall

/-! ### One call -/

/-- A load that ends in a fault leaves the settings as they were, but for the path. -/
theorem Settings.load_eq_of_fault {settings : Settings} {files : FileTree} {path : Option Path}
    {fault : Fault} (fails : (settings.load files path).1 = .error fault) :
    (settings.load files path).2 = settings.withPath path := by
  rcases settings.load_cases files path with ⟨entries, -, loaded⟩ | ⟨-, outcome, -, loaded⟩
  · rw [loaded] at fails
    cases fails
  · rw [loaded]

namespace Session

/-- What the shared settings are, if there are any. -/
def shared? (session : Session) : Option Settings :=
  match session.shared with
  | .unset => none
  | .current => some session.current
  | .other settings => some settings

/-- Settings that are shared already are given out, and the files are left alone. -/
theorem takeShared_of_shared {session : Session} {settings : Settings}
    (isShared : session.shared? = some settings) :
    ∃ wereAtHand, session.takeShared = session.give settings wereAtHand := by
  rw [shared?] at isShared
  rw [takeShared]
  split at isShared
  · cases isShared
  · next isCurrent =>
    obtain rfl := Option.some.inj isShared
    exact ⟨true, by rw [isCurrent]⟩
  · next isOther =>
    obtain rfl := Option.some.inj isShared
    exact ⟨false, by rw [isOther]⟩

/-- Settings that are not shared yet are loaded, and shared from then on even if that faults. -/
theorem takeShared_of_unset {session : Session} (unset : session.shared? = none) :
    let load := Settings.initial.load session.tree none
    session.takeShared.1 = load.1.map (fun _ => ⟨load.2, false⟩) ∧
      session.takeShared.2.shared? = some load.2 := by
  have isUnset : session.shared = .unset := by
    rw [shared?] at unset
    split at unset
    · next isUnset => exact isUnset
    · cases unset
    · cases unset
  simp only [takeShared, isUnset]
  cases Settings.initial.load session.tree none with
  | mk outcome settings => cases outcome <;> exact ⟨rfl, rfl⟩

end Session

/-! ### Runs -/

/-- What can happen to the shared settings: a call that takes them, a reset, a change of the
files. -/
inductive SharedEvent
  | take
  | reset
  | replaceFiles (files : FileTree)

/-- A session, with the files that the first call since the last reset found. -/
structure SharedRun where
  session : Session
  found? : Option FileTree

namespace SharedRun

/-- The files that count for a call: those that the first call since the last reset found, be it
this one. -/
def found (run : SharedRun) : FileTree :=
  run.found?.getD run.session.tree

/-- One event of a run. -/
def step (run : SharedRun) : SharedEvent → SharedRun
  | .take => ⟨run.session.takeShared.2, some run.found⟩
  | .reset => ⟨run.session.resetShared, none⟩
  | .replaceFiles files => ⟨{ run.session with tree := files }, run.found?⟩

/-- The run of events over the files that are there at first, before anything is shared. -/
def after (files : FileTree) (events : List SharedEvent) : SharedRun :=
  events.foldl step ⟨{ Session.start with tree := files }, none⟩

theorem after_concat (files : FileTree) (events : List SharedEvent) (event : SharedEvent) :
    after files (events ++ [event]) = (after files events).step event := by
  rw [after, List.foldl_append]
  rfl

/-- Only a reset makes a run forget what its first call found. -/
theorem found?_after_append {files found : FileTree} {events later : List SharedEvent}
    (isFound : (after files events).found? = some found) (noReset : SharedEvent.reset ∉ later) :
    (after files (events ++ later)).found? = some found := by
  induction later using List.reverseRecOn with
  | nil => rwa [List.append_nil]
  | append_singleton later event ih =>
    have before := ih fun member => noReset (List.mem_append_left _ member)
    rw [← List.append_assoc, after_concat]
    cases event with
    | take =>
      rw [step, SharedRun.found, before]
      rfl
    | reset => exact absurd (List.mem_append_right _ (List.mem_singleton_self _)) noReset
    | replaceFiles others => exact before

/-! ### The shared settings over a run -/

/-- The shared settings are what a load left of the files that the first call found. -/
def IsLoaded (run : SharedRun) : Prop :=
  run.session.shared? = run.found?.map fun files => (Settings.initial.load files none).2

theorem IsLoaded.step {run : SharedRun} (isLoaded : run.IsLoaded) (event : SharedEvent) :
    (run.step event).IsLoaded := by
  cases event with
  | reset => rfl
  | replaceFiles files => exact isLoaded
  | take =>
    rw [IsLoaded] at isLoaded ⊢
    rw [SharedRun.step, found]
    cases isFound : run.found? with
    | none =>
      rw [isFound] at isLoaded
      exact (Session.takeShared_of_unset isLoaded).2
    | some files =>
      rw [isFound] at isLoaded
      obtain ⟨_, taken⟩ := Session.takeShared_of_shared isLoaded
      rw [taken]
      rfl

theorem isLoaded_after (files : FileTree) (events : List SharedEvent) :
    (after files events).IsLoaded := by
  induction events using List.reverseRecOn with
  | nil => rfl
  | append_singleton events event ih =>
    rw [after_concat]
    exact ih.step event

/-- Once a call was made, every call gives out what the load of the first one left. -/
theorem takeShared_of_found {files found : FileTree} {events : List SharedEvent}
    (isFound : (after files events).found? = some found) :
    ∃ given, (after files events).session.takeShared.1 = .ok given ∧
      given.settings = (Settings.initial.load found none).2 := by
  have isLoaded := isLoaded_after files events
  rw [IsLoaded, isFound] at isLoaded
  obtain ⟨wereAtHand, taken⟩ := Session.takeShared_of_shared isLoaded
  rw [taken]
  exact ⟨_, rfl, rfl⟩

/-- The first call since a reset faults as its load does, or else gives out what it left. -/
theorem takeShared_of_not_found {files : FileTree} {events : List SharedEvent}
    (notFound : (after files events).found? = none) :
    let load := Settings.initial.load (after files events).found none
    (after files events).session.takeShared.1 = load.1.map (fun _ => ⟨load.2, false⟩) := by
  have isLoaded := isLoaded_after files events
  rw [IsLoaded, notFound] at isLoaded
  simp only [found, notFound, Option.getD_none]
  exact (Session.takeShared_of_unset isLoaded).1

/-- A call faults if it is the first one since the last reset and its load faults. -/
theorem takeShared_eq_error_iff {files : FileTree} {events : List SharedEvent} {fault : Fault} :
    (after files events).session.takeShared.1 = .error fault ↔
      (after files events).found? = none ∧
        Settings.LoadFails (after files events).found Settings.defaultPath fault := by
  have failsIff : (Settings.initial.load (after files events).found none).1 = .error fault ↔
      Settings.LoadFails (after files events).found Settings.defaultPath fault :=
    Settings.load_eq_error_iff
  rw [← failsIff]
  cases isFound : (after files events).found? with
  | none =>
    rw [takeShared_of_not_found isFound]
    cases (Settings.initial.load (after files events).found none).1 <;> simp [Except.map]
  | some found =>
    obtain ⟨given, isGiven, -⟩ := takeShared_of_found isFound
    rw [isGiven]
    simp

/-- What a call gives out is what the load of the first one since the last reset left. -/
theorem settings_of_takeShared_eq_ok {files : FileTree} {events : List SharedEvent}
    {given : GivenSettings} (isGiven : (after files events).session.takeShared.1 = .ok given) :
    given.settings = (Settings.initial.load (after files events).found none).2 := by
  cases isFound : (after files events).found? with
  | none =>
    rw [takeShared_of_not_found isFound] at isGiven
    obtain ⟨_, -, rfl⟩ := map_eq_ok_iff.mp isGiven
    rfl
  | some found =>
    obtain ⟨other, isOther, isLeft⟩ := takeShared_of_found isFound
    rw [isGiven] at isOther
    obtain rfl := Except.ok.inj isOther
    have sameFiles : (after files events).found = found := by
      rw [SharedRun.found, isFound]
      rfl
    rw [isLeft, sameFiles]

/-- A call faults exactly if it is the first one since the last reset and the file it finds
cannot be loaded; otherwise it gives out what the load left. After it, until the next reset, every
call gives out what this load left, and if the load had ended in a fault, these are the first
settings. -/
theorem takeShared_after (files : FileTree) (events : List SharedEvent) :
    let run := after files events
    let left := (Settings.initial.load run.found none).2
    (∀ fault, run.session.takeShared.1 = .error fault ↔
      run.found? = none ∧ Settings.LoadFails run.found Settings.defaultPath fault) ∧
    (∀ given, run.session.takeShared.1 = .ok given → given.settings = left) ∧
    (∀ later, SharedEvent.reset ∉ later →
      ∃ given, (after files (events ++ .take :: later)).session.takeShared.1 = .ok given ∧
        given.settings = left) ∧
    ∀ fault, Settings.LoadFails run.found Settings.defaultPath fault → left = .initial := by
  intro run left
  refine ⟨fun _ => takeShared_eq_error_iff, fun _ => settings_of_takeShared_eq_ok,
    fun later noReset => ?_, fun fault fails => ?_⟩
  · have isFound : (after files (events ++ [.take])).found? = some run.found := by
      rw [after_concat]
      rfl
    have stillFound := found?_after_append isFound noReset
    rw [List.append_assoc] at stillFound
    exact takeShared_of_found stillFound
  · exact Settings.load_eq_of_fault (Settings.load_eq_error_iff.mpr fails)

/-- The settings file in the home directory, with bytes that are no text. -/
def brokenFile : FileTree :=
  FileTree.empty.place Settings.defaultPath .undecodable

/-- The settings file in the home directory, with a callsign. -/
def mendedFile : FileTree :=
  FileTree.empty.place Settings.defaultPath
    (.text "\x7b\"gci\": \x7b\"callsign\": \"overlord\"\x7d\x7d".toList)

/-- The first call finds bytes that are no text and faults; the next one gives out the first
settings, although the file could be loaded by then and gives another callsign. -/
theorem takeShared_after_mended :
    (after brokenFile []).session.takeShared.1 = .error .notDecodable ∧
      (∃ given, (after brokenFile [.take, .replaceFiles mendedFile]).session.takeShared.1 =
        .ok given ∧ given.settings = .initial) ∧
        (Settings.initial.load mendedFile none).1 = .ok true := by
  obtain ⟨faultsIff, -, afterwards, leftFirst⟩ := takeShared_after brokenFile []
  have notLoaded : (Settings.initial.load brokenFile none).1 = .error .notDecodable := by
    decide +kernel
  have fails : Settings.LoadFails (after brokenFile []).found Settings.defaultPath .notDecodable :=
    Settings.load_eq_error_iff.mp notLoaded
  obtain ⟨given, isGiven, isLeft⟩ := afterwards [.replaceFiles mendedFile] (by simp)
  refine ⟨(faultsIff _).mpr ⟨rfl, fails⟩, ⟨given, isGiven, ?_⟩, by decide +kernel⟩
  exact isLeft.trans (leftFirst _ fails)

end SharedRun

end RadioCall
