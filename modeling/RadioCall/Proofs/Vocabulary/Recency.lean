/-
This file proves which loads of vocabularies read their files, over whole runs: files are
written and removed and vocabularies are loaded in any order. Beside the run stands the
list of the loads that succeeded, latest first. The cache is the part of this list that
fits into it once each place is kept at its latest load only; each step of a run keeps
this. So where a place stands in the cache is how many other places were loaded after
it, and a load gives the instance of the last load, whatever the files hold by now,
exactly when fewer than eight other places were loaded in between. Every other load gives
what the file holds as it is; a success gives an instance that no load gave before, and
a failure leaves the cache as it was.
-/

import Mathlib.Data.Finset.Card
import Mathlib.Data.Finset.Dedup
import RadioCall.Proofs.File.Tree
import RadioCall.Proofs.Vocabulary.File

namespace RadioCall

/-! ### The latest entry of each key -/

section Latest

variable {κ α : Type} [DecidableEq κ]

/-- The entries of a history, latest first, without those whose key has a later entry. -/
def latest : List (κ × α) → List (κ × α)
  | [] => []
  | entry :: earlier => entry :: (latest earlier).filter fun other => other.1 ≠ entry.1

/-- How many other keys have an entry after the latest entry of a key. -/
def othersSince (key : κ) (history : List (κ × α)) : Nat :=
  ((history.takeWhile fun entry => entry.1 ≠ key).map Prod.fst).toFinset.card

theorem mem_keys_latest {history : List (κ × α)} {key : κ} :
    key ∈ (latest history).map Prod.fst ↔ key ∈ history.map Prod.fst := by
  induction history with
  | nil => exact Iff.rfl
  | cons first earlier ih =>
    by_cases same : key = first.1
    · simp [latest, same]
    · simp only [latest, List.map_cons, List.mem_cons, same, false_or]
      rw [← ih]
      constructor
      · exact fun member => (List.filter_sublist.map _).subset member
      · intro member
        obtain ⟨entry, among, rfl⟩ := List.mem_map.mp member
        exact List.mem_map.mpr ⟨entry, List.mem_filter.mpr ⟨among, decide_eq_true same⟩, rfl⟩

theorem keys_latest_nodup (history : List (κ × α)) :
    ((latest history).map Prod.fst).Nodup := by
  induction history with
  | nil => exact List.nodup_nil
  | cons first earlier ih =>
    refine List.nodup_cons.mpr ⟨?_, ih.sublist (List.filter_sublist.map _)⟩
    intro member
    obtain ⟨entry, among, same⟩ := List.mem_map.mp member
    exact of_decide_eq_true (List.mem_filter.mp among).2 same

theorem lookup_latest (history : List (κ × α)) (key : κ) :
    (latest history).lookup key = history.lookup key := by
  induction history with
  | nil => rfl
  | cons first earlier ih =>
    obtain ⟨name, value⟩ := first
    rw [latest, List.lookup_cons, List.lookup_cons]
    by_cases same : key = name
    · rw [same, beq_self_eq_true]
    · rw [beq_false_of_ne same, lookup_filter_of_ne same, ih]

/-- Up to an entry of one key, entries of another key can be taken out before or after. -/
theorem takeWhile_filter_comm {key other : κ} (apart : key ≠ other)
    (entries : List (κ × α)) :
    (entries.filter fun entry => entry.1 ≠ other).takeWhile (fun entry => entry.1 ≠ key) =
      (entries.takeWhile fun entry => entry.1 ≠ key).filter fun entry => entry.1 ≠ other := by
  induction entries with
  | nil => rfl
  | cons first rest ih =>
    by_cases here : first.1 = key
    · have kept : first.1 ≠ other := here ▸ apart
      rw [List.filter_cons_of_pos (by simpa using kept), List.takeWhile_cons_of_neg (by simpa),
        List.takeWhile_cons_of_neg (by simpa), List.filter_nil]
    · rw [List.takeWhile_cons_of_pos (by simpa)]
      by_cases same : first.1 = other
      · rw [List.filter_cons_of_neg (by simpa), List.filter_cons_of_neg (by simpa),
          ih]
      · rw [List.filter_cons_of_pos (by simpa), List.filter_cons_of_pos (by simpa),
          List.takeWhile_cons_of_pos (by simpa), ih]

theorem takeWhile_latest (history : List (κ × α)) (key : κ) :
    (latest history).takeWhile (fun entry => entry.1 ≠ key) =
      latest (history.takeWhile fun entry => entry.1 ≠ key) := by
  induction history with
  | nil => rfl
  | cons first earlier ih =>
    by_cases here : first.1 = key
    · rw [latest, List.takeWhile_cons_of_neg (by simpa), List.takeWhile_cons_of_neg (by simpa),
        latest]
    · rw [latest, List.takeWhile_cons_of_pos (by simpa), List.takeWhile_cons_of_pos (by simpa),
        latest, takeWhile_filter_comm (Ne.symm here), ih]

/-- The place of a key among the latest entries is the number of the other keys since. -/
theorem length_takeWhile_latest (history : List (κ × α)) (key : κ) :
    ((latest history).takeWhile fun entry => entry.1 ≠ key).length =
      othersSince key history := by
  rw [takeWhile_latest, othersSince]
  have sameKeys : ∀ entries : List (κ × α),
      ((latest entries).map Prod.fst).toFinset = (entries.map Prod.fst).toFinset := by
    intro entries
    ext name
    rw [List.mem_toFinset, List.mem_toFinset, mem_keys_latest]
  rw [← sameKeys, List.toFinset_card_of_nodup (keys_latest_nodup _), List.length_map]

/-- What is beyond the capacity can be dropped before an entry is put in front as well as
after: at most one of the entries within it is taken out for the new one. -/
theorem take_cons_filter_take {entries : List (κ × α)}
    (nodup : (entries.map Prod.fst).Nodup) (entry : κ × α) (count : Nat) :
    (entry :: (entries.take count).filter fun other => other.1 ≠ entry.1).take count =
      (entry :: entries.filter fun other => other.1 ≠ entry.1).take count := by
  cases count with
  | zero => rfl
  | succ count =>
    rw [List.take_succ_cons, List.take_succ_cons]
    congr 1
    induction entries generalizing count with
    | nil => rfl
    | cons first rest ih =>
      obtain ⟨fresh, restNodup⟩ := List.nodup_cons.mp nodup
      rw [List.take_succ_cons]
      by_cases same : first.1 = entry.1
      · have untouched : ∀ other ∈ rest, decide (other.1 ≠ entry.1) = true := by
          intro other member
          refine decide_eq_true fun again => fresh ?_
          exact List.mem_map.mpr ⟨other, member, again.trans same.symm⟩
        rw [List.filter_cons_of_neg (by simpa), List.filter_cons_of_neg (by simpa),
          List.filter_eq_self.mpr untouched, List.filter_eq_self.mpr, List.take_take, Nat.min_self]
        exact fun other member => untouched other (List.mem_of_mem_take member)
      · rw [List.filter_cons_of_pos (by simpa), List.filter_cons_of_pos (by simpa)]
        cases count with
        | zero => rfl
        | succ count =>
          rw [List.take_succ_cons, List.take_succ_cons, ih restNodup]

end Latest

/-! ### What a load can do -/

section

variable {reader : DocumentReader} {tree : FileTree}

/-- A load finds its place in the cache, or else reads the file there and fails or succeeds. -/
theorem VocabularyCache.load_cases (cache : VocabularyCache) (reader : DocumentReader)
    (tree : FileTree) (place : Location) :
    (∃ found, cache.entries.lookup place = some found ∧
      cache.load reader tree place = (.ok found, ⟨cache.remember place found, cache.loaded⟩)) ∨
    (cache.entries.lookup place = none ∧ ∃ fault,
      Vocabulary.read reader tree place = .error fault ∧
      cache.load reader tree place = (.error fault, cache)) ∨
    (cache.entries.lookup place = none ∧ ∃ vocabulary,
      Vocabulary.read reader tree place = .ok vocabulary ∧
      cache.load reader tree place =
        (.ok ⟨cache.loaded, vocabulary⟩,
          ⟨cache.remember place ⟨cache.loaded, vocabulary⟩, cache.loaded + 1⟩)) := by
  unfold load
  cases cache.entries.lookup place with
  | some found => exact Or.inl ⟨found, rfl, rfl⟩
  | none =>
    cases Vocabulary.read reader tree place with
    | error fault => exact Or.inr (Or.inl ⟨rfl, fault, rfl, rfl⟩)
    | ok vocabulary => exact Or.inr (Or.inr ⟨rfl, vocabulary, rfl, rfl⟩)

theorem VocabularyCache.loadPath_of_place_eq_ok {path : Option Path} {place : Location}
    (leads : tree.vocabularyPlace path = .ok place) (cache : VocabularyCache) :
    cache.loadPath reader tree path = cache.load reader tree place := by
  rw [loadPath, leads]

theorem VocabularyCache.loadPath_of_place_eq_error {path : Option Path} {fault : Fault}
    (astray : tree.vocabularyPlace path = .error fault) (cache : VocabularyCache) :
    cache.loadPath reader tree path = (.error fault, cache) := by
  rw [loadPath, astray]

end

/-! ### Runs -/

/-- What can happen to the files and the cache in front of them. -/
inductive CacheEvent
  | write (path : Path) (content : Content)
  | remove (path : Path)
  | load (path : Option Path)

/-- The files and the cache, with the loads that succeeded so far, latest first: the place
of each and the instance that it gave. -/
structure CacheRun where
  tree : FileTree
  cache : VocabularyCache
  loads : List (Location × LoadedVocabulary)

namespace CacheRun

/-- The loads with one more from a place, if that one succeeded. -/
def note (loads : List (Location × LoadedVocabulary)) (place : Except Fault Location)
    (outcome : Except Fault LoadedVocabulary) : List (Location × LoadedVocabulary) :=
  match place, outcome with
  | .ok place, .ok found => (place, found) :: loads
  | _, _ => loads

/-- One event of a run, where documents are read by a reader. -/
def step (reader : DocumentReader) (run : CacheRun) : CacheEvent → CacheRun
  | .write path content => { run with tree := run.tree.place path content }
  | .remove path => { run with tree := run.tree.remove path }
  | .load path =>
    let loaded := run.cache.loadPath reader run.tree path
    ⟨run.tree, loaded.2, note run.loads (run.tree.vocabularyPlace path) loaded.1⟩

/-- The run of events over the files that are there at first, with an empty cache. -/
def after (reader : DocumentReader) (files : FileTree) (events : List CacheEvent) : CacheRun :=
  events.foldl (step reader) ⟨files, .empty, []⟩

/-- A place was loaded, and since its last load fewer than eight others were. -/
def Keeps (run : CacheRun) (place : Location) : Prop :=
  place ∈ run.loads.map Prod.fst ∧ othersSince place run.loads < 8

instance (run : CacheRun) (place : Location) : Decidable (run.Keeps place) :=
  inferInstanceAs (Decidable (_ ∧ _))

/-- A load at a path gives what the last load of its place gave, whatever the files hold and
however they are read. -/
def Recalls (run : CacheRun) (place : Location) (path : Option Path) : Prop :=
  ∃ found, run.loads.lookup place = some found ∧ ∀ reader entries,
    (run.cache.loadPath reader { run.tree with entries := entries } path).1 = .ok found

/-- A load at a path reads the file at its place as it is now: it gives a vocabulary exactly if
the file holds it, and the instance that it gives was given by no load before. -/
structure ReadsAnew (reader : DocumentReader) (run : CacheRun) (place : Location)
    (path : Option Path) : Prop where
  gives_iff : ∀ vocabulary,
    (∃ number, (run.cache.loadPath reader run.tree path).1 = .ok ⟨number, vocabulary⟩) ↔
      HoldsVocabulary reader run.tree place vocabulary
  fails_iff : ∀ fault, (run.cache.loadPath reader run.tree path).1 = .error fault ↔
    Vocabulary.read reader run.tree place = .error fault
  isNew : ∀ found, (run.cache.loadPath reader run.tree path).1 = .ok found →
    ∀ load ∈ run.loads, load.2.number ≠ found.number

/-- A load at a path that ends in a fault leaves the cache as it was. -/
def KeepsCacheOnFault (run : CacheRun) (path : Option Path) : Prop :=
  ∀ reader files fault, (run.cache.loadPath reader files path).1 = .error fault →
    (run.cache.loadPath reader files path).2 = run.cache

/-! ### The cache as a part of the loads -/

/-- The cache holds the latest loads of different places, as many as fit, and counts
beyond the number of every load. -/
structure IsRecent (run : CacheRun) : Prop where
  entries_eq : run.cache.entries = (latest run.loads).take VocabularyCache.capacity
  number_lt : ∀ load ∈ run.loads, load.2.number < run.cache.loaded

section

variable {reader : DocumentReader} {run : CacheRun}

theorem IsRecent.lookup_entries (recent : run.IsRecent) (place : Location) :
    run.cache.entries.lookup place =
      if othersSince place run.loads < 8 then run.loads.lookup place else none := by
  rw [recent.entries_eq, lookup_take, length_takeWhile_latest, lookup_latest]
  rfl

theorem IsRecent.remember_eq (recent : run.IsRecent) (place : Location)
    (found : LoadedVocabulary) :
    run.cache.remember place found =
      (latest ((place, found) :: run.loads)).take VocabularyCache.capacity := by
  rw [VocabularyCache.remember, recent.entries_eq, latest]
  exact take_cons_filter_take (keys_latest_nodup run.loads) (place, found) _

theorem isRecent_start (files : FileTree) : IsRecent ⟨files, .empty, []⟩ :=
  ⟨rfl, fun _ member => absurd member List.not_mem_nil⟩

/-- A load keeps the cache a part of the loads. -/
theorem IsRecent.load (recent : run.IsRecent) (path : Option Path) :
    (run.step reader (.load path)).IsRecent := by
  simp only [step]
  cases leads : run.tree.vocabularyPlace path with
  | error fault =>
    rw [VocabularyCache.loadPath_of_place_eq_error leads]
    exact recent
  | ok place =>
    rw [VocabularyCache.loadPath_of_place_eq_ok leads]
    rcases run.cache.load_cases reader run.tree place with
      ⟨found, kept, loaded⟩ | ⟨-, fault, -, loaded⟩ | ⟨-, vocabulary, -, loaded⟩
    · rw [loaded]
      refine ⟨recent.remember_eq place found, List.forall_mem_cons.mpr ⟨?_, recent.number_lt⟩⟩
      rw [recent.lookup_entries] at kept
      have earlier : run.loads.lookup place = some found :=
        (Option.ite_none_right_eq_some.mp kept).2
      exact recent.number_lt _ (mem_of_lookup_eq_some earlier)
    · rw [loaded]
      exact recent
    · rw [loaded]
      refine ⟨recent.remember_eq place _, List.forall_mem_cons.mpr ⟨Nat.lt_succ_self _, ?_⟩⟩
      exact fun load member => Nat.lt_succ_of_lt (recent.number_lt load member)

/-- Every event keeps the cache a part of the loads. -/
theorem IsRecent.step (recent : run.IsRecent) (event : CacheEvent) :
    (run.step reader event).IsRecent := by
  cases event with
  | write path content => exact ⟨recent.entries_eq, recent.number_lt⟩
  | remove path => exact ⟨recent.entries_eq, recent.number_lt⟩
  | load path => exact recent.load path

theorem isRecent_after (reader : DocumentReader) (files : FileTree) (events : List CacheEvent) :
    (after reader files events).IsRecent := by
  induction events using List.reverseRecOn with
  | nil => exact isRecent_start files
  | append_singleton earlier event ih =>
    rw [after, List.foldl_append]
    exact ih.step event

/-! ### Where paths lead -/

theorem vocabularyPlace_eq_of_same {first second : FileTree}
    (sameProgram : second.installed = first.installed ∧ second.working = first.working)
    (path : Option Path) : second.vocabularyPlace path = first.vocabularyPlace path := by
  rw [FileTree.vocabularyPlace, FileTree.vocabularyPath, sameProgram.1, sameProgram.2]
  rfl

/-- Whatever happens to the files, a path leads to the place that it led to at first. -/
theorem vocabularyPlace_after (reader : DocumentReader) (files : FileTree)
    (events : List CacheEvent) (path : Option Path) :
    (after reader files events).tree.vocabularyPlace path = files.vocabularyPlace path := by
  induction events using List.reverseRecOn with
  | nil => rfl
  | append_singleton earlier event ih =>
    rw [← ih, after, List.foldl_append]
    refine vocabularyPlace_eq_of_same ?_ path
    cases event with
    | write path content => exact FileTree.installed_working_place _ path content
    | remove path => exact ⟨rfl, rfl⟩
    | load path => exact ⟨rfl, rfl⟩

/-! ### Exactly when a load reads its file -/

theorem IsRecent.recalls (recent : run.IsRecent) {path : Option Path} {place : Location}
    (leads : run.tree.vocabularyPlace path = .ok place) (keeps : run.Keeps place) :
    run.Recalls place path := by
  obtain ⟨found, earlier⟩ := exists_lookup_eq_some_iff.mpr keeps.1
  refine ⟨found, earlier, fun reader entries => ?_⟩
  have leadsStill : { run.tree with entries := entries }.vocabularyPlace path = .ok place := leads
  rw [VocabularyCache.loadPath_of_place_eq_ok leadsStill, VocabularyCache.load,
    recent.lookup_entries, if_pos keeps.2, earlier]

theorem IsRecent.readsAnew (recent : run.IsRecent) {path : Option Path} {place : Location}
    (leads : run.tree.vocabularyPlace path = .ok place) (dropped : ¬run.Keeps place) :
    ReadsAnew reader run place path := by
  have absent : run.cache.entries.lookup place = none := by
    rw [recent.lookup_entries]
    refine ite_eq_right_iff.mpr fun few => Option.eq_none_iff_forall_ne_some.mpr ?_
    intro found earlier
    exact dropped ⟨exists_lookup_eq_some_iff.mp ⟨found, earlier⟩, few⟩
  have given : (run.cache.loadPath reader run.tree path).1 =
      (Vocabulary.read reader run.tree place).map (LoadedVocabulary.mk run.cache.loaded) := by
    rw [VocabularyCache.loadPath_of_place_eq_ok leads]
    rcases run.cache.load_cases reader run.tree place with
      ⟨found, kept, -⟩ | ⟨-, fault, unread, loaded⟩ | ⟨-, vocabulary, read, loaded⟩
    · rw [absent] at kept
      cases kept
    · rw [loaded, unread]
      rfl
    · rw [loaded, read]
      rfl
  constructor
  · intro vocabulary
    rw [given, ← Vocabulary.read_eq_ok_iff]
    constructor
    · rintro ⟨number, isGiven⟩
      obtain ⟨other, isRead, same⟩ := map_eq_ok_iff.mp isGiven
      rw [isRead, (LoadedVocabulary.mk.inj same).2]
    · intro isRead
      exact ⟨run.cache.loaded, map_eq_ok_iff.mpr ⟨vocabulary, isRead, rfl⟩⟩
  · intro fault
    rw [given]
    exact map_eq_error_iff
  · intro found isGiven load member
    rw [given] at isGiven
    obtain ⟨vocabulary, -, rfl⟩ := map_eq_ok_iff.mp isGiven
    exact (recent.number_lt load member).ne

/-- A load that reads its file anew does not give what the last load of it gave. -/
theorem ReadsAnew.not_recalls {place : Location} {path : Option Path}
    (anew : ReadsAnew reader run place path) : ¬run.Recalls place path := by
  rintro ⟨found, earlier, recalled⟩
  exact anew.isNew found (recalled reader run.tree.entries) _ (mem_of_lookup_eq_some earlier) rfl

theorem keepsCacheOnFault (run : CacheRun) (path : Option Path) : run.KeepsCacheOnFault path := by
  intro reader files fault failed
  cases leads : files.vocabularyPlace path with
  | error astray => rw [VocabularyCache.loadPath_of_place_eq_error leads]
  | ok place =>
    rw [VocabularyCache.loadPath_of_place_eq_ok leads] at failed ⊢
    rcases run.cache.load_cases reader files place with
      ⟨found, -, loaded⟩ | ⟨-, unread, -, loaded⟩ | ⟨-, vocabulary, -, loaded⟩
    · rw [loaded] at failed
      cases failed
    · rw [loaded]
    · rw [loaded] at failed
      cases failed

end

/-- After any run of file changes and loads, a load at a path gives what the last load of
its place gave, whatever the files hold, exactly when there was one and fewer than eight
other places were loaded since. Otherwise it reads the file at the place as it is now, and what
it gives on success is new. A load that ends in a fault leaves the cache as it was. -/
theorem load_after (reader : DocumentReader) (files : FileTree) (events : List CacheEvent)
    (path : Option Path) :
    (∀ place, files.vocabularyPlace path = .ok place →
      ((after reader files events).Recalls place path ↔
        (after reader files events).Keeps place) ∧
      (¬(after reader files events).Keeps place →
        ReadsAnew reader (after reader files events) place path)) ∧
    (after reader files events).KeepsCacheOnFault path := by
  have recent := isRecent_after reader files events
  refine ⟨fun place leads => ?_, keepsCacheOnFault _ path⟩
  rw [← vocabularyPlace_after reader files events] at leads
  refine ⟨⟨fun recalls => ?_, recent.recalls leads⟩, recent.readsAnew leads⟩
  by_contra dropped
  have anew : ReadsAnew reader (after reader files events) place path :=
    recent.readsAnew leads dropped
  exact anew.not_recalls recalls

/-! ### Eight other files -/

section

variable {reader : DocumentReader} {run : CacheRun}

theorem loads_write (path : Path) (content : Content) :
    (run.step reader (.write path content)).loads = run.loads :=
  rfl

theorem loads_load {path : Option Path} {place : Location} {found : LoadedVocabulary}
    (leads : run.tree.vocabularyPlace path = .ok place)
    (given : (run.cache.loadPath reader run.tree path).1 = .ok found) :
    (run.step reader (.load path)).loads = (place, found) :: run.loads := by
  simp only [step, leads, given, note]

/-- Loads leave the files as they are. -/
theorem tree_foldl_load (visits : List (Path × Location)) :
    ((visits.map fun visit => .load (some visit.1)).foldl (step reader) run).tree = run.tree := by
  induction visits generalizing run with
  | nil => rfl
  | cons visit rest ih => exact ih

/-- Loads from files that hold vocabularies succeed, so their places come before all others. -/
theorem keys_foldl_load {visits : List (Path × Location)}
    (leads : ∀ visit ∈ visits, run.tree.vocabularyPlace (some visit.1) = .ok visit.2)
    (held : ∀ visit ∈ visits, ∃ vocabulary,
      HoldsVocabulary reader run.tree visit.2 vocabulary) :
    ((visits.map fun visit => .load (some visit.1)).foldl (step reader) run).loads.map Prod.fst =
      (visits.map Prod.snd).reverse ++ run.loads.map Prod.fst := by
  induction visits generalizing run with
  | nil => rfl
  | cons visit rest ih =>
    obtain ⟨leadsFirst, leadsRest⟩ := List.forall_mem_cons.mp leads
    obtain ⟨⟨vocabulary, heldFirst⟩, heldRest⟩ := List.forall_mem_cons.mp held
    have given : ∃ found,
        (run.cache.loadPath reader run.tree (some visit.1)).1 = .ok found := by
      rw [VocabularyCache.loadPath_of_place_eq_ok leadsFirst]
      rcases run.cache.load_cases reader run.tree visit.2 with
        ⟨found, -, loaded⟩ | ⟨-, fault, unread, -⟩ | ⟨-, _, -, loaded⟩
      · exact ⟨_, congrArg Prod.fst loaded⟩
      · rw [Vocabulary.read_eq_ok_iff.mpr heldFirst] at unread
        cases unread
      · exact ⟨_, congrArg Prod.fst loaded⟩
    obtain ⟨found, given⟩ := given
    have later := @ih (run.step reader (.load (some visit.1))) leadsRest heldRest
    rw [List.map_cons, List.foldl_cons, later, loads_load leadsFirst given, List.map_cons,
      List.map_cons, List.reverse_cons, List.append_assoc, List.singleton_append]

end

theorem othersSince_eq_of_keys {run : CacheRun} {keys : List Location} {place : Location}
    (areKeys : run.loads.map Prod.fst = keys) :
    othersSince place run.loads = (keys.takeWhile (· ≠ place)).toFinset.card := by
  rw [othersSince, ← areKeys, List.takeWhile_map]
  rfl

/-- The names of eight files. -/
def otherNames : List Text :=
  [['0'], ['1'], ['2'], ['3'], ['4'], ['5'], ['6'], ['7']]

/-- A program that works where it is installed, with its vocabulary file and eight others. -/
def nineFiles : FileTree where
  installed := ⟨[['g']]⟩
  working := ⟨[['g']]⟩
  entries :=
    (⟨[['g'], "config".toList]⟩, .directory) ::
    (⟨[['g'], "config".toList, "vocabulary.yaml".toList]⟩, .file (.text Vocabulary.standardFile)) ::
    otherNames.map fun name => (⟨[['g'], name]⟩, .file (.text Vocabulary.shortFile))

/-- The place of the vocabulary file that comes with the program. -/
def standardPlace : Location :=
  ⟨[['g'], "config".toList, "vocabulary.yaml".toList]⟩

/-- The path from the working directory to it. -/
def standardPath : Path :=
  .relative ["config".toList, "vocabulary.yaml".toList]

/-- The file that comes with the program is loaded, and then it is changed. -/
def changed : List CacheEvent :=
  [.load none, .write standardPath (.text Vocabulary.shortFile)]

/-- The paths and places of the eight others. -/
def others : List (Path × Location) :=
  otherNames.map fun name => (.relative [name], ⟨[['g'], name]⟩)

/-- After the change the eight others are loaded. -/
def crowded : List CacheEvent :=
  changed ++ others.map fun visit => .load (some visit.1)

theorem loads_changed :
    (after Outline.read nineFiles changed).loads = [(standardPlace, ⟨0, .standard⟩)] := by
  have leads : nineFiles.vocabularyPlace none = .ok standardPlace := by decide +kernel
  have isStandard : Vocabulary.read Outline.read nineFiles standardPlace = .ok .standard :=
    Vocabulary.read_eq_ok_iff.mpr (.of_text rfl Vocabulary.ofDocument_standardFile)
  have given : (VocabularyCache.empty.loadPath Outline.read nineFiles none).1 =
      .ok ⟨0, .standard⟩ := by
    rw [VocabularyCache.loadPath_of_place_eq_ok leads, VocabularyCache.load, isStandard]
    rfl
  rw [after, changed, List.foldl_cons, List.foldl_cons, List.foldl_nil, loads_write]
  exact loads_load leads given

theorem holdsVocabulary_changed {place : Location}
    (isFile : (nineFiles.place standardPath (.text Vocabulary.shortFile)).read place.path =
      .ok (.text Vocabulary.shortFile)) :
    HoldsVocabulary Outline.read (after Outline.read nineFiles changed).tree place .short :=
  .of_text isFile Vocabulary.ofDocument_shortFile

theorem not_keeps_crowded : ¬(after Outline.read nineFiles crowded).Keeps standardPlace := by
  have leads : ∀ visit ∈ others, (after Outline.read nineFiles changed).tree.vocabularyPlace
      (some visit.1) = .ok visit.2 := by
    simp only [vocabularyPlace_after]
    decide +kernel
  have held : ∀ visit ∈ others, ∃ vocabulary, HoldsVocabulary Outline.read
      (after Outline.read nineFiles changed).tree visit.2 vocabulary := by
    refine List.forall_mem_map.mpr fun name member => ⟨.short, holdsVocabulary_changed ?_⟩
    simp only [otherNames, List.mem_cons, List.not_mem_nil, or_false] at member
    rcases member with rfl | rfl | rfl | rfl | rfl | rfl | rfl | rfl <;> rfl
  have areKeys := keys_foldl_load leads held
  rw [loads_changed] at areKeys
  rintro ⟨-, few⟩
  rw [crowded, after, List.foldl_append, ← after, othersSince_eq_of_keys areKeys] at few
  exact absurd few (by decide +kernel)

/-- After the change a load still gives the standard vocabulary, by either path. After loads of
the eight others it reads the changed file and gives what this holds. -/
theorem load_after_changedFile :
    nineFiles.vocabularyPlace none = .ok standardPlace ∧
      nineFiles.vocabularyPlace (some standardPath) = .ok standardPlace ∧
    (after Outline.read nineFiles changed).loads = [(standardPlace, ⟨0, .standard⟩)] ∧
      (after Outline.read nineFiles changed).Keeps standardPlace ∧
      (after Outline.read nineFiles changed).Recalls standardPlace none ∧
      (after Outline.read nineFiles changed).Recalls standardPlace (some standardPath) ∧
    ¬(after Outline.read nineFiles crowded).Keeps standardPlace ∧
      ReadsAnew Outline.read (after Outline.read nineFiles crowded) standardPlace none ∧
      ∃ number, ((after Outline.read nineFiles crowded).cache.loadPath Outline.read
        (after Outline.read nineFiles crowded).tree none).1 = .ok ⟨number, .short⟩ := by
  have leads : nineFiles.vocabularyPlace none = .ok standardPlace := by decide +kernel
  have leadsToo : nineFiles.vocabularyPlace (some standardPath) = .ok standardPlace := by
    decide +kernel
  have keeps : (after Outline.read nineFiles changed).Keeps standardPlace := by
    rw [Keeps, loads_changed]
    decide +kernel
  have recallsDefault := ((load_after Outline.read nineFiles changed none).1 _ leads).1
  have recalls := ((load_after Outline.read nineFiles changed (some standardPath)).1 _ leadsToo).1
  have anew := ((load_after Outline.read nineFiles crowded none).1 _ leads).2 not_keeps_crowded
  have sameTree : (after Outline.read nineFiles crowded).tree =
      (after Outline.read nineFiles changed).tree := by
    rw [crowded, after, List.foldl_append, tree_foldl_load, after]
  have held : HoldsVocabulary Outline.read (after Outline.read nineFiles changed).tree
      standardPlace .short := holdsVocabulary_changed rfl
  rw [← sameTree] at held
  exact ⟨leads, leadsToo, loads_changed, keeps, recallsDefault.mpr keeps, recalls.mpr keeps,
    not_keeps_crowded, anew, (anew.gives_iff .short).mpr held⟩

end CacheRun

end RadioCall
