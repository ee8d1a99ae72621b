/-
This file says how a run of number words is divided into numbers and written. The numbers
hold the words of the run in order; each is written in digits, or kept in words if it
begins with a scale. Digits said one by one are a number each, and scales in front are kept
together with the first digit after them, unless that is a zero.
-/

import RadioCall.Number.Cardinal
import RadioCall.Proofs.Checked
import RadioCall.Proofs.Text.Words

namespace RadioCall

namespace Cardinal

/-! ### Grouping -/

/-- A word is added to the last of the numbers before it, or it begins a new one. -/
theorem add_cases (earlier : List Cardinal) (word : NumberWord) :
    (∃ last before, earlier = last :: before ∧ joins earlier word ∧
        add earlier word = (word :: last) :: before) ∨
      (¬joins earlier word ∧ add earlier word = [word] :: earlier) := by
  by_cases joined : joins earlier word
  · cases earlier with
    | nil => cases joined
    | cons last before =>
      refine .inl ⟨last, before, rfl, joined, ?_⟩
      rw [add, if_pos joined]
  · exact .inr ⟨joined, by rw [add.eq_def, if_neg joined]⟩

/-- The words of numbers that are given latest first, in spoken order. -/
def spokenWords (earlier : List Cardinal) : List NumberWord :=
  (earlier.map List.reverse).reverse.flatten

theorem spokenWords_foldl_add (earlier : List Cardinal) (spoken : List NumberWord) :
    spokenWords (spoken.foldl add earlier) = spokenWords earlier ++ spoken := by
  induction spoken generalizing earlier with
  | nil => rw [List.foldl_nil, List.append_nil]
  | cons word rest ih =>
    have step : spokenWords (add earlier word) = spokenWords earlier ++ [word] := by
      rcases add_cases earlier word with ⟨last, before, rfl, _, isAdded⟩ | ⟨_, isAdded⟩
      · rw [isAdded]
        simp [spokenWords]
      · rw [isAdded]
        simp [spokenWords]
    rw [List.foldl_cons, ih, step, List.append_assoc, List.singleton_append]

/-- What holds of a word on its own, and still holds of a number when a word joins it, holds of
all numbers of a run; their words are given latest first. -/
theorem forall_mem_foldl_add {holds : Cardinal → Prop} (alone : ∀ word, holds [word])
    (joined : ∀ last before word, joins (last :: before) word → holds last → holds (word :: last))
    {earlier : List Cardinal} (held : ∀ group ∈ earlier, holds group)
    (spoken : List NumberWord) : ∀ group ∈ spoken.foldl add earlier, holds group := by
  induction spoken generalizing earlier with
  | nil => exact held
  | cons word rest ih =>
    refine ih ?_
    rcases add_cases earlier word with ⟨last, before, rfl, joins, isAdded⟩ | ⟨_, isAdded⟩
    · obtain ⟨heldLast, heldBefore⟩ := List.forall_mem_cons.mp held
      rw [isAdded]
      exact List.forall_mem_cons.mpr ⟨joined last before word joins heldLast, heldBefore⟩
    · rw [isAdded]
      exact List.forall_mem_cons.mpr ⟨alone word, held⟩

theorem ne_nil_of_mem_foldl_add {spoken : List NumberWord} {group : Cardinal}
    (member : group ∈ spoken.foldl add []) : group ≠ [] := by
  refine @forall_mem_foldl_add (· ≠ []) ?_ ?_ [] nofun spoken group member
  · exact fun _ => List.cons_ne_nil _ _
  · exact fun _ _ _ _ _ => List.cons_ne_nil _ _

/-- The numbers of a run hold its words in order. -/
theorem flatten_divide (spoken : List NumberWord) : (divide spoken).flatten = spoken :=
  spokenWords_foldl_add [] spoken

theorem ne_nil_of_mem_divide {spoken : List NumberWord} {cardinal : Cardinal}
    (member : cardinal ∈ divide spoken) : cardinal ≠ [] := by
  obtain ⟨group, inGroups, rfl⟩ := List.mem_map.mp (List.mem_reverse.mp member)
  have nonempty := ne_nil_of_mem_foldl_add inGroups
  exact fun isNil => nonempty (List.reverse_eq_nil_iff.mp isNil)

theorem mem_of_mem_divide {spoken : List NumberWord} {cardinal : Cardinal}
    (member : cardinal ∈ divide spoken) {word : NumberWord} (isWord : word ∈ cardinal) :
    word ∈ spoken := by
  rw [← flatten_divide spoken]
  exact List.mem_flatten_of_mem member isWord

/-! ### Digits and scales -/

theorem exists_unit_of_isUnit {word : NumberWord} (isUnit : word.isUnit) :
    ∃ digit, word = .unit digit := by
  cases word with
  | unit digit => exact ⟨digit, rfl⟩
  | teen excess => cases isUnit
  | tens excess => cases isUnit
  | hundred => cases isUnit
  | thousand => cases isUnit

theorem not_isScale_of_isUnit {word : NumberWord} (isUnit : word.isUnit) : ¬word.isScale := by
  obtain ⟨digit, rfl⟩ := exists_unit_of_isUnit isUnit
  exact Bool.false_ne_true

theorem not_isTens_of_isUnit {word : NumberWord} (isUnit : word.isUnit) : ¬word.isTens := by
  obtain ⟨digit, rfl⟩ := exists_unit_of_isUnit isUnit
  exact Bool.false_ne_true

/-- A digit joins a number that ends with a multiple of ten or a scale, unless it is zero. -/
theorem joins_of_isUnit {word : NumberWord} (isUnit : word.isUnit) (previous : NumberWord)
    (others : Cardinal) (before : List Cardinal) :
    joins ((previous :: others) :: before) word =
      (word ≠ .unit 0 && (previous.isTens || previous.isScale)) := by
  rw [joins, if_neg (not_isScale_of_isUnit isUnit), if_pos isUnit]

theorem not_joins_of_isUnit {word previous : NumberWord} (isUnit : word.isUnit)
    (previousUnit : previous.isUnit) (others : Cardinal) (before : List Cardinal) :
    ¬joins ((previous :: others) :: before) word := by
  rw [joins_of_isUnit isUnit]
  simp [not_isTens_of_isUnit previousUnit, not_isScale_of_isUnit previousUnit]

/-- Digits after a digit are a number each. -/
theorem foldl_add_units {previous : NumberWord} (previousUnit : previous.isUnit) (others : Cardinal)
    (before : List Cardinal) {spoken : List NumberWord} (units : ∀ word ∈ spoken, word.isUnit) :
    spoken.foldl add ((previous :: others) :: before) =
      (spoken.map fun word => [word]).reverse ++ (previous :: others) :: before := by
  induction spoken generalizing previous others before with
  | nil => rfl
  | cons word rest ih =>
    obtain ⟨isUnit, unitsRest⟩ := List.forall_mem_cons.mp units
    have alone := not_joins_of_isUnit isUnit previousUnit others before
    rw [List.foldl_cons, add.eq_def, if_neg alone, ih isUnit _ _ unitsRest]
    simp

theorem foldl_add_nil_units {spoken : List NumberWord} (units : ∀ word ∈ spoken, word.isUnit) :
    spoken.foldl add [] = (spoken.map fun word => [word]).reverse := by
  cases spoken with
  | nil => rfl
  | cons word rest =>
    obtain ⟨isUnit, unitsRest⟩ := List.forall_mem_cons.mp units
    have first : add [] word = [[word]] := rfl
    rw [List.foldl_cons, first, foldl_add_units isUnit _ _ unitsRest, List.map_cons,
      List.reverse_cons]

/-- Digits said one by one are a number each. -/
theorem divide_units {spoken : List NumberWord} (units : ∀ word ∈ spoken, word.isUnit) :
    divide spoken = spoken.map fun word => [word] := by
  rw [divide, foldl_add_nil_units units, List.map_reverse, List.reverse_reverse, List.map_map]
  rfl

/-- A digit after a scale completes the number, unless it is zero. -/
theorem add_unit_of_isScale {previous : NumberWord} (isScale : previous.isScale) (others : Cardinal)
    (before : List Cardinal) {unit : NumberWord} (isUnit : unit.isUnit) :
    add ((previous :: others) :: before) unit =
      if unit = .unit 0 then [unit] :: (previous :: others) :: before
      else (unit :: previous :: others) :: before := by
  rw [add, joins_of_isUnit isUnit, isScale, Bool.or_true, Bool.and_true]
  by_cases isZero : unit = .unit 0
  · simp [isZero]
  · simp [isZero]

theorem isBareScale_append {scales : Cardinal} (nonempty : scales ≠ [])
    (areScales : ∀ word ∈ scales, word.isScale) (rest : Cardinal) :
    isBareScale (scales ++ rest) := by
  obtain ⟨first, others, rfl⟩ := List.exists_cons_of_ne_nil nonempty
  exact areScales first List.mem_cons_self

/-- Scales said together are numbers that begin with a scale. -/
theorem isBareScale_of_mem_divide {scales : List NumberWord}
    (areScales : ∀ word ∈ scales, word.isScale) {cardinal : Cardinal}
    (member : cardinal ∈ divide scales) : cardinal.isBareScale := by
  have all : ∀ word ∈ cardinal, word.isScale := fun word isWord =>
    areScales word (mem_of_mem_divide member isWord)
  have bare := isBareScale_append (ne_nil_of_mem_divide member) all []
  rwa [List.append_nil] at bare

/-- Scales in a row end with a number that ends with a scale. -/
theorem exists_foldl_add_scales {scales : List NumberWord} (nonempty : scales ≠ [])
    (areScales : ∀ word ∈ scales, word.isScale) :
    ∃ previous others before, scales.foldl add [] = (previous :: others) :: before ∧
      ∀ word ∈ previous :: others, word.isScale := by
  have held : spokenWords (scales.foldl add []) = scales := spokenWords_foldl_add [] scales
  cases grouped : scales.foldl add [] with
  | nil =>
    rw [grouped] at held
    exact absurd held.symm nonempty
  | cons last before =>
    have lastNonempty : last ≠ [] :=
      @ne_nil_of_mem_foldl_add scales last (grouped ▸ List.mem_cons_self)
    obtain ⟨previous, others, rfl⟩ := List.exists_cons_of_ne_nil lastNonempty
    refine ⟨previous, others, before, rfl, fun word isWord => areScales word ?_⟩
    rw [← held, grouped, spokenWords, List.map_cons, List.reverse_cons, List.flatten_append,
      List.flatten_singleton]
    exact List.mem_append_right _ (List.mem_reverse.mpr isWord)

/-- Scales in front of a digit other than zero take it in; a zero after them stands alone. -/
theorem divide_scales_unit {scales : List NumberWord} (nonempty : scales ≠ [])
    (areScales : ∀ word ∈ scales, word.isScale) {unit : NumberWord} (isUnit : unit.isUnit)
    {digits : List NumberWord} (areUnits : ∀ word ∈ digits, word.isUnit) :
    ∃ groups : List Cardinal, (∀ group ∈ groups, group.isBareScale) ∧
      ((unit ≠ .unit 0 ∧ groups.flatten = scales ++ [unit] ∧
          divide (scales ++ unit :: digits) = groups ++ digits.map fun word => [word]) ∨
        (unit = .unit 0 ∧ groups.flatten = scales ∧
          divide (scales ++ unit :: digits) =
            groups ++ [unit] :: digits.map fun word => [word])) := by
  have bareScales : ∀ cardinal ∈ divide scales, cardinal.isBareScale :=
    fun cardinal member => isBareScale_of_mem_divide areScales member
  have held := flatten_divide scales
  obtain ⟨previous, others, before, grouped, scalesLast⟩ :=
    exists_foldl_add_scales nonempty areScales
  have added := add_unit_of_isScale (scalesLast previous List.mem_cons_self) others before isUnit
  unfold divide at bareScales held ⊢
  rw [grouped] at bareScales held
  rw [List.foldl_append, grouped, List.foldl_cons, added]
  by_cases isZero : unit = .unit 0
  · refine ⟨_, bareScales, .inr ⟨isZero, held, ?_⟩⟩
    rw [if_pos isZero, foldl_add_units isUnit _ _ areUnits]
    simp [List.map_reverse]
  · refine ⟨(((unit :: previous :: others) :: before).map List.reverse).reverse,
      fun group member => ?_,
      .inl ⟨isZero, ?_, ?_⟩⟩
    · rw [List.map_cons, List.reverse_cons, List.mem_append, List.mem_singleton] at member
      rcases member with isBefore | rfl
      · refine bareScales group ?_
        rw [List.map_cons, List.reverse_cons]
        exact List.mem_append_left _ isBefore
      · rw [List.reverse_cons]
        refine isBareScale_append (by simp) (fun word isWord => ?_) _
        exact scalesLast word (List.mem_reverse.mp isWord)
    · rw [← held]
      simp
    · rw [if_neg isZero, foldl_add_units isUnit _ _ areUnits]
      simp [List.map_reverse]

/-! ### Writing -/

/-- The words that a number is written with: its own if it begins with a scale, or else its
numeral. -/
def writtenWords (cardinal : Cardinal) : List Text :=
  if cardinal.isBareScale then cardinal.map NumberWord.spelling else [decimal cardinal.value]

/-- Whether a number has too many digits to be written. -/
def IsTooLong (cardinal : Cardinal) : Prop :=
  ¬cardinal.isBareScale ∧ powerOfTen numeralLimit ≤ cardinal.value

theorem written_eq_ok_iff {cardinal : Cardinal} {text : Text} :
    cardinal.written = .ok text ↔ ¬cardinal.IsTooLong ∧ text = sentence cardinal.writtenWords := by
  rw [written, writtenWords, IsTooLong]
  by_cases bare : cardinal.isBareScale
  · simp [bare, eq_comm]
  · by_cases short : cardinal.value < powerOfTen numeralLimit
    · simp [bare, writeNatural, short, eq_comm]
    · simp [bare, writeNatural, short, Nat.le_of_not_lt short]

theorem written_eq_error_iff {cardinal : Cardinal} {fault : Fault} :
    cardinal.written = .error fault ↔ cardinal.IsTooLong ∧ fault = .numberTooLong := by
  rw [written, IsTooLong]
  by_cases bare : cardinal.isBareScale
  · simp [bare]
  · by_cases short : cardinal.value < powerOfTen numeralLimit
    · simp [bare, writeNatural, short, Nat.not_le_of_lt short]
    · simp [bare, writeNatural, short, Nat.le_of_not_lt short, eq_comm]

theorem writtenWords_ne_nil {cardinal : Cardinal} (nonempty : cardinal ≠ []) :
    cardinal.writtenWords ≠ [] := by
  rw [writtenWords]
  split
  · exact fun isNil => nonempty (List.map_eq_nil_iff.mp isNil)
  · exact List.cons_ne_nil _ _

/-- The words that a run is written with. -/
def runWords (spoken : List NumberWord) : List Text :=
  (divide spoken).flatMap writtenWords

theorem runWords_ne_nil {spoken : List NumberWord} (nonempty : spoken ≠ []) :
    runWords spoken ≠ [] := by
  have some : divide spoken ≠ [] := by
    intro none
    have held := flatten_divide spoken
    rw [none] at held
    exact nonempty held.symm
  obtain ⟨first, others, divided⟩ := List.exists_cons_of_ne_nil some
  have member : first ∈ divide spoken := divided ▸ List.mem_cons_self
  rw [runWords, divided, List.flatMap_cons]
  exact List.append_ne_nil_of_left_ne_nil (writtenWords_ne_nil (ne_nil_of_mem_divide member)) _

/-- A run is written as the words of its numbers, unless one of them has too many digits. -/
theorem writtenRun_eq_ok_iff {spoken : List NumberWord} {text : Text} :
    writtenRun spoken = .ok text ↔
      (∀ cardinal ∈ divide spoken, ¬cardinal.IsTooLong) ∧
        text = sentence (runWords spoken) := by
  have nonempty : ∀ group ∈ (divide spoken).map writtenWords, group ≠ [] := by
    intro group member
    obtain ⟨cardinal, inRun, rfl⟩ := List.mem_map.mp member
    exact writtenWords_ne_nil (ne_nil_of_mem_divide inRun)
  have joined : sentence ((divide spoken).map fun cardinal => sentence cardinal.writtenWords) =
      sentence (runWords spoken) := by
    rw [runWords, List.flatMap_def, ← sentence_map_sentence nonempty, List.map_map]
    rfl
  rw [writtenRun, map_eq_ok_iff]
  constructor
  · rintro ⟨texts, written, rfl⟩
    obtain ⟨short, rfl⟩ :=
      (mapM_eq_ok_iff_of_forall fun _ _ => written_eq_ok_iff).mp written
    exact ⟨short, joined⟩
  · rintro ⟨short, rfl⟩
    exact ⟨_, (mapM_eq_ok_iff_of_forall fun cardinal _ => written_eq_ok_iff).mpr ⟨short, rfl⟩,
      joined⟩

theorem writtenRun_eq_error_iff {spoken : List NumberWord} {fault : Fault} :
    writtenRun spoken = .error fault ↔
      (∃ cardinal ∈ divide spoken, cardinal.IsTooLong) ∧ fault = .numberTooLong := by
  rw [writtenRun, map_eq_error_iff]
  exact mapM_eq_error_iff_of_forall fun cardinal _ => written_eq_error_iff

/-! ### Writing digits and scales -/

theorem value_lt_hundred {word : NumberWord} (notScale : ¬word.isScale) : word.value < 100 := by
  cases word with
  | unit digit =>
    show digit.val < 100
    omega
  | teen excess =>
    show 10 + excess.val < 100
    omega
  | tens excess =>
    show 20 + 10 * excess.val < 100
    omega
  | hundred => exact absurd rfl notScale
  | thousand => exact absurd rfl notScale

theorem value_singleton {word : NumberWord} (notScale : ¬word.isScale) :
    value [word] = word.value := by
  have counted : value [word] = 0 + (0 + word.value) := by
    cases word with
    | unit digit => rfl
    | teen excess => rfl
    | tens excess => rfl
    | hundred => exact absurd rfl notScale
    | thousand => exact absurd rfl notScale
  rw [counted, Nat.zero_add, Nat.zero_add]

theorem writtenWords_singleton {word : NumberWord} (notScale : ¬word.isScale) :
    writtenWords [word] = [decimal word.value] := by
  have notBare : ¬isBareScale [word] := notScale
  rw [writtenWords, if_neg notBare, value_singleton notScale]

theorem not_isTooLong_singleton {word : NumberWord} (notScale : ¬word.isScale) :
    ¬IsTooLong [word] := by
  intro tooLong
  have limit : powerOfTen 2 ≤ powerOfTen numeralLimit := powerOfTen_le_powerOfTen (by decide)
  have small := value_lt_hundred notScale
  rw [← value_singleton notScale] at small
  exact absurd (Nat.le_trans limit tooLong.2) (Nat.not_le_of_lt small)

/-- A number word that is no scale is written in digits. -/
theorem writtenRun_singleton {word : NumberWord} (notScale : ¬word.isScale) :
    writtenRun [word] = .ok (decimal word.value) := by
  refine writtenRun_eq_ok_iff.mpr ⟨fun cardinal member => ?_, ?_⟩
  · rw [List.mem_singleton.mp (show cardinal ∈ [[word]] from member)]
    exact not_isTooLong_singleton notScale
  · rw [runWords, show divide [word] = [[word]] from rfl, List.flatMap_cons,
      writtenWords_singleton notScale]
    exact (sentence_singleton _).symm

theorem flatMap_writtenWords_units {digits : List NumberWord}
    (areUnits : ∀ word ∈ digits, word.isUnit) :
    (digits.map fun word => [word]).flatMap writtenWords =
      digits.map fun word => decimal word.value := by
  induction digits with
  | nil => rfl
  | cons word rest ih =>
    rw [List.map_cons, List.flatMap_cons,
      writtenWords_singleton (not_isScale_of_isUnit (areUnits word List.mem_cons_self)),
      ih fun other member => areUnits other (List.mem_cons_of_mem _ member)]
    rfl

theorem flatMap_writtenWords_bare {groups : List Cardinal}
    (bare : ∀ group ∈ groups, group.isBareScale) :
    groups.flatMap writtenWords = groups.flatten.map NumberWord.spelling := by
  induction groups with
  | nil => rfl
  | cons group rest ih =>
    rw [List.flatMap_cons, List.flatten_cons, List.map_append,
      ih fun other member => bare other (List.mem_cons_of_mem _ member), writtenWords,
      if_pos (bare group List.mem_cons_self)]

/-- Digits said one by one are written as a numeral each. -/
theorem writtenRun_units {digits : List NumberWord} (areUnits : ∀ word ∈ digits, word.isUnit) :
    writtenRun digits = .ok (sentence (digits.map fun word => decimal word.value)) := by
  refine writtenRun_eq_ok_iff.mpr ⟨fun cardinal member => ?_, ?_⟩
  · rw [divide_units areUnits] at member
    obtain ⟨word, inDigits, rfl⟩ := List.mem_map.mp member
    exact not_isTooLong_singleton (not_isScale_of_isUnit (areUnits word inDigits))
  · rw [runWords, divide_units areUnits, flatMap_writtenWords_units areUnits]

/-- Scales said together stay as they are. -/
theorem writtenRun_scales {scales : List NumberWord} (areScales : ∀ word ∈ scales, word.isScale) :
    writtenRun scales = .ok (sentence (scales.map NumberWord.spelling)) := by
  have bare : ∀ cardinal ∈ divide scales, cardinal.isBareScale := fun cardinal member =>
    isBareScale_of_mem_divide areScales member
  refine writtenRun_eq_ok_iff.mpr ⟨fun cardinal member tooLong => ?_, ?_⟩
  · exact tooLong.1 (bare cardinal member)
  · rw [runWords, flatMap_writtenWords_bare bare, flatten_divide]

/-- Digits after scales are written as a numeral each, but for the first, which may stay
with the scales as a word. -/
theorem writtenRun_scales_unit {scales : List NumberWord} (nonempty : scales ≠ [])
    (areScales : ∀ word ∈ scales, word.isScale) {unit : NumberWord} (isUnit : unit.isUnit)
    {digits : List NumberWord} (areUnits : ∀ word ∈ digits, word.isUnit) :
    ∃ first, (first = unit.spelling ∨ first = decimal unit.value) ∧
      writtenRun (scales ++ unit :: digits) =
        .ok (sentence (scales.map NumberWord.spelling ++
          first :: digits.map fun word => decimal word.value)) := by
  obtain ⟨groups, bare, divided⟩ := divide_scales_unit nonempty areScales isUnit areUnits
  rcases divided with ⟨_, held, divided⟩ | ⟨_, held, divided⟩
  · refine ⟨unit.spelling, .inl rfl, writtenRun_eq_ok_iff.mpr ⟨fun cardinal member => ?_, ?_⟩⟩
    · rw [divided] at member
      rcases List.mem_append.mp member with inGroups | inDigits
      · exact fun tooLong => tooLong.1 (bare cardinal inGroups)
      · obtain ⟨word, isDigit, rfl⟩ := List.mem_map.mp inDigits
        exact not_isTooLong_singleton (not_isScale_of_isUnit (areUnits word isDigit))
    · rw [runWords, divided, List.flatMap_append, flatMap_writtenWords_bare bare, held,
        flatMap_writtenWords_units areUnits]
      simp
  · refine ⟨decimal unit.value, .inr rfl, writtenRun_eq_ok_iff.mpr ⟨fun cardinal member => ?_, ?_⟩⟩
    · rw [divided] at member
      rcases List.mem_append.mp member with inGroups | inDigits
      · exact fun tooLong => tooLong.1 (bare cardinal inGroups)
      · rcases List.mem_cons.mp inDigits with rfl | inDigits
        · exact not_isTooLong_singleton (not_isScale_of_isUnit isUnit)
        · obtain ⟨word, isDigit, rfl⟩ := List.mem_map.mp inDigits
          exact not_isTooLong_singleton (not_isScale_of_isUnit (areUnits word isDigit))
    · rw [runWords, divided, List.flatMap_append, flatMap_writtenWords_bare bare, held,
        List.flatMap_cons,
        writtenWords_singleton (not_isScale_of_isUnit isUnit), flatMap_writtenWords_units areUnits]
      rfl

end Cardinal

end RadioCall
