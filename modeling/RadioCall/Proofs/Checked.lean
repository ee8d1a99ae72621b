/-
This file takes apart computations that may end with a fault: one step after another, a
fold of steps over a list, and a step for each member of a list.
-/

import RadioCall.Fault

namespace RadioCall

variable {ε α β : Type}

/-! ### One step after another -/

theorem exists_eq_ok_iff {result : Except ε α} :
    (∃ value, result = .ok value) ↔ ∀ fault, result ≠ .error fault := by
  cases result with
  | error fault => simp
  | ok value => simp

/-- Computations that fault alike succeed alike. -/
theorem exists_eq_ok_iff_of_error_iff {first : Except ε α} {second : Except ε β}
    (failAlike : ∀ fault, first = .error fault ↔ second = .error fault) :
    (∃ value, first = .ok value) ↔ ∃ value, second = .ok value := by
  rw [exists_eq_ok_iff, exists_eq_ok_iff]
  exact forall_congr' fun fault => not_congr (failAlike fault)

/-- Two steps succeed exactly if the first does and then the second. -/
theorem bind_eq_ok_iff {first : Except ε α} {next : α → Except ε β} {result : β} :
    first >>= next = .ok result ↔ ∃ value, first = .ok value ∧ next value = .ok result := by
  cases first with
  | error fault =>
    constructor
    · intro succeeds
      cases succeeds
    · rintro ⟨_, succeeds, _⟩
      cases succeeds
  | ok value =>
    constructor
    · exact fun succeeds => ⟨value, rfl, succeeds⟩
    · rintro ⟨_, same, succeeds⟩
      rw [Except.ok.inj same]
      exact succeeds

/-- Two steps fault exactly if the first does, or else the second. -/
theorem bind_eq_error_iff {first : Except ε α} {next : α → Except ε β} {fault : ε} :
    first >>= next = .error fault ↔
      first = .error fault ∨ ∃ value, first = .ok value ∧ next value = .error fault := by
  cases first with
  | error other =>
    constructor
    · exact fun fails => .inl (congrArg Except.error (Except.error.inj fails))
    · rintro (fails | ⟨_, succeeds, _⟩)
      · exact congrArg Except.error (Except.error.inj fails)
      · cases succeeds
  | ok value =>
    constructor
    · exact fun fails => .inr ⟨value, rfl, fails⟩
    · rintro (fails | ⟨_, same, fails⟩)
      · cases fails
      · rw [Except.ok.inj same]
        exact fails

/-- If there is only one fault, two steps fault exactly if one of them does. -/
theorem bind_eq_error_iff_of_forall {first : Except ε α} {next : α → Except ε β}
    {fails nextFails : Prop} {only fault : ε}
    (firstIff : ∀ fault, first = .error fault ↔ fails ∧ fault = only)
    (nextIff : ∀ value fault, next value = .error fault ↔ nextFails ∧ fault = only) :
    first >>= next = .error fault ↔ (fails ∨ nextFails) ∧ fault = only := by
  rw [bind_eq_error_iff]
  constructor
  · rintro (failed | ⟨value, _, failed⟩)
    · exact ((firstIff fault).mp failed).imp_left .inl
    · exact ((nextIff value fault).mp failed).imp_left .inr
  · rintro ⟨eitherFails, rfl⟩
    cases isFirst : first with
    | error other => exact .inl (congrArg Except.error ((firstIff other).mp isFirst).2)
    | ok value =>
      refine .inr ⟨value, rfl, (nextIff value fault).mpr ⟨?_, rfl⟩⟩
      refine eitherFails.resolve_left fun firstFails => ?_
      rw [(firstIff fault).mpr ⟨firstFails, rfl⟩] at isFirst
      cases isFirst

theorem map_eq_ok_iff {change : α → β} {first : Except ε α} {result : β} :
    change <$> first = .ok result ↔ ∃ value, first = .ok value ∧ change value = result := by
  cases first with
  | error fault => simp [Functor.map, Except.map]
  | ok value => simp [Functor.map, Except.map]

theorem map_eq_error_iff {change : α → β} {first : Except ε α} {fault : ε} :
    change <$> first = .error fault ↔ first = .error fault := by
  cases first with
  | error other => simp [Functor.map, Except.map]
  | ok value => simp [Functor.map, Except.map]

/-! ### Steps over a list -/

/-- A fold ends with a fault exactly if all goes well up to a step that faults. -/
theorem foldlM_eq_error_iff {step : β → α → Except ε β} {items : List α} {start : β} {fault : ε} :
    items.foldlM step start = .error fault ↔
      ∃ before item after state, items = before ++ item :: after ∧
        before.foldlM step start = .ok state ∧ step state item = .error fault := by
  induction items generalizing start with
  | nil =>
    constructor
    · intro fails
      cases fails
    · rintro ⟨before, item, after, _, split, _⟩
      exact absurd split.symm (List.append_ne_nil_of_right_ne_nil before (List.cons_ne_nil item after))
  | cons first rest ih =>
    rw [List.foldlM_cons, bind_eq_error_iff]
    constructor
    · rintro (fails | ⟨next, stepped, fails⟩)
      · exact ⟨[], first, rest, start, rfl, rfl, fails⟩
      · obtain ⟨before, item, after, state, rfl, folded, fails⟩ := ih.mp fails
        refine ⟨first :: before, item, after, state, rfl, ?_, fails⟩
        rw [List.foldlM_cons]
        exact bind_eq_ok_iff.mpr ⟨next, stepped, folded⟩
    · rintro ⟨before, item, after, state, split, folded, fails⟩
      cases before with
      | nil =>
        obtain ⟨rfl, rfl⟩ := List.cons_eq_cons.mp split
        obtain rfl := Except.ok.inj folded
        exact .inl fails
      | cons other before =>
        obtain ⟨rfl, rfl⟩ := List.cons_eq_cons.mp split
        rw [List.foldlM_cons] at folded
        obtain ⟨next, stepped, folded⟩ := bind_eq_ok_iff.mp folded
        exact .inr ⟨next, stepped, ih.mpr ⟨before, item, after, state, rfl, folded, fails⟩⟩

/-- Reading each item just before it is used is reading all items and using them then. -/
theorem foldlM_map_eq {γ : Type} {read : α → Except ε γ} {use : β → γ → β} {items : List α}
    {start : β} :
    items.foldlM (fun state item => use state <$> read item) start =
      (fun results => results.foldl use start) <$> items.mapM read := by
  induction items generalizing start with
  | nil => rfl
  | cons item rest ih =>
    rw [List.foldlM_cons, List.mapM_cons]
    cases read item with
    | error fault => rfl
    | ok result =>
      refine ih.trans ?_
      cases rest.mapM read <;> rfl

theorem mapM_cons_eq_ok_iff {step : α → Except ε β} {item : α} {rest : List α} {results : List β} :
    (item :: rest).mapM step = .ok results ↔
      ∃ first others, step item = .ok first ∧ rest.mapM step = .ok others ∧
        results = first :: others := by
  rw [List.mapM_cons]
  constructor
  · intro succeeds
    obtain ⟨first, stepped, succeeds⟩ := bind_eq_ok_iff.mp succeeds
    obtain ⟨others, mapped, succeeds⟩ := bind_eq_ok_iff.mp succeeds
    exact ⟨first, others, stepped, mapped, (Except.ok.inj succeeds).symm⟩
  · rintro ⟨first, others, stepped, mapped, rfl⟩
    rw [stepped, mapped]
    rfl

/-- What is written item by item can be read back item by item. -/
theorem mapM_map_eq_ok {γ : Type} {write : γ → α} {read : α → Except ε β} {result : γ → β}
    {items : List γ} (readsBack : ∀ item ∈ items, read (write item) = .ok (result item)) :
    (items.map write).mapM read = .ok (items.map result) := by
  induction items with
  | nil => rfl
  | cons item rest ih =>
    obtain ⟨first, others⟩ := List.forall_mem_cons.mp readsBack
    exact mapM_cons_eq_ok_iff.mpr ⟨result item, rest.map result, first, ih others, rfl⟩

/-- Steps for each member end with a fault exactly if they go well up to one that faults. -/
theorem mapM_eq_error_iff {step : α → Except ε β} {items : List α} {fault : ε} :
    items.mapM step = .error fault ↔
      ∃ before item after results, items = before ++ item :: after ∧
        before.mapM step = .ok results ∧ step item = .error fault := by
  induction items with
  | nil =>
    constructor
    · intro fails
      cases fails
    · rintro ⟨before, item, after, _, split, _⟩
      exact absurd split.symm (List.append_ne_nil_of_right_ne_nil before (List.cons_ne_nil item after))
  | cons first rest ih =>
    rw [List.mapM_cons, bind_eq_error_iff]
    constructor
    · rintro (fails | ⟨result, stepped, fails⟩)
      · exact ⟨[], first, rest, [], rfl, rfl, fails⟩
      · rcases bind_eq_error_iff.mp fails with fails | ⟨_, _, impossible⟩
        · obtain ⟨before, item, after, results, rfl, mapped, fails⟩ := ih.mp fails
          exact ⟨first :: before, item, after, result :: results, rfl,
            mapM_cons_eq_ok_iff.mpr ⟨result, results, stepped, mapped, rfl⟩, fails⟩
        · cases impossible
    · rintro ⟨before, item, after, results, split, mapped, fails⟩
      cases before with
      | nil =>
        obtain ⟨rfl, rfl⟩ := List.cons_eq_cons.mp split
        exact .inl fails
      | cons other before =>
        obtain ⟨rfl, rfl⟩ := List.cons_eq_cons.mp split
        obtain ⟨result, results, stepped, restMapped, rfl⟩ := mapM_cons_eq_ok_iff.mp mapped
        have restFails := ih.mpr ⟨before, item, after, results, rfl, restMapped, fails⟩
        exact .inr ⟨result, stepped, bind_eq_error_iff.mpr (.inl restFails)⟩

/-- The results of steps are what the steps give for the members. -/
theorem mem_of_mapM_eq_ok_iff {step : α → Except ε β} {items : List α} {results : List β}
    (mapped : items.mapM step = .ok results) {result : β} :
    result ∈ results ↔ ∃ item ∈ items, step item = .ok result := by
  induction items generalizing results with
  | nil =>
    obtain rfl := Except.ok.inj mapped
    simp
  | cons first rest ih =>
    obtain ⟨value, others, stepped, restMapped, rfl⟩ := mapM_cons_eq_ok_iff.mp mapped
    simp only [List.mem_cons, exists_eq_or_imp, ih restMapped, stepped, Except.ok.injEq,
      @eq_comm _ value]

/-- A step for each member faults if the step of one does; the first fault counts. -/
theorem mapM_eq_error_of_mem {step : α → Except ε β} {items : List α} {item : α} {fault : ε}
    (member : item ∈ items) (fails : step item = .error fault) :
    ∃ earlier, items.mapM step = .error earlier := by
  cases mapped : items.mapM step with
  | error earlier => exact ⟨earlier, rfl⟩
  | ok results =>
    induction items generalizing results with
    | nil => cases member
    | cons first rest ih =>
      obtain ⟨_, others, stepped, mapped, _⟩ := mapM_cons_eq_ok_iff.mp mapped
      rcases List.mem_cons.mp member with rfl | later
      · rw [fails] at stepped
        cases stepped
      · obtain ⟨_, impossible⟩ := ih later others mapped
        cases impossible

theorem exists_of_mapM_eq_error {step : α → Except ε β} {items : List α} {fault : ε}
    (fails : items.mapM step = .error fault) : ∃ item ∈ items, step item = .error fault := by
  obtain ⟨before, item, after, _, rfl, _, itemFails⟩ := mapM_eq_error_iff.mp fails
  exact ⟨item, List.mem_append_right before List.mem_cons_self, itemFails⟩

/-- Steps for each member succeed together exactly if the step of each does. -/
theorem exists_mapM_eq_ok_iff {step : α → Except ε β} {items : List α} :
    (∃ results, items.mapM step = .ok results) ↔
      ∀ item ∈ items, ∃ result, step item = .ok result := by
  constructor
  · rintro ⟨results, mapped⟩ item member
    cases stepped : step item with
    | ok result => exact ⟨result, rfl⟩
    | error fault =>
      obtain ⟨_, fails⟩ := mapM_eq_error_of_mem member stepped
      rw [mapped] at fails
      cases fails
  · intro succeeds
    cases mapped : items.mapM step with
    | ok results => exact ⟨results, rfl⟩
    | error fault =>
      obtain ⟨item, member, fails⟩ := exists_of_mapM_eq_error mapped
      obtain ⟨result, stepped⟩ := succeeds item member
      rw [fails] at stepped
      cases stepped

/-- Where the step of each member succeeds, the steps together change each member. -/
theorem mapM_eq_ok_iff_exists_map [Inhabited β] {step : α → Except ε β} {items : List α}
    {results : List β} :
    items.mapM step = .ok results ↔
      ∃ change : α → β, (∀ item ∈ items, step item = .ok (change item)) ∧
        results = items.map change := by
  constructor
  · intro mapped
    refine ⟨fun item => (step item).toOption.getD default, ?_⟩
    induction items generalizing results with
    | nil => exact ⟨List.forall_mem_nil _, (Except.ok.inj mapped).symm⟩
    | cons item rest ih =>
      obtain ⟨first, others, stepped, restMapped, rfl⟩ := mapM_cons_eq_ok_iff.mp mapped
      obtain ⟨restStepped, restChanged⟩ := ih restMapped
      have isFirst : (step item).toOption.getD default = first := by
        rw [stepped]
        rfl
      refine ⟨List.forall_mem_cons.mpr ⟨?_, restStepped⟩, ?_⟩
      · exact stepped.trans (congrArg Except.ok isFirst.symm)
      · rw [List.map_cons, ← restChanged, isFirst]
  · rintro ⟨change, stepped, rfl⟩
    have mapped : (items.map id).mapM step = .ok (items.map change) := mapM_map_eq_ok stepped
    rwa [List.map_id] at mapped

/-- If each step makes the same change where it succeeds, so do all steps together. -/
theorem mapM_eq_ok_iff_of_forall {step : α → Except ε β} {allowed : α → Prop} {change : α → β}
    (stepIff : ∀ item result, step item = .ok result ↔ allowed item ∧ result = change item)
    {items : List α} {results : List β} :
    items.mapM step = .ok results ↔
      (∀ item ∈ items, allowed item) ∧ results = items.map change := by
  induction items generalizing results with
  | nil =>
    rw [List.mapM_nil]
    constructor
    · intro succeeds
      refine ⟨fun item member => ?_, (Except.ok.inj succeeds).symm⟩
      cases member
    · rintro ⟨_, rfl⟩
      rfl
  | cons item rest ih =>
    rw [mapM_cons_eq_ok_iff]
    constructor
    · rintro ⟨first, others, stepped, mapped, rfl⟩
      obtain ⟨isAllowed, rfl⟩ := (stepIff item first).mp stepped
      obtain ⟨allAllowed, rfl⟩ := ih.mp mapped
      exact ⟨List.forall_mem_cons.mpr ⟨isAllowed, allAllowed⟩, rfl⟩
    · rintro ⟨allowed, rfl⟩
      obtain ⟨isAllowed, allAllowed⟩ := List.forall_mem_cons.mp allowed
      exact ⟨change item, rest.map change, (stepIff item _).mpr ⟨isAllowed, rfl⟩,
        ih.mpr ⟨allAllowed, rfl⟩, rfl⟩

/-- If there is only one fault, the steps fault exactly if one of them does. -/
theorem mapM_eq_error_iff_of_forall {step : α → Except ε β} {fails : α → Prop} {only : ε}
    (stepIff : ∀ item fault, step item = .error fault ↔ fails item ∧ fault = only)
    {items : List α} {fault : ε} :
    items.mapM step = .error fault ↔ (∃ item ∈ items, fails item) ∧ fault = only := by
  constructor
  · intro failed
    obtain ⟨item, member, itemFailed⟩ := exists_of_mapM_eq_error failed
    obtain ⟨itemFails, isOnly⟩ := (stepIff item fault).mp itemFailed
    exact ⟨⟨item, member, itemFails⟩, isOnly⟩
  · rintro ⟨⟨item, member, itemFails⟩, rfl⟩
    obtain ⟨earlier, failed⟩ := mapM_eq_error_of_mem member
      ((stepIff item fault).mpr ⟨itemFails, rfl⟩)
    obtain ⟨other, _, otherFailed⟩ := exists_of_mapM_eq_error failed
    rw [failed, ((stepIff other earlier).mp otherFailed).2]

end RadioCall
