/-
This file says how contacts are divided into stacks. Rounding keeps the order of altitudes, so
the contacts can be taken highest first: a stack takes in the first contact and all after it
that are rounded to less than the separation below it, and the next stack begins behind them.
This fixes the stacks, in whatever order the contacts are given. Contacts at doubles have stacks
unless one of them is not finite, and then the altitudes of the stacks can be written. No other
division into groups without a separation inside has fewer groups: the highest contacts of the
stacks lie at least the separation apart, so no two of them are in one group.
-/

import Mathlib.Data.List.Sort
import Mathlib.Order.Bounds.Defs
import RadioCall.Proofs.Altitude.Band
import RadioCall.Proofs.Text.Words

namespace RadioCall

namespace Stack

/-! ### Layers -/

/-- Whether stacks are the layers of contacts, highest first. The first stack counts the contacts
of a block in front, has the altitude of the highest of them, and none of them lies the
separation below it; the next contact does, and the other stacks are the layers of the contacts
from there on. -/
inductive AreLayersOf {α : Type} (height : α → Int) : List Stack → List α → Prop
  | none : AreLayersOf height [] []
  | layer {stack : Stack} {following : List Stack} {highest : α} {others lower : List α}
      (count : stack.count = (highest :: others).length)
      (top : stack.altitude = height highest)
      (near : ∀ contact ∈ highest :: others, stack.altitude - separation < height contact)
      (apart : ∀ next ∈ lower.head?, height next ≤ stack.altitude - separation)
      (below : AreLayersOf height following lower) :
      AreLayersOf height (stack :: following) (highest :: others ++ lower)

/-- Whether a contact at a rounded altitude, not above the stack, joins it. -/
def isJoinedBy (stack : Stack) (altitude : Int) : Bool :=
  stack.altitude - separation < altitude

/-- A stack takes all contacts up to the first that does not join it, and the others are divided
as if they were all. -/
theorem divideBelow_eq (top : Stack) (lower : List Int) :
    divideBelow top lower =
      ⟨top.altitude, top.count + (lower.takeWhile top.isJoinedBy).length⟩ ::
        divide (lower.dropWhile top.isJoinedBy) := by
  induction lower generalizing top with
  | nil => rfl
  | cons altitude rest ih =>
    rw [divideBelow]
    by_cases near : top.altitude - separation < altitude
    · have joins : top.isJoinedBy altitude := decide_eq_true near
      rw [if_pos near, ih, List.takeWhile_cons_of_pos joins, List.dropWhile_cons_of_pos joins,
        List.length_cons, Nat.add_right_comm, Nat.add_assoc]
      rfl
    · have isLeft : ¬top.isJoinedBy altitude := by simpa [isJoinedBy] using near
      rw [if_neg near, List.takeWhile_cons_of_neg isLeft, List.dropWhile_cons_of_neg isLeft]
      rfl

section Layers

variable {α : Type} {height : α → Int} {found : List Stack} {contacts : List α}

/-- Dividing gives layers. -/
theorem areLayersOf_divide (contacts : List α) :
    AreLayersOf height (divide (contacts.map height)) contacts := by
  induction sized : contacts.length using Nat.strongRecOn generalizing contacts with
  | ind size ih =>
    cases contacts with
    | nil => exact .none
    | cons highest rest =>
      subst sized
      let joins (contact : α) : Bool := isJoinedBy ⟨height highest, 1⟩ (height contact)
      have isDivided : divide ((highest :: rest).map height) =
          ⟨height highest, 1 + (rest.takeWhile joins).length⟩ ::
            divide ((rest.dropWhile joins).map height) := by
        rw [List.map_cons, divide, divideBelow_eq, List.takeWhile_map, List.dropWhile_map,
          List.length_map]
        rfl
      have shorter : (rest.dropWhile joins).length < (highest :: rest).length :=
        Nat.lt_succ_of_le (List.dropWhile_suffix joins).length_le
      have near : ∀ contact ∈ highest :: rest.takeWhile joins,
          height highest - separation < height contact := by
        intro contact member
        rcases List.mem_cons.mp member with rfl | isTaken
        · exact Int.sub_lt_self _ (by decide)
        · have contactJoins : joins contact := List.mem_takeWhile_imp isTaken
          exact of_decide_eq_true contactJoins
      have apart : ∀ next ∈ (rest.dropWhile joins).head?,
          height next ≤ height highest - separation := by
        intro next isNext
        simpa [joins, isJoinedBy] using not_of_mem_head?_dropWhile isNext
      have layers : AreLayersOf height (⟨height highest, 1 + (rest.takeWhile joins).length⟩ ::
          divide ((rest.dropWhile joins).map height))
          (highest :: rest.takeWhile joins ++ rest.dropWhile joins) :=
        .layer (Nat.add_comm 1 _) rfl near apart (ih _ shorter _ rfl)
      rwa [List.cons_append, List.takeWhile_append_dropWhile, ← isDivided] at layers

/-- There are no other layers. -/
theorem AreLayersOf.divide_eq (layers : AreLayersOf height found contacts) :
    divide (contacts.map height) = found := by
  induction layers with
  | none => rfl
  | @layer stack following highest others lower count top near apart below ih =>
    obtain ⟨altitude, size⟩ := stack
    obtain rfl : altitude = height highest := top
    obtain rfl : size = others.length + 1 := count
    have joins : ∀ altitude ∈ others.map height, isJoinedBy ⟨height highest, 1⟩ altitude := by
      intro altitude member
      obtain ⟨contact, isOther, rfl⟩ := List.mem_map.mp member
      exact decide_eq_true (near contact (List.mem_cons_of_mem highest isOther))
    have ends : ∀ next ∈ (lower.map height).head?, ¬isJoinedBy ⟨height highest, 1⟩ next := by
      intro next isNext
      rw [List.head?_map] at isNext
      obtain ⟨contact, isContact, rfl⟩ := Option.map_eq_some_iff.mp isNext
      simpa [isJoinedBy] using apart contact isContact
    obtain ⟨taken, left⟩ := takeWhile_dropWhile_of_ends joins ends
    rw [List.map_append, List.map_cons, List.cons_append, divide, divideBelow_eq, taken, left, ih,
      List.length_map, Nat.add_comm]

theorem divide_map_eq_iff :
    divide (contacts.map height) = found ↔ AreLayersOf height found contacts :=
  ⟨fun isFound => isFound ▸ areLayersOf_divide contacts, AreLayersOf.divide_eq⟩

namespace AreLayersOf

/-- Every stack counts at least the contact that it begins with. -/
theorem one_le_count (layers : AreLayersOf height found contacts) :
    ∀ stack ∈ found, 1 ≤ stack.count := by
  induction layers with
  | none => exact List.forall_mem_nil _
  | layer count _ _ _ _ ih => exact List.forall_mem_cons.mpr ⟨count ▸ Nat.succ_pos _, ih⟩

/-- The stacks count every contact once. -/
theorem sum_count (layers : AreLayersOf height found contacts) :
    (found.map count).sum = contacts.length := by
  induction layers with
  | none => rfl
  | layer count _ _ _ _ ih => rw [List.map_cons, List.sum_cons, ih, count, ← List.length_append]

/-- The altitude of a stack is that of a contact. -/
theorem exists_contact (layers : AreLayersOf height found contacts) :
    ∀ stack ∈ found, ∃ contact ∈ contacts, stack.altitude = height contact := by
  induction layers with
  | none => exact List.forall_mem_nil _
  | @layer stack following highest others lower _ top _ _ _ ih =>
    refine List.forall_mem_cons.mpr ⟨⟨highest, List.mem_cons_self, top⟩, fun stack member => ?_⟩
    obtain ⟨contact, isLower, isTop⟩ := ih stack member
    exact ⟨contact, List.mem_append_right _ isLower, isTop⟩

/-- The altitudes of two stacks lie at least the separation apart. -/
theorem pairwise_apart (layers : AreLayersOf height found contacts)
    (sorted : contacts.Pairwise fun higher lower => height lower ≤ height higher) :
    found.Pairwise fun upper lower => lower.altitude ≤ upper.altitude - separation := by
  induction layers with
  | none => exact .nil
  | @layer stack following highest others lower _ top _ apart below ih =>
    have lowerSorted := (List.pairwise_append.mp sorted).2.1
    refine List.pairwise_cons.mpr ⟨fun other member => ?_, ih lowerSorted⟩
    obtain ⟨contact, isLower, isTop⟩ := below.exists_contact other member
    cases lower with
    | nil => cases isLower
    | cons next rest =>
      have nextApart := apart next rfl
      rw [isTop]
      rcases List.mem_cons.mp isLower with rfl | isRest
      · exact nextApart
      · exact (List.rel_of_pairwise_cons lowerSorted isRest).trans nextApart

end AreLayersOf

end Layers

/-! ### Contacts in any order -/

theorem highestFirst_perm (altitudes : List Int) : (highestFirst altitudes).Perm altitudes :=
  List.mergeSort_perm altitudes _

/-- Sorting by a value puts the highest first. -/
theorem pairwise_mergeSort_value {α : Type} (value : α → Int) (items : List α) :
    (items.mergeSort fun first second => value second ≤ value first).Pairwise
      fun higher lower => value lower ≤ value higher := by
  refine (List.pairwise_mergeSort ?_ ?_ items).imp of_decide_eq_true
  · intro first second third secondLe thirdLe
    exact decide_eq_true ((of_decide_eq_true thirdLe).trans (of_decide_eq_true secondLe))
  · intro first second
    simpa using Int.le_total (value second) (value first)

theorem highestFirst_sorted (altitudes : List Int) :
    (highestFirst altitudes).Pairwise fun higher lower => lower ≤ higher :=
  pairwise_mergeSort_value id altitudes

/-- There is only one order of rounded altitudes, highest first. -/
theorem highestFirst_eq {altitudes ordered : List Int} (isOrder : ordered.Perm altitudes)
    (sorted : ordered.Pairwise fun higher lower => lower ≤ higher) :
    highestFirst altitudes = ordered :=
  List.Perm.eq_of_pairwise (fun _ _ _ _ secondLe firstLe => Int.le_antisymm firstLe secondLe)
    (highestFirst_sorted altitudes) sorted ((highestFirst_perm altitudes).trans isOrder.symm)

/-- The stacks of rounded altitudes are their layers. -/
theorem areLayersOf_ofRounded (rounded : List Int) :
    AreLayersOf id (ofRounded rounded) (highestFirst rounded) :=
  divide_map_eq_iff.mp (by rw [List.map_id, ofRounded])

/-- The altitude of a stack is one of the rounded altitudes. -/
theorem altitude_mem_of_mem_ofRounded {stack : Stack} {altitudes : List Int}
    (member : stack ∈ ofRounded altitudes) : stack.altitude ∈ altitudes := by
  obtain ⟨altitude, inOrder, isTop⟩ :=
    (areLayersOf_ofRounded altitudes).exists_contact stack member
  rw [isTop]
  exact (highestFirst_perm altitudes).mem_iff.mp inOrder

section Rounded

variable {altitudes ordered : List Altitude} {feet : Altitude → Int}

/-- Contacts that can be rounded can be put in order by their exact values. -/
theorem exists_ordered
    (areRounded : ∀ altitude ∈ altitudes, altitude.roundToBand = .ok (feet altitude)) :
    ∃ ordered : List Altitude, ordered.Perm altitudes ∧
      ordered.Pairwise fun higher lower => lower.IsAtMost higher := by
  let value (altitude : Altitude) : Int := altitude.steps?.getD 0
  have isValue {altitude : Altitude} (member : altitude ∈ altitudes) :
      altitude.steps? = some (value altitude) := by
    obtain ⟨_, _, isSteps, _⟩ := Altitude.exists_steps_of_roundToBand (areRounded _ member)
    rw [show value altitude = altitude.steps?.getD 0 from rfl, isSteps, Option.getD_some]
  have isOrder := List.mergeSort_perm altitudes fun first second => value second ≤ value first
  refine ⟨_, isOrder, (pairwise_mergeSort_value value altitudes).imp_of_mem ?_⟩
  intro higher lower isHigher isLower le
  exact ⟨_, isValue (isOrder.mem_iff.mp isLower), _, isValue (isOrder.mem_iff.mp isHigher), le⟩

/-- The order of the exact values is also that of the rounded altitudes. -/
theorem pairwise_of_ordered
    (areRounded : ∀ altitude ∈ altitudes, altitude.roundToBand = .ok (feet altitude))
    (isOrder : ordered.Perm altitudes)
    (sorted : ordered.Pairwise fun higher lower => lower.IsAtMost higher) :
    ordered.Pairwise fun higher lower => feet lower ≤ feet higher :=
  sorted.imp_of_mem fun isHigher isLower atMost =>
    Altitude.roundToBand_le_roundToBand atMost (areRounded _ (isOrder.mem_iff.mp isLower))
      (areRounded _ (isOrder.mem_iff.mp isHigher))

/-- The stacks are the layers, and the only ones, of the contacts in any order in which their exact
values fall. -/
theorem areLayersOf_iff_eq_ofRounded {layers : List Stack}
    (areRounded : ∀ altitude ∈ altitudes, altitude.roundToBand = .ok (feet altitude))
    (isOrder : ordered.Perm altitudes)
    (sorted : ordered.Pairwise fun higher lower => lower.IsAtMost higher) :
    AreLayersOf feet layers ordered ↔ layers = ofRounded (altitudes.map feet) := by
  have roundedSorted : (ordered.map feet).Pairwise fun higher lower => lower ≤ higher :=
    List.pairwise_map.mpr (pairwise_of_ordered areRounded isOrder sorted)
  rw [ofRounded, highestFirst_eq (isOrder.map feet) roundedSorted, eq_comm, divide_map_eq_iff]

/-- Contacts in another order have the same stacks. -/
theorem ofAltitudes_eq_of_perm {others : List Altitude} {found : List Stack}
    (isFound : ofAltitudes altitudes = .ok found) (reordered : others.Perm altitudes) :
    ofAltitudes others = .ok found := by
  obtain ⟨_, isRounded, rfl⟩ := map_eq_ok_iff.mp isFound
  obtain ⟨feet, areRounded, rfl⟩ := mapM_eq_ok_iff_exists_map.mp isRounded
  have othersRounded : ∀ altitude ∈ others, altitude.roundToBand = .ok (feet altitude) :=
    fun altitude member => areRounded altitude (reordered.mem_iff.mp member)
  have sameOrder := highestFirst_eq
    ((highestFirst_perm (altitudes.map feet)).trans (reordered.symm.map feet))
    (highestFirst_sorted (altitudes.map feet))
  refine map_eq_ok_iff.mpr
    ⟨others.map feet, mapM_eq_ok_iff_exists_map.mpr ⟨feet, othersRounded, rfl⟩, ?_⟩
  rw [ofRounded, sameOrder, ofRounded]

end Rounded

/-- Contacts whose stacks are found can be put in order by their exact values, and in any such
order the stacks are their layers from the top, and the only ones. Each stack counts a contact and
together they count all, each lies above those after it, and given in another order the contacts
have the same stacks. -/
theorem ofAltitudes_areLayers {altitudes : List Altitude} {found : List Stack}
    (isFound : ofAltitudes altitudes = .ok found) :
    ∃ feet : Altitude → Int,
      (∀ altitude ∈ altitudes, altitude.roundToBand = .ok (feet altitude)) ∧
      (∃ ordered : List Altitude, ordered.Perm altitudes ∧
        ordered.Pairwise fun higher lower => lower.IsAtMost higher) ∧
      (∀ ordered : List Altitude, ordered.Perm altitudes →
        (ordered.Pairwise fun higher lower => lower.IsAtMost higher) →
          ∀ layers, AreLayersOf feet layers ordered ↔ layers = found) ∧
      (∀ stack ∈ found, 1 ≤ stack.count) ∧ (found.map count).sum = altitudes.length ∧
      (found.Pairwise fun upper lower => lower.altitude < upper.altitude) ∧
      ∀ others : List Altitude, others.Perm altitudes → ofAltitudes others = .ok found := by
  obtain ⟨_, isRounded, rfl⟩ := map_eq_ok_iff.mp isFound
  obtain ⟨feet, areRounded, rfl⟩ := mapM_eq_ok_iff_exists_map.mp isRounded
  obtain ⟨ordered, isOrder, sorted⟩ := exists_ordered areRounded
  have layers := (areLayersOf_iff_eq_ofRounded areRounded isOrder sorted).mpr rfl
  have apart := layers.pairwise_apart (pairwise_of_ordered areRounded isOrder sorted)
  refine ⟨feet, areRounded, ⟨ordered, isOrder, sorted⟩,
    fun _ isOrder sorted _ => areLayersOf_iff_eq_ofRounded areRounded isOrder sorted,
    layers.one_le_count, ?_, ?_, fun _ => ofAltitudes_eq_of_perm isFound⟩
  · rw [layers.sum_count, isOrder.length_eq]
  · exact apart.imp fun farBelow =>
      Int.lt_of_le_of_lt farBelow (Int.sub_lt_self _ (by decide))

/-- A contact exactly at the separation below another one is rounded, and begins a stack; one that
is rounded up to less than the separation joins it, measured or whole. -/
theorem ofAltitudes_areLayers_atSeparation :
    let measured : Altitude := .measured (.finite false (20600 * Double.stepsPerUnit))
    ofAltitudes [.whole 20100, .whole 30000, measured] = .ok [⟨30000, 2⟩, ⟨20000, 1⟩] ∧
      ofAltitudes [.whole 30000, measured, .whole 20100] = .ok [⟨30000, 2⟩, ⟨20000, 1⟩] := by
  intro measured
  have isFound :
      ofAltitudes [.whole 20100, .whole 30000, measured] = .ok [⟨30000, 2⟩, ⟨20000, 1⟩] := by
    refine map_eq_ok_iff.mpr ⟨[20000, 30000, 21000], by decide +kernel, ?_⟩
    rw [ofRounded, @highestFirst_eq _ [30000, 21000, 20000] (by decide) (by decide)]
    rfl
  have reordered : [.whole 30000, measured, .whole 20100].Perm
      [.whole 20100, .whole 30000, measured] := by decide +kernel
  obtain ⟨_, _, _, _, _, _, _, inAnyOrder⟩ := ofAltitudes_areLayers isFound
  exact ⟨isFound, inAnyOrder _ reordered⟩

/-! ### Contacts at doubles -/

/-- Whether groups divide rounded altitudes so that in each of them the highest lies less than the
separation above the lowest. -/
structure AreGroupsOf (altitudes : List Int) (groups : List (List Int)) : Prop where
  all : groups.flatten.Perm altitudes
  close : ∀ group ∈ groups, ∀ highest ∈ group, ∀ lowest ∈ group, highest - lowest < separation

/-- Points of which no two are in one group are not more than the groups. -/
theorem length_le_of_notTogether {points : List Int} {groups : List (List Int)}
    (covered : ∀ point ∈ points, ∃ group ∈ groups, point ∈ group)
    (notTogether : points.Pairwise fun first second =>
      ∀ group ∈ groups, first ∈ group → second ∉ group) :
    points.length ≤ groups.length := by
  induction points generalizing groups with
  | nil => exact Nat.zero_le _
  | cons point rest ih =>
    obtain ⟨pointCovered, restCovered⟩ := List.forall_mem_cons.mp covered
    obtain ⟨group, isGroup, inGroup⟩ := pointCovered
    obtain ⟨fromPoint, fromRest⟩ := List.pairwise_cons.mp notTogether
    -- Without the group of the first point the other groups still hold all the other points.
    have fewer : rest.length ≤ (groups.erase group).length := by
      refine ih (fun other member => ?_) (fromRest.imp fun apart other isOther => ?_)
      · obtain ⟨home, isHome, inHome⟩ := restCovered other member
        have elsewhere : home ≠ group := by
          rintro rfl
          exact fromPoint other member home isHome inGroup inHome
        exact ⟨home, (List.mem_erase_of_ne elsewhere).mpr isHome, inHome⟩
      · exact apart other (List.mem_of_mem_erase isOther)
    have positive := List.length_pos_of_mem isGroup
    rw [List.length_erase_of_mem isGroup] at fewer
    rw [List.length_cons]
    omega

/-- The contacts of each stack are a group. -/
theorem AreLayersOf.exists_groups {found : List Stack} {altitudes : List Int}
    (layers : AreLayersOf id found altitudes)
    (sorted : altitudes.Pairwise fun higher lower => lower ≤ higher) :
    ∃ groups, AreGroupsOf altitudes groups ∧ groups.length = found.length := by
  induction layers with
  | none => exact ⟨[], ⟨.refl _, List.forall_mem_nil _⟩, rfl⟩
  | @layer stack following highest others lower _ top near _ _ ih =>
    obtain ⟨blockSorted, lowerSorted, -⟩ := List.pairwise_append.mp sorted
    obtain ⟨groups, ⟨all, close⟩, sameNumber⟩ := ih lowerSorted
    refine ⟨(highest :: others) :: groups, ⟨?_, List.forall_mem_cons.mpr ⟨?_, close⟩⟩, ?_⟩
    · rw [List.flatten_cons]
      exact all.append_left _
    · intro high isHigh low isLow
      have notAbove : high ≤ highest := by
        rcases List.mem_cons.mp isHigh with rfl | isOther
        · exact Int.le_refl _
        · exact List.rel_of_pairwise_cons blockSorted isOther
      have notBelow := near low isLow
      rw [top] at notBelow
      simp only [id] at notBelow
      omega
    · rw [List.length_cons, List.length_cons, sameNumber]

/-- No division into groups has fewer groups than there are stacks. -/
theorem AreGroupsOf.length_le {rounded : List Int} {groups : List (List Int)}
    (areGroups : AreGroupsOf rounded groups) : (ofRounded rounded).length ≤ groups.length := by
  have apart := (areLayersOf_ofRounded rounded).pairwise_apart (highestFirst_sorted rounded)
  rw [← List.length_map altitude]
  refine length_le_of_notTogether ?_ (List.pairwise_map.mpr (apart.imp ?_))
  · intro top isTop
    obtain ⟨stack, member, rfl⟩ := List.mem_map.mp isTop
    have inRounded := altitude_mem_of_mem_ofRounded member
    exact List.mem_flatten.mp (areGroups.all.mem_iff.mpr inRounded)
  · intro upper lower farBelow group isGroup isUpper isLower
    have near := areGroups.close group isGroup _ isUpper _ isLower
    omega

/-- Stacks are the fewest groups into which rounded altitudes can be divided so that none of them
holds two altitudes the separation apart. -/
theorem ofAltitudes_length_isLeast {altitudes : List Altitude} {found : List Stack}
    (isFound : ofAltitudes altitudes = .ok found) :
    ∃ rounded, altitudes.mapM Altitude.roundToBand = .ok rounded ∧
      IsLeast {number | ∃ groups, AreGroupsOf rounded groups ∧ groups.length = number}
        found.length := by
  obtain ⟨rounded, isRounded, rfl⟩ := map_eq_ok_iff.mp isFound
  refine ⟨rounded, isRounded, ?_, ?_⟩
  · obtain ⟨groups, ⟨all, close⟩, sameNumber⟩ :=
      (areLayersOf_ofRounded rounded).exists_groups (highestFirst_sorted rounded)
    exact ⟨groups, ⟨all.trans (highestFirst_perm rounded), close⟩, sameNumber⟩
  · rintro number ⟨groups, areGroups, rfl⟩
    exact areGroups.length_le

/-- Distances are measured from the highest contact: three altitudes in steps of less than the
separation need two groups. -/
theorem ofAltitudes_length_isLeast_steps :
    ofAltitudes [.whole 30000, .whole 25000, .whole 19000] = .ok [⟨30000, 2⟩, ⟨19000, 1⟩] ∧
      ∃ rounded, [Altitude.whole 30000, .whole 25000, .whole 19000].mapM Altitude.roundToBand =
          .ok rounded ∧
        IsLeast {number | ∃ groups, AreGroupsOf rounded groups ∧ groups.length = number} 2 := by
  have isFound : ofAltitudes [.whole 30000, .whole 25000, .whole 19000] =
      .ok [⟨30000, 2⟩, ⟨19000, 1⟩] := by
    refine map_eq_ok_iff.mpr ⟨[30000, 25000, 19000], by decide +kernel, ?_⟩
    rw [ofRounded, @highestFirst_eq _ [30000, 25000, 19000] (by decide) (by decide)]
    rfl
  exact ⟨isFound, ofAltitudes_length_isLeast isFound⟩

end Stack

end RadioCall
