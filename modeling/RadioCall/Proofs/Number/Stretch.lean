/-
This file says how number runs form. A number word extends the run after it if nothing but
a gap stands between them, and looks no further. So the runs of a text with a gap in it are
those of its two sides, except that a run that ends at the gap and one that begins there
become one.
-/

import RadioCall.Proofs.Number.Fragment

namespace RadioCall

/-! ### Putting a fragment in front -/

/-- The number word that a fragment is, if it is one. -/
def Fragment.number? : Fragment → Option NumberWord
  | word letters => NumberWord.ofText? letters
  | _ => none

namespace Stretch

theorem prepend_of_number?_none {fragment : Fragment} (other : fragment.number? = none)
    (following : List Stretch) : prepend fragment following = plain fragment :: following := by
  cases fragment with
  | word letters =>
    unfold prepend
    simp only [show NumberWord.ofText? letters = none from other]
  | gap blanks => rfl
  | mark character => rfl

/-- A number word joins the run after the next gap. -/
theorem prepend_joined {fragment : Fragment} {number : NumberWord}
    (isNumber : fragment.number? = some number) (blanks source : Text) (spoken : List NumberWord)
    (rest : List Stretch) :
    prepend fragment (plain (.gap blanks) :: run source spoken :: rest) =
      run (fragment.text ++ blanks ++ source) (number :: spoken) :: rest := by
  cases fragment with
  | word letters =>
    unfold prepend
    simp only [show NumberWord.ofText? letters = some number from isNumber]
    rfl
  | gap blanks => cases isNumber
  | mark character => cases isNumber

/-- A number word without a run after the next gap is a run of its own. -/
theorem prepend_alone {fragment : Fragment} {number : NumberWord}
    (isNumber : fragment.number? = some number) {following : List Stretch}
    (noRun : ∀ blanks source spoken rest,
      following ≠ plain (.gap blanks) :: run source spoken :: rest) :
    prepend fragment following = run fragment.text [number] :: following := by
  cases fragment with
  | word letters =>
    unfold prepend
    simp only [show NumberWord.ofText? letters = some number from isNumber]
    rfl
  | gap blanks => cases isNumber
  | mark character => cases isNumber

/-- Whether a run stands behind a gap at the beginning, so that a number word extends it. -/
def RunFollows (stretches : List Stretch) : Prop :=
  ∃ blanks source spoken after, stretches = plain (.gap blanks) :: run source spoken :: after

theorem prepend_of_not_runFollows {fragment : Fragment} {number : NumberWord}
    (isNumber : fragment.number? = some number) {following : List Stretch}
    (noRun : ¬RunFollows following) :
    prepend fragment following = run fragment.text [number] :: following :=
  prepend_alone isNumber fun blanks source spoken rest same =>
    noRun ⟨blanks, source, spoken, rest, same⟩

theorem prepend_nil {fragment : Fragment} {number : NumberWord}
    (isNumber : fragment.number? = some number) :
    prepend fragment [] = [run fragment.text [number]] :=
  prepend_alone isNumber fun _ _ _ _ same => by cases same

/-- What becomes of a fragment in front of stretches. -/
theorem prepend_cases (fragment : Fragment) (following : List Stretch) :
    (fragment.number? = none ∧ prepend fragment following = plain fragment :: following) ∨
      ∃ number, fragment.number? = some number ∧
        ((∃ blanks source spoken rest,
            following = plain (.gap blanks) :: run source spoken :: rest ∧
            prepend fragment following =
              run (fragment.text ++ blanks ++ source) (number :: spoken) :: rest) ∨
          ((∀ blanks source spoken rest,
              following ≠ plain (.gap blanks) :: run source spoken :: rest) ∧
            prepend fragment following = run fragment.text [number] :: following)) := by
  cases found : fragment.number? with
  | none => exact .inl ⟨rfl, prepend_of_number?_none found following⟩
  | some number =>
    refine .inr ⟨number, rfl, ?_⟩
    by_cases joins : ∃ blanks source spoken rest,
        following = plain (.gap blanks) :: run source spoken :: rest
    · obtain ⟨blanks, source, spoken, rest, rfl⟩ := joins
      exact .inl ⟨blanks, source, spoken, rest, rfl, prepend_joined found _ _ _ _⟩
    · have noRun : ∀ blanks source spoken rest,
          following ≠ plain (.gap blanks) :: run source spoken :: rest :=
        fun blanks source spoken rest same => joins ⟨blanks, source, spoken, rest, same⟩
      exact .inr ⟨noRun, prepend_alone found noRun⟩

end Stretch

/-! ### The stretches of fragments -/

/-- The stretches that fragments form. -/
def stretchesOf (fragments : List Fragment) : List Stretch :=
  fragments.foldr Stretch.prepend []

theorem stretches_eq (text : Text) : stretches text = stretchesOf (fragments text) := rfl

theorem stretchesOf_append (first second : List Fragment) :
    stretchesOf (first ++ second) = first.foldr Stretch.prepend (stretchesOf second) :=
  List.foldr_append

/-- The stretches of fragments hold their text. -/
theorem flatMap_text_stretchesOf (fragments : List Fragment) :
    (stretchesOf fragments).flatMap Stretch.text = fragments.flatMap Fragment.text := by
  induction fragments with
  | nil => rfl
  | cons fragment rest ih =>
    show (Stretch.prepend fragment (stretchesOf rest)).flatMap Stretch.text = _
    rw [List.flatMap_cons, ← ih]
    rcases Stretch.prepend_cases fragment (stretchesOf rest) with
      ⟨_, isPlain⟩ | ⟨number, _, ⟨blanks, source, spoken, others, following, isJoined⟩ |
        ⟨_, isAlone⟩⟩
    · rw [isPlain]
      rfl
    · rw [isJoined, following]
      simp [Stretch.text, Fragment.text]
    · rw [isAlone]
      rfl

/-- What holds of the stretches that a fragment makes in front of others, given that it
holds of those, holds of all stretches. -/
theorem forall_mem_stretchesOf (holds : Stretch → Prop) {fragments : List Fragment}
    (isPlain : ∀ fragment ∈ fragments, fragment.number? = none → holds (.plain fragment))
    (isAlone : ∀ fragment ∈ fragments, ∀ number, fragment.number? = some number →
      holds (.run fragment.text [number]))
    (isJoined : ∀ fragment ∈ fragments, ∀ number, fragment.number? = some number →
      ∀ blanks source spoken, holds (.plain (.gap blanks)) → holds (.run source spoken) →
        holds (.run (fragment.text ++ blanks ++ source) (number :: spoken))) :
    ∀ stretch ∈ stretchesOf fragments, holds stretch := by
  induction fragments with
  | nil =>
    intro stretch member
    cases member
  | cons fragment rest ih =>
    have ofRest := ih (fun other member => isPlain other (List.mem_cons_of_mem _ member))
      (fun other member => isAlone other (List.mem_cons_of_mem _ member))
      (fun other member => isJoined other (List.mem_cons_of_mem _ member))
    have inFront : stretchesOf (fragment :: rest) = Stretch.prepend fragment (stretchesOf rest) :=
      rfl
    rw [inFront]
    rcases Stretch.prepend_cases fragment (stretchesOf rest) with
      ⟨other, made⟩ | ⟨number, isNumber, ⟨blanks, source, spoken, after, following, made⟩ |
        ⟨_, made⟩⟩
    · rw [made]
      exact List.forall_mem_cons.mpr ⟨isPlain fragment List.mem_cons_self other, ofRest⟩
    · rw [following] at ofRest
      obtain ⟨ofGap, ofRun, ofAfter⟩ :=
        And.imp_right List.forall_mem_cons.mp (List.forall_mem_cons.mp ofRest)
      rw [made]
      refine List.forall_mem_cons.mpr ⟨?_, ofAfter⟩
      exact isJoined fragment List.mem_cons_self number isNumber blanks source spoken ofGap ofRun
    · rw [made]
      exact List.forall_mem_cons.mpr
        ⟨isAlone fragment List.mem_cons_self number isNumber, ofRest⟩

/-- Outside of the runs stand the fragments that are no number words. -/
theorem mem_of_plain_mem_stretchesOf {fragments : List Fragment} {fragment : Fragment}
    (member : .plain fragment ∈ stretchesOf fragments) :
    fragment ∈ fragments ∧ fragment.number? = none := by
  let holds : Stretch → Prop := fun stretch =>
    ∀ fragment, stretch = .plain fragment → fragment ∈ fragments ∧ fragment.number? = none
  refine forall_mem_stretchesOf holds ?_ ?_ ?_ _ member fragment rfl
  · intro other inFragments notNumber plain same
    obtain rfl := Stretch.plain.inj same
    exact ⟨inFragments, notNumber⟩
  · intro other _ number _ plain same
    cases same
  · intro other _ number _ blanks source spoken _ _ plain same
    cases same

/-- The words of a run are number words of the text. -/
theorem exists_word_of_mem_run {fragments : List Fragment} {source : Text}
    {spoken : List NumberWord} (isRun : .run source spoken ∈ stretchesOf fragments)
    {number : NumberWord} (member : number ∈ spoken) :
    ∃ fragment ∈ fragments, fragment.number? = some number := by
  let holds : Stretch → Prop := fun stretch =>
    ∀ source spoken, stretch = .run source spoken → ∀ number ∈ spoken,
      ∃ fragment ∈ fragments, fragment.number? = some number
  refine forall_mem_stretchesOf holds ?_ ?_ ?_ _ isRun source spoken rfl number member
  · intro other _ _ source spoken same
    cases same
  · intro other inFragments first isFirst source spoken same word isWord
    obtain ⟨_, rfl⟩ := Stretch.run.inj same
    obtain rfl := List.mem_singleton.mp isWord
    exact ⟨other, inFragments, isFirst⟩
  · intro other inFragments first isFirst blanks others words _ ofRun source spoken same word isWord
    obtain ⟨_, rfl⟩ := Stretch.run.inj same
    rcases List.mem_cons.mp isWord with rfl | later
    · exact ⟨other, inFragments, isFirst⟩
    · exact ofRun others words rfl word later

/-- A run has at least one word. -/
theorem spoken_ne_nil_of_mem_run {fragments : List Fragment} {source : Text}
    {spoken : List NumberWord} (isRun : .run source spoken ∈ stretchesOf fragments) :
    spoken ≠ [] := by
  let holds : Stretch → Prop := fun stretch =>
    ∀ source spoken, stretch = .run source spoken → spoken ≠ []
  refine forall_mem_stretchesOf holds ?_ ?_ ?_ _ isRun source spoken rfl
  · intro other _ _ source spoken same
    cases same
  · intro other _ number _ source spoken same
    rw [← (Stretch.run.inj same).2]
    exact List.cons_ne_nil _ _
  · intro other _ number _ blanks others words _ _ source spoken same
    rw [← (Stretch.run.inj same).2]
    exact List.cons_ne_nil _ _

/-! ### Where two texts meet -/

namespace Stretch

/-- Stretches in front of which a number word does not reach beyond them: there is more
than a gap. -/
structure AreClosed (stretches : List Stretch) : Prop where
  nonempty : stretches ≠ []
  notGap : ∀ blanks, stretches ≠ [plain (.gap blanks)]

theorem prepend_append_of_areClosed {stretches : List Stretch} (closed : AreClosed stretches)
    (fragment : Fragment) (rest : List Stretch) :
    prepend fragment (stretches ++ rest) = prepend fragment stretches ++ rest ∧
      AreClosed (prepend fragment stretches) := by
  rcases prepend_cases fragment stretches with
    ⟨other, isPlain⟩ | ⟨number, isNumber, ⟨blanks, source, spoken, after, rfl, isJoined⟩ |
      ⟨noRun, isAlone⟩⟩
  · rw [isPlain, prepend_of_number?_none other]
    refine ⟨rfl, List.cons_ne_nil _ _, fun blanks same => ?_⟩
    exact closed.nonempty (List.cons_eq_cons.mp same).2
  · rw [isJoined]
    refine ⟨prepend_joined isNumber blanks source spoken (after ++ rest), List.cons_ne_nil _ _, ?_⟩
    intro blanks same
    cases (List.cons_eq_cons.mp same).1
  · rw [isAlone]
    refine ⟨prepend_alone isNumber fun blanks source spoken after same => ?_,
      List.cons_ne_nil _ _, ?_⟩
    · match stretches, closed with
      | [], closed => exact closed.nonempty rfl
      | [only], closed =>
        exact closed.notGap blanks
          (congrArg (fun stretch => [stretch]) (List.cons_eq_cons.mp same).1)
      | first :: second :: others, _ =>
        obtain ⟨isGap, same⟩ := List.cons_eq_cons.mp same
        obtain ⟨isRun, _⟩ := List.cons_eq_cons.mp same
        exact noRun blanks source spoken others (by rw [isGap, isRun])
    · intro blanks same
      cases (List.cons_eq_cons.mp same).1

theorem foldr_prepend_append_of_areClosed {stretches : List Stretch} (closed : AreClosed stretches)
    (fragments : List Fragment) (rest : List Stretch) :
    fragments.foldr prepend (stretches ++ rest) = fragments.foldr prepend stretches ++ rest ∧
      AreClosed (fragments.foldr prepend stretches) := by
  induction fragments with
  | nil => exact ⟨rfl, closed⟩
  | cons fragment others ih =>
    obtain ⟨isRest, stillClosed⟩ := ih
    rw [List.foldr_cons, List.foldr_cons, isRest]
    exact prepend_append_of_areClosed stillClosed fragment rest

end Stretch

/-- A run after fragments is extended by them in a way that does not depend on the run. -/
theorem foldr_prepend_run (fragments : List Fragment) :
    ∃ before start first, ∀ source spoken,
      fragments.foldr Stretch.prepend [.run source spoken] =
        before ++ [.run (start ++ source) (first ++ spoken)] := by
  induction fragments with
  | nil => exact ⟨[], [], [], fun _ _ => rfl⟩
  | cons fragment rest ih =>
    obtain ⟨before, start, first, isRest⟩ := ih
    by_cases closed : Stretch.AreClosed before
    · refine ⟨Stretch.prepend fragment before, start, first, fun source spoken => ?_⟩
      rw [List.foldr_cons, isRest, (Stretch.prepend_append_of_areClosed closed fragment _).1]
    · by_cases onlyGap : ∃ blanks, before = [.plain (.gap blanks)]
      · obtain ⟨blanks, rfl⟩ := onlyGap
        cases found : fragment.number? with
        | none =>
          refine ⟨[.plain fragment, .plain (.gap blanks)], start, first, fun source spoken => ?_⟩
          rw [List.foldr_cons, isRest, Stretch.prepend_of_number?_none found]
          rfl
        | some number =>
          refine ⟨[], fragment.text ++ blanks ++ start, number :: first, fun source spoken => ?_⟩
          rw [List.foldr_cons, isRest, List.singleton_append, Stretch.prepend_joined found,
            List.nil_append, List.append_assoc _ start, List.cons_append]
      · have nothing : before = [] := by
          by_contra nonempty
          exact closed ⟨nonempty, fun blanks same => onlyGap ⟨blanks, same⟩⟩
        subst nothing
        cases found : fragment.number? with
        | none =>
          refine ⟨[.plain fragment], start, first, fun source spoken => ?_⟩
          rw [List.foldr_cons, isRest, Stretch.prepend_of_number?_none found]
          rfl
        | some number =>
          refine ⟨[.run fragment.text [number]], start, first, fun source spoken => ?_⟩
          have noRun : ∀ blanks others words after,
              [Stretch.run (start ++ source) (first ++ spoken)] ≠
                .plain (.gap blanks) :: .run others words :: after := by
            intro blanks others words after same
            cases (List.cons_eq_cons.mp same).1
          rw [List.foldr_cons, isRest, List.nil_append, Stretch.prepend_alone found noRun]
          rfl

/-- A number word in front of a gap joins the run behind it. -/
theorem stretchesOf_cons_gap_joined {fragment : Fragment} {number : NumberWord}
    (isNumber : fragment.number? = some number) {second : List Fragment} {source : Text}
    {spoken : List NumberWord} {after : List Stretch}
    (begins : stretchesOf second = .run source spoken :: after) (blanks : Text) :
    stretchesOf (fragment :: .gap blanks :: second) =
      .run (fragment.text ++ blanks ++ source) (number :: spoken) :: after := by
  show Stretch.prepend fragment (.plain (.gap blanks) :: stretchesOf second) = _
  rw [begins, Stretch.prepend_joined isNumber]

/-- Runs on both sides of a gap become one. -/
theorem stretchesOf_append_gap_joined {first second : List Fragment} {last : Fragment}
    {number : NumberWord} (isNumber : last.number? = some number) {otherSource : Text}
    {others : List NumberWord} {after : List Stretch}
    (begins : stretchesOf second = .run otherSource others :: after) :
    ∃ before source spoken, stretchesOf (first ++ [last]) = before ++ [.run source spoken] ∧
      ∀ blanks, stretchesOf (first ++ [last] ++ .gap blanks :: second) =
        before ++ .run (source ++ blanks ++ otherSource) (spoken ++ others) :: after := by
  obtain ⟨before, start, words, isRun⟩ := foldr_prepend_run first
  have alone : Stretch.prepend last [] = [.run last.text [number]] := Stretch.prepend_nil isNumber
  refine ⟨before, start ++ last.text, words ++ [number], ?_, fun blanks => ?_⟩
  · rw [stretchesOf_append, show stretchesOf [last] = _ from alone, isRun]
  · have withLast : stretchesOf (last :: .gap blanks :: second) =
        [.run (last.text ++ blanks ++ otherSource) (number :: others)] ++ after :=
      stretchesOf_cons_gap_joined isNumber begins blanks
    have closed : Stretch.AreClosed
        [.run (last.text ++ blanks ++ otherSource) (number :: others)] :=
      ⟨List.cons_ne_nil _ _, fun _ same => by cases same⟩
    rw [List.append_assoc, List.singleton_append, stretchesOf_append, withLast,
      (Stretch.foldr_prepend_append_of_areClosed closed first after).1, isRun]
    simp [List.append_assoc]

/-- Stretches in front of others stay as they are if they end with no gap and no run is
extended. -/
theorem stretchesOf_append_apart {first second : List Fragment}
    (notGap : ∀ last ∈ first.getLast?, last.kind ≠ .gap)
    (apart : (∀ last ∈ first.getLast?, last.number? = none) ∨
      ¬Stretch.RunFollows (stretchesOf second)) :
    stretchesOf (first ++ second) = stretchesOf first ++ stretchesOf second := by
  rcases List.eq_nil_or_concat' first with rfl | ⟨init, last, rfl⟩
  · rfl
  · rw [List.getLast?_append, List.getLast?_singleton, Option.some_or] at notGap apart
    have meets : ∃ single, Stretch.AreClosed [single] ∧
        Stretch.prepend last (stretchesOf second) = [single] ++ stretchesOf second ∧
        Stretch.prepend last [] = [single] := by
      cases found : last.number? with
      | none =>
        refine ⟨.plain last, ⟨List.cons_ne_nil _ _, fun others same => ?_⟩,
          Stretch.prepend_of_number?_none found _, Stretch.prepend_of_number?_none found _⟩
        have isLast := Stretch.plain.inj (List.cons_eq_cons.mp same).1
        exact notGap last rfl (isLast ▸ rfl)
      | some number =>
        refine ⟨.run last.text [number], ⟨List.cons_ne_nil _ _, fun others same => ?_⟩,
          Stretch.prepend_of_not_runFollows found ?_, Stretch.prepend_nil found⟩
        · cases (List.cons_eq_cons.mp same).1
        · rcases apart with noNumber | noRun
          · rw [noNumber last rfl] at found
            cases found
          · exact noRun
    obtain ⟨single, closed, inFront, alone⟩ := meets
    have withLast : stretchesOf (last :: second) = [single] ++ stretchesOf second := inFront
    rw [List.append_assoc, List.singleton_append, stretchesOf_append, withLast,
      (Stretch.foldr_prepend_append_of_areClosed closed init _).1, stretchesOf_append,
      show stretchesOf [last] = [single] from alone]

/-- Otherwise the stretches on both sides stay as they are. -/
theorem stretchesOf_append_gap_apart {first second : List Fragment}
    (notGap : ∀ last ∈ first.getLast?, last.kind ≠ .gap)
    (apart : (∀ last ∈ first.getLast?, last.number? = none) ∨
      ∀ source spoken after, stretchesOf second ≠ .run source spoken :: after) (blanks : Text) :
    stretchesOf (first ++ .gap blanks :: second) =
      stretchesOf first ++ .plain (.gap blanks) :: stretchesOf second := by
  refine @stretchesOf_append_apart first (.gap blanks :: second) notGap ?_
  refine apart.imp_right fun noRun => ?_
  rintro ⟨_, source, spoken, after, same⟩
  exact noRun source spoken after (List.cons_eq_cons.mp same).2

/-! ### Where runs stop -/

namespace Stretch

/-- Whether no two runs have nothing but a gap between them. -/
def AreDivided : List Stretch → Prop
  | [] => True
  | run _ _ :: rest => ¬RunFollows rest ∧ AreDivided rest
  | plain _ :: rest => AreDivided rest

theorem prepend_areDivided {stretches : List Stretch} (divided : AreDivided stretches)
    (fragment : Fragment) : AreDivided (prepend fragment stretches) := by
  rcases prepend_cases fragment stretches with
    ⟨_, made⟩ | ⟨number, _, ⟨blanks, source, spoken, rest, rfl, made⟩ | ⟨noRun, made⟩⟩
  · rw [made]
    exact divided
  · rw [made]
    exact divided
  · rw [made]
    exact ⟨fun ⟨blanks, source, spoken, rest, same⟩ => noRun blanks source spoken rest same,
      divided⟩

end Stretch

theorem stretchesOf_areDivided (fragments : List Fragment) :
    Stretch.AreDivided (stretchesOf fragments) := by
  induction fragments with
  | nil => exact trivial
  | cons fragment rest ih => exact Stretch.prepend_areDivided ih fragment

end RadioCall
