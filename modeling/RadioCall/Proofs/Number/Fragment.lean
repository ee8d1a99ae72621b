/-
This file shows that a text is cut into fragments in one way only. The fragments of a text
are proper and stay apart: each holds characters of one kind, and no two neighbours could
be one fragment. Whatever list of fragments has these two properties is what its text is
cut into, so the fragments of a text that is put together are those of its parts wherever
the parts stay apart.
-/

import Mathlib.Data.List.Chain
import RadioCall.Number.Run

namespace RadioCall

/-! ### Kinds -/

namespace Fragment

/-- The kinds of fragments and of their characters. -/
inductive Kind
  | word
  | gap
  | mark
  deriving DecidableEq, Repr

/-- The kind of a character. -/
def kindOf (character : Char) : Kind :=
  if isWordCharacter character then .word else if isBlank character then .gap else .mark

/-- No blank can stand in a word. -/
theorem not_isWordCharacter_of_isBlank {character : Char} (isBlank : isBlank character) :
    ¬isWordCharacter character := by
  have apart : ∀ range ∈ blankTable, ∀ offset ≤ range.2 - range.1,
      ¬wordCharacterTable.covers (range.1 + offset) := by decide +kernel
  obtain ⟨range, member, fromFirst, toLast⟩ := CodeTable.exists_range_of_covers isBlank
  have outside := apart range member (character.toNat - range.1) (by omega)
  rwa [Nat.add_sub_cancel' fromFirst] at outside

theorem kindOf_eq_gap_iff {character : Char} : kindOf character = .gap ↔ isBlank character := by
  unfold kindOf
  by_cases isWord : isWordCharacter character
  · rw [if_pos isWord]
    refine ⟨nofun, fun isBlank => ?_⟩
    exact absurd isWord (not_isWordCharacter_of_isBlank isBlank)
  · rw [if_neg isWord]
    by_cases isBlank : RadioCall.isBlank character
    · rw [if_pos isBlank]
      exact ⟨fun _ => isBlank, fun _ => rfl⟩
    · rw [if_neg isBlank]
      exact ⟨nofun, fun impossible => absurd impossible isBlank⟩

/-- The kind of a fragment. -/
def kind : Fragment → Kind
  | word _ => .word
  | gap _ => .gap
  | mark _ => .mark

/-- A fragment that holds characters of its kind, and at least one. -/
structure IsProper (fragment : Fragment) : Prop where
  nonempty : fragment.text ≠ []
  uniform : ∀ character ∈ fragment.text, kindOf character = fragment.kind

/-- Whether two fragments one after the other are two: only marks may follow their kind. -/
def StaysApart (first second : Fragment) : Prop :=
  first.kind = second.kind → first.kind = .mark

end Fragment

/-- Fragments that are proper and stay apart. -/
structure AreMaximal (fragments : List Fragment) : Prop where
  proper : ∀ fragment ∈ fragments, fragment.IsProper
  apart : fragments.IsChain Fragment.StaysApart

theorem areMaximal_nil : AreMaximal [] where
  proper := fun _ member => by cases member
  apart := List.isChain_nil

theorem areMaximal_cons_iff {fragment : Fragment} {rest : List Fragment} :
    AreMaximal (fragment :: rest) ↔
      fragment.IsProper ∧ (∀ next ∈ rest.head?, fragment.StaysApart next) ∧ AreMaximal rest := by
  constructor
  · intro maximal
    have chain := List.isChain_cons.mp maximal.apart
    refine ⟨maximal.proper fragment List.mem_cons_self, chain.1, ?_, chain.2⟩
    exact fun other member => maximal.proper other (List.mem_cons_of_mem _ member)
  · intro parts
    obtain ⟨proper, apart, maximal⟩ := parts
    refine ⟨fun other member => ?_, List.isChain_cons.mpr ⟨apart, maximal.apart⟩⟩
    rcases List.mem_cons.mp member with rfl | later
    · exact proper
    · exact maximal.proper other later

/-- Maximal fragments in a row are maximal if they stay apart where they meet. -/
theorem AreMaximal.append {first second : List Fragment} (firstMaximal : AreMaximal first)
    (secondMaximal : AreMaximal second)
    (meet : ∀ last ∈ first.getLast?, ∀ next ∈ second.head?, last.StaysApart next) :
    AreMaximal (first ++ second) := by
  refine ⟨fun fragment member => ?_,
    List.isChain_append.mpr ⟨firstMaximal.apart, secondMaximal.apart, meet⟩⟩
  rcases List.mem_append.mp member with inFirst | inSecond
  · exact firstMaximal.proper fragment inFirst
  · exact secondMaximal.proper fragment inSecond

/-! ### Cutting a text -/

namespace Fragment

/-- A fragment is determined by its kind and its text. -/
theorem eq_of_kind_of_text {first second : Fragment} (sameKind : first.kind = second.kind)
    (sameText : first.text = second.text) : first = second := by
  cases first with
  | word letters =>
    cases second with
    | word others => exact congrArg word sameText
    | gap others => cases sameKind
    | mark other => cases sameKind
  | gap blanks =>
    cases second with
    | word others => cases sameKind
    | gap others => exact congrArg gap sameText
    | mark other => cases sameKind
  | mark character =>
    cases second with
    | word others => cases sameKind
    | gap others => cases sameKind
    | mark other => exact congrArg mark (List.singleton_inj.mp sameText)

/-- A character joins the first fragment if it is of its kind, and no mark; otherwise it
becomes a fragment of its own, which stays apart from those after it. -/
theorem prepend_cases (character : Char) (fragments : List Fragment) :
    (∃ first rest next, fragments = first :: rest ∧ first.kind = kindOf character ∧
        first.kind ≠ .mark ∧ next.kind = first.kind ∧ next.text = character :: first.text ∧
          prepend character fragments = next :: rest) ∨
      ∃ single : Fragment, single.kind = kindOf character ∧ single.text = [character] ∧
        (∀ next ∈ fragments.head?, single.StaysApart next) ∧
          prepend character fragments = single :: fragments := by
  generalize made : prepend character fragments = result
  unfold prepend at made
  split at made
  · next isWord =>
    have isKind : kindOf character = .word := by rw [kindOf, if_pos isWord]
    split at made
    · next letters rest =>
      exact .inl ⟨word letters, rest, word (character :: letters), rfl, isKind.symm, by simp [kind],
        rfl, rfl, made.symm⟩
    · next other =>
      refine .inr ⟨word [character], isKind.symm, rfl, fun next inFront same => ?_, made.symm⟩
      obtain ⟨rest, rfl⟩ := List.head?_eq_some_iff.mp inFront
      cases next with
      | word letters => exact absurd rfl (other letters rest)
      | gap blanks => cases same
      | mark mark => cases same
  · next notWord =>
    split at made
    · next isGap =>
      have isKind : kindOf character = .gap := by rw [kindOf, if_neg notWord, if_pos isGap]
      split at made
      · next blanks rest =>
        exact .inl ⟨gap blanks, rest, gap (character :: blanks), rfl, isKind.symm, by simp [kind],
          rfl, rfl, made.symm⟩
      · next other =>
        refine .inr ⟨gap [character], isKind.symm, rfl, fun next inFront same => ?_, made.symm⟩
        obtain ⟨rest, rfl⟩ := List.head?_eq_some_iff.mp inFront
        cases next with
        | word letters => cases same
        | gap blanks => exact absurd rfl (other blanks rest)
        | mark mark => cases same
    · next notGap =>
      have isKind : kindOf character = .mark := by rw [kindOf, if_neg notWord, if_neg notGap]
      exact .inr ⟨mark character, isKind.symm, rfl, fun _ _ _ => rfl, made.symm⟩

theorem flatMap_text_prepend (character : Char) (fragments : List Fragment) :
    (prepend character fragments).flatMap text = character :: fragments.flatMap text := by
  rcases prepend_cases character fragments with
    ⟨first, rest, next, rfl, _, _, _, isText, isFirst⟩ | ⟨single, _, isText, _, isOwn⟩
  · rw [isFirst, List.flatMap_cons, isText]
    rfl
  · rw [isOwn, List.flatMap_cons, isText]
    rfl

/-- Putting a character in front keeps fragments maximal. -/
theorem prepend_areMaximal {character : Char} {fragments : List Fragment}
    (maximal : AreMaximal fragments) : AreMaximal (prepend character fragments) := by
  rcases prepend_cases character fragments with
    ⟨first, rest, next, rfl, sameKind, _, isKind, isText, isFirst⟩ |
      ⟨single, isKind, isText, apart, isOwn⟩
  · obtain ⟨proper, apart, restMaximal⟩ := areMaximal_cons_iff.mp maximal
    rw [isFirst]
    refine areMaximal_cons_iff.mpr ⟨⟨?_, fun other member => ?_⟩, ?_, restMaximal⟩
    · rw [isText]
      exact List.cons_ne_nil _ _
    · rw [isText] at member
      rw [isKind]
      rcases List.mem_cons.mp member with rfl | later
      · exact sameKind.symm
      · exact proper.uniform other later
    · intro following inFront
      unfold StaysApart
      rw [isKind]
      exact apart following inFront
  · rw [isOwn]
    refine areMaximal_cons_iff.mpr ⟨⟨?_, fun other member => ?_⟩, apart, maximal⟩
    · rw [isText]
      exact List.cons_ne_nil _ _
    · rw [isText, List.mem_singleton] at member
      rw [member, isKind]

end Fragment

/-- The fragments of a text are maximal. -/
theorem fragments_areMaximal (text : Text) : AreMaximal (fragments text) := by
  induction text with
  | nil => exact areMaximal_nil
  | cons character rest ih => exact Fragment.prepend_areMaximal ih

/-- The fragments of a text hold the text. -/
theorem flatMap_text_fragments (text : Text) : (fragments text).flatMap Fragment.text = text := by
  induction text with
  | nil => rfl
  | cons character rest ih =>
    show (Fragment.prepend character (fragments rest)).flatMap Fragment.text = character :: rest
    rw [Fragment.flatMap_text_prepend, ih]

/-! ### The only way to cut a text -/

namespace Fragment

/-- A fragment of at least two characters without its first one. -/
theorem exists_shorter {fragment : Fragment} {character : Char} {others : Text}
    (isText : fragment.text = character :: others) (more : others ≠ []) :
    fragment.kind ≠ .mark ∧
      ∃ shorter : Fragment, shorter.kind = fragment.kind ∧ shorter.text = others := by
  cases fragment with
  | word letters => exact ⟨by simp [kind], word others, rfl, rfl⟩
  | gap blanks => exact ⟨by simp [kind], gap others, rfl, rfl⟩
  | mark mark => exact absurd (List.cons_eq_cons.mp isText).2.symm more

/-- The characters of a proper fragment, put in front of fragments from which it stays
apart, become the fragment. -/
theorem foldr_prepend_text {fragment : Fragment} (proper : fragment.IsProper)
    {rest : List Fragment} (apart : ∀ next ∈ rest.head?, fragment.StaysApart next) :
    fragment.text.foldr prepend rest = fragment :: rest := by
  generalize isText : fragment.text = text
  induction text generalizing fragment with
  | nil => exact absurd isText proper.nonempty
  | cons character others ih =>
    have isKind : kindOf character = fragment.kind :=
      proper.uniform character (isText ▸ List.mem_cons_self)
    rw [List.foldr_cons]
    by_cases more : others = []
    · subst more
      rw [List.foldr_nil]
      rcases prepend_cases character rest with
        ⟨first, following, _, rfl, sameKind, notMark, _⟩ |
          ⟨single, singleKind, singleText, _, isOwn⟩
      · have isMark := apart first rfl (isKind.symm.trans sameKind.symm)
        exact absurd (sameKind.trans (isKind.trans isMark)) notMark
      · rw [isOwn, eq_of_kind_of_text (singleKind.trans isKind) (singleText.trans isText.symm)]
    · obtain ⟨notMark, shorter, sameKind, shorterText⟩ := exists_shorter isText more
      have shorterProper : shorter.IsProper := by
        refine ⟨shorterText ▸ more, fun other member => ?_⟩
        rw [shorterText] at member
        rw [sameKind]
        exact proper.uniform other (isText ▸ List.mem_cons_of_mem _ member)
      have shorterApart : ∀ next ∈ rest.head?, shorter.StaysApart next := by
        unfold StaysApart
        rw [sameKind]
        exact apart
      rw [ih shorterProper shorterApart shorterText]
      rcases prepend_cases character (shorter :: rest) with
        ⟨first, following, next, split, _, _, nextKind, nextText, isNext⟩ |
          ⟨single, singleKind, _, singleApart, _⟩
      · obtain ⟨rfl, rfl⟩ := List.cons_eq_cons.mp split
        rw [isNext]
        rw [shorterText] at nextText
        rw [eq_of_kind_of_text (nextKind.trans sameKind) (nextText.trans isText.symm)]
      · have isMark := singleApart shorter rfl (singleKind.trans (isKind.trans sameKind.symm))
        exact absurd (isKind.symm.trans (singleKind.symm.trans isMark)) notMark

end Fragment

/-- Maximal fragments are the fragments of their text. -/
theorem fragments_flatMap_text {pieces : List Fragment} (maximal : AreMaximal pieces) :
    fragments (pieces.flatMap Fragment.text) = pieces := by
  induction pieces with
  | nil => rfl
  | cons fragment rest ih =>
    obtain ⟨proper, apart, restMaximal⟩ := areMaximal_cons_iff.mp maximal
    have isRest : (rest.flatMap Fragment.text).foldr Fragment.prepend [] = rest := ih restMaximal
    rw [List.flatMap_cons, fragments, List.foldr_append, isRest,
      Fragment.foldr_prepend_text proper apart]

/-! ### Fragments of texts in a row -/

/-- The first fragment of a text is of the kind of its first character. -/
theorem kind_head?_fragments (text : Text) :
    (fragments text).head?.map Fragment.kind = text.head?.map Fragment.kindOf := by
  have maximal := fragments_areMaximal text
  have isText := flatMap_text_fragments text
  cases isCut : fragments text with
  | nil =>
    rw [isCut] at isText
    rw [← isText]
    rfl
  | cons fragment rest =>
    rw [isCut] at maximal isText
    have proper := maximal.proper fragment List.mem_cons_self
    obtain ⟨character, others, isFirst⟩ := List.exists_cons_of_ne_nil proper.nonempty
    rw [← isText, List.flatMap_cons, isFirst, List.cons_append, List.head?_cons, List.head?_cons,
      Option.map_some, Option.map_some, proper.uniform character (isFirst ▸ List.mem_cons_self)]

/-- The last fragment of a text is of the kind of its last character. -/
theorem kind_getLast?_fragments (text : Text) :
    (fragments text).getLast?.map Fragment.kind = text.getLast?.map Fragment.kindOf := by
  have maximal := fragments_areMaximal text
  have isText := flatMap_text_fragments text
  rcases List.eq_nil_or_concat' (fragments text) with isCut | ⟨init, fragment, isCut⟩
  · rw [isCut] at isText ⊢
    rw [← isText]
    rfl
  · rw [isCut] at maximal isText ⊢
    have proper := maximal.proper fragment (by simp)
    obtain ⟨others, character, isLast⟩ :=
      (List.eq_nil_or_concat' fragment.text).resolve_left proper.nonempty
    rw [← isText, List.flatMap_append, List.flatMap_singleton, isLast, ← List.append_assoc,
      List.getLast?_concat, List.getLast?_concat, Option.map_some, Option.map_some,
      proper.uniform character (by simp [isLast])]

theorem kind_getLast?_fragments_ne_gap {text : Text}
    (noGap : ∀ last ∈ text.getLast?, Fragment.kindOf last ≠ .gap) :
    ∀ last ∈ (fragments text).getLast?, last.kind ≠ .gap := by
  intro last isLast isGap
  have lastKind := kind_getLast?_fragments text
  rw [Option.mem_def.mp isLast] at lastKind
  obtain ⟨character, isCharacter, isKind⟩ := Option.map_eq_some_iff.mp lastKind.symm
  exact noGap character isCharacter (isKind.trans isGap)

/-- The fragments of two texts in a row, if they stay apart where the texts meet. -/
theorem fragments_append {first second : Text}
    (meet : ∀ last ∈ first.getLast?, ∀ next ∈ second.head?,
      Fragment.kindOf last = Fragment.kindOf next → Fragment.kindOf last = .mark) :
    fragments (first ++ second) = fragments first ++ fragments second := by
  have maximal : AreMaximal (fragments first ++ fragments second) := by
    refine (fragments_areMaximal first).append (fragments_areMaximal second) ?_
    intro last isLast next isNext same
    have lastKind := kind_getLast?_fragments first
    have nextKind := kind_head?_fragments second
    rw [Option.mem_def.mp isLast] at lastKind
    rw [Option.mem_def.mp isNext] at nextKind
    obtain ⟨lastCharacter, inFirst, lastIs⟩ := Option.map_eq_some_iff.mp lastKind.symm
    obtain ⟨nextCharacter, inSecond, nextIs⟩ := Option.map_eq_some_iff.mp nextKind.symm
    rw [← lastIs]
    exact meet lastCharacter inFirst nextCharacter inSecond (lastIs.trans (same.trans nextIs.symm))
  have isCut := fragments_flatMap_text maximal
  rw [List.flatMap_append, flatMap_text_fragments, flatMap_text_fragments] at isCut
  exact isCut

/-- A fragment on its own is what its text is cut into. -/
theorem fragments_text {fragment : Fragment} (proper : fragment.IsProper) :
    fragments fragment.text = [fragment] := by
  have maximal : AreMaximal [fragment] :=
    areMaximal_cons_iff.mpr ⟨proper, nofun, areMaximal_nil⟩
  have isCut := fragments_flatMap_text maximal
  rwa [List.flatMap_singleton] at isCut

/-- A text of word characters is one fragment. -/
theorem fragments_of_wordCharacters {letters : Text} (nonempty : letters ≠ [])
    (areWord : ∀ character ∈ letters, isWordCharacter character) :
    fragments letters = [.word letters] := by
  have proper : (Fragment.word letters).IsProper := by
    refine ⟨nonempty, fun character member => ?_⟩
    rw [Fragment.kindOf, if_pos (areWord character member)]
    rfl
  exact fragments_text proper

/-- A single space divides fragments if no blank stands beside it. -/
theorem fragments_append_space {first second : Text}
    (lastNoGap : ∀ last ∈ first.getLast?, Fragment.kindOf last ≠ .gap)
    (nextNoGap : ∀ next ∈ second.head?, Fragment.kindOf next ≠ .gap) :
    fragments (first ++ ' ' :: second) =
      fragments first ++ .gap [' '] :: fragments second := by
  have space : Fragment.kindOf ' ' = .gap := by decide
  have isGap : fragments [' '] = [.gap [' ']] := by decide
  have afterSpace : fragments ([' '] ++ second) = fragments [' '] ++ fragments second := by
    refine fragments_append fun last isLast next isNext same => ?_
    obtain rfl := Option.some.inj isLast
    exact absurd (same.symm.trans space) (nextNoGap next isNext)
  rw [← List.singleton_append, fragments_append, afterSpace, isGap, List.singleton_append]
  intro last isLast next isNext same
  obtain rfl := Option.some.inj isNext
  exact absurd (same.trans space) (lastNoGap last isLast)

end RadioCall
