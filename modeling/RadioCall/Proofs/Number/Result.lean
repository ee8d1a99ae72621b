/-
This file says into what fragments the result falls when the numbers of a text are written
in digits. Each stretch gives the fragments of what is written for it, and where stretches
meet nothing grows together: a run begins and ends with a word, as its source did.
-/

import RadioCall.Proofs.Number.Kept

namespace RadioCall

/-! ### Solid words -/

/-- A text of word characters, at least one. -/
structure IsSolid (text : Text) : Prop where
  nonempty : text ≠ []
  areWord : ∀ character ∈ text, isWordCharacter character

theorem isSolid_spelling (number : NumberWord) : IsSolid number.spelling := by
  have solid : ∀ number ∈ NumberWord.all,
      number.spelling ≠ [] ∧ number.spelling.all isWordCharacter := by decide +kernel
  obtain ⟨nonempty, areWord⟩ := solid number (NumberWord.mem_all number)
  exact ⟨nonempty, List.all_eq_true.mp areWord⟩

theorem isSolid_decimal (value : Nat) : IsSolid (decimal value) := by
  refine ⟨decimal_ne_nil value, forall_mem_decimal ?_ value⟩
  decide +kernel

theorem isSolid_of_mem_writtenWords {cardinal : Cardinal} {word : Text}
    (member : word ∈ cardinal.writtenWords) : IsSolid word := by
  rw [Cardinal.writtenWords] at member
  split at member
  · obtain ⟨number, _, rfl⟩ := List.mem_map.mp member
    exact isSolid_spelling number
  · rw [List.mem_singleton.mp member]
    exact isSolid_decimal cardinal.value

theorem IsSolid.kindOf {text : Text} (solid : IsSolid text) {character : Char}
    (member : character ∈ text) : Fragment.kindOf character = .word := by
  rw [Fragment.kindOf, if_pos (solid.areWord character member)]

/-- A sentence of solid words begins and ends with a word character. -/
theorem kindOf_ends_of_sentence {words : List Text} (solid : ∀ word ∈ words, IsSolid word) :
    (∀ first ∈ (sentence words).head?, Fragment.kindOf first = .word) ∧
      ∀ last ∈ (sentence words).getLast?, Fragment.kindOf last = .word := by
  induction words with
  | nil => exact ⟨nofun, nofun⟩
  | cons word rest ih =>
    have isSolid := solid word List.mem_cons_self
    obtain ⟨character, others, rfl⟩ := List.exists_cons_of_ne_nil isSolid.nonempty
    cases rest with
    | nil =>
      rw [sentence_singleton]
      constructor
      · intro first inFront
        exact isSolid.kindOf (List.mem_of_mem_head? inFront)
      · intro last atEnd
        exact isSolid.kindOf (List.mem_of_mem_getLast? atEnd)
    | cons next following =>
      obtain ⟨_, ends⟩ := ih fun other member => solid other (List.mem_cons_of_mem _ member)
      rw [sentence_cons_cons]
      constructor
      · intro first inFront
        obtain rfl := Option.some.inj inFront
        exact isSolid.kindOf List.mem_cons_self
      · intro last atEnd
        refine ends last ?_
        have nonempty : sentence (next :: following) ≠ [] :=
          sentence_cons_ne_nil (solid next (by simp)).nonempty following
        rw [List.getLast?_append, List.getLast?_cons] at atEnd
        obtain ⟨final, isFinal⟩ := Option.isSome_iff_exists.mp (List.getLast?_isSome.mpr nonempty)
        rw [isFinal] at atEnd ⊢
        exact atEnd

/-- The fragments of a sentence of solid words are the words and the spaces between them. -/
theorem mem_fragments_sentence {words : List Text} (solid : ∀ word ∈ words, IsSolid word)
    {fragment : Fragment} (member : fragment ∈ fragments (sentence words)) :
    fragment = .gap [' '] ∨ ∃ word ∈ words, fragment = .word word := by
  induction words with
  | nil => cases member
  | cons word rest ih =>
    have isSolid := solid word List.mem_cons_self
    have own : fragments word = [.word word] :=
      fragments_of_wordCharacters isSolid.nonempty isSolid.areWord
    cases rest with
    | nil =>
      rw [sentence_singleton, own, List.mem_singleton] at member
      exact .inr ⟨word, List.mem_cons_self, member⟩
    | cons next following =>
      have solidRest : ∀ word ∈ next :: following, IsSolid word :=
        fun other member => solid other (List.mem_cons_of_mem _ member)
      have noGap : fragments (word ++ ' ' :: sentence (next :: following)) =
          fragments word ++ .gap [' '] :: fragments (sentence (next :: following)) := by
        refine fragments_append_space (fun last atEnd => ?_) fun first inFront => ?_
        · rw [isSolid.kindOf (List.mem_of_mem_getLast? atEnd)]
          decide
        · rw [(kindOf_ends_of_sentence solidRest).1 first inFront]
          decide
      rw [sentence_cons_cons, noGap, own, List.mem_append, List.mem_singleton,
        List.mem_cons] at member
      rcases member with isWord | isGap | inRest
      · exact .inr ⟨word, List.mem_cons_self, isWord⟩
      · exact .inl isGap
      · rcases ih solidRest inRest with isGap | ⟨other, inWords, isWord⟩
        · exact .inl isGap
        · exact .inr ⟨other, List.mem_cons_of_mem _ inWords, isWord⟩

/-- The fragments of a sentence of solid words are those of a front part, and of the rest
behind a space. -/
theorem exists_fragments_sentence_append {first second : List Text} (nonempty : first ≠ [])
    (firstSolid : ∀ word ∈ first, IsSolid word) (secondSolid : ∀ word ∈ second, IsSolid word) :
    ∃ following, fragments (sentence (first ++ second)) =
        fragments (sentence first) ++ following ∧
      (following = [] ∨ following = .gap [' '] :: fragments (sentence second)) := by
  by_cases isLast : second = []
  · refine ⟨[], ?_, .inl rfl⟩
    rw [isLast, List.append_nil, List.append_nil]
  · refine ⟨_, ?_, .inr rfl⟩
    rw [sentence_append nonempty isLast]
    refine fragments_append_space (fun last atEnd => ?_) fun next inFront => ?_
    · rw [(kindOf_ends_of_sentence firstSolid).2 last atEnd]
      exact nofun
    · rw [(kindOf_ends_of_sentence secondSolid).1 next inFront]
      exact nofun

/-! ### Where stretches meet -/

namespace Stretch

/-- The kind of a stretch: a run begins and ends with a word. -/
def kind : Stretch → Fragment.Kind
  | run _ _ => .word
  | plain fragment => fragment.kind

/-- Whether two stretches one after the other stay apart. -/
def StaysApart (first second : Stretch) : Prop :=
  first.kind = second.kind → first.kind = .mark

/-- The fragments of what is written for a stretch. -/
def pieces : Stretch → List Fragment
  | run _ spoken => fragments (sentence (Cardinal.runWords spoken))
  | plain fragment => [fragment]

theorem kind_of_number? {fragment : Fragment} {number : NumberWord}
    (isNumber : fragment.number? = some number) : fragment.kind = .word := by
  cases fragment with
  | word letters => rfl
  | gap blanks => cases isNumber
  | mark character => cases isNumber

end Stretch

/-- The first stretch is of the kind of the first fragment. -/
theorem kind_head?_stretchesOf (fragments : List Fragment) :
    (stretchesOf fragments).head?.map Stretch.kind = fragments.head?.map Fragment.kind := by
  cases fragments with
  | nil => rfl
  | cons fragment rest =>
    show (Stretch.prepend fragment (stretchesOf rest)).head?.map Stretch.kind = some fragment.kind
    rcases Stretch.prepend_cases fragment (stretchesOf rest) with
      ⟨_, made⟩ | ⟨number, isNumber, ⟨_, _, _, _, _, made⟩ | ⟨_, made⟩⟩
    · rw [made]
      rfl
    · rw [made, Stretch.kind_of_number? isNumber]
      rfl
    · rw [made, Stretch.kind_of_number? isNumber]
      rfl

/-- The stretches of maximal fragments stay apart. -/
theorem stretchesOf_isChain {fragments : List Fragment} (maximal : AreMaximal fragments) :
    (stretchesOf fragments).IsChain Stretch.StaysApart := by
  induction fragments with
  | nil => exact List.isChain_nil
  | cons fragment rest ih =>
    obtain ⟨_, apart, restMaximal⟩ := areMaximal_cons_iff.mp maximal
    have chain := ih restMaximal
    have sameStart := kind_head?_stretchesOf rest
    have follows {first : Stretch} (sameKind : first.kind = fragment.kind) :
        ∀ next ∈ (stretchesOf rest).head?, first.StaysApart next := by
      intro next isNext same
      rw [Option.mem_def.mp isNext] at sameStart
      obtain ⟨other, isOther, otherKind⟩ := Option.map_eq_some_iff.mp sameStart.symm
      rw [sameKind] at same ⊢
      exact apart other isOther (same.trans otherKind.symm)
    show (Stretch.prepend fragment (stretchesOf rest)).IsChain Stretch.StaysApart
    rcases Stretch.prepend_cases fragment (stretchesOf rest) with
      ⟨_, made⟩ | ⟨number, isNumber, ⟨blanks, source, spoken, after, following, made⟩ | ⟨_, made⟩⟩
    · rw [made]
      exact List.isChain_cons.mpr ⟨follows rfl, chain⟩
    · rw [following] at chain
      obtain ⟨afterRun, rest⟩ := List.isChain_cons.mp (List.isChain_cons.mp chain).2
      rw [made]
      exact List.isChain_cons.mpr ⟨afterRun, rest⟩
    · rw [made]
      exact List.isChain_cons.mpr ⟨follows (Stretch.kind_of_number? isNumber).symm, chain⟩

/-! ### Fragments of the result -/

theorem isSolid_of_mem_runWords {spoken : List NumberWord} {word : Text}
    (member : word ∈ Cardinal.runWords spoken) : IsSolid word := by
  obtain ⟨cardinal, _, inCardinal⟩ := List.mem_flatMap.mp member
  exact isSolid_of_mem_writtenWords inCardinal

theorem Stretch.flatMap_text_pieces {stretch : Stretch} {text : Text}
    (written : stretch.written = .ok text) : stretch.pieces.flatMap Fragment.text = text := by
  cases stretch with
  | run source spoken =>
    rw [pieces, flatMap_text_fragments]
    exact (Cardinal.writtenRun_eq_ok_iff.mp written).2.symm
  | plain fragment =>
    obtain rfl := Except.ok.inj written
    exact List.flatMap_singleton _ _

/-- The pieces of a stretch begin and end with its kind. -/
theorem Stretch.kind_pieces (stretch : Stretch) :
    (∀ first ∈ stretch.pieces.head?, first.kind = stretch.kind) ∧
      ∀ last ∈ stretch.pieces.getLast?, last.kind = stretch.kind := by
  cases stretch with
  | plain fragment =>
    constructor
    · intro first inFront
      rw [← Option.some.inj inFront]
      rfl
    · intro last atEnd
      rw [← Option.some.inj atEnd]
      rfl
  | run source spoken =>
    have ends := kindOf_ends_of_sentence fun _ member => @isSolid_of_mem_runWords spoken _ member
    have firstKind : (run source spoken).pieces.head?.map Fragment.kind =
        (sentence (Cardinal.runWords spoken)).head?.map Fragment.kindOf := kind_head?_fragments _
    have lastKind : (run source spoken).pieces.getLast?.map Fragment.kind =
        (sentence (Cardinal.runWords spoken)).getLast?.map Fragment.kindOf :=
          kind_getLast?_fragments _
    constructor
    · intro first inFront
      rw [Option.mem_def.mp inFront] at firstKind
      obtain ⟨character, isFirst, isKind⟩ := Option.map_eq_some_iff.mp firstKind.symm
      exact isKind.symm.trans (ends.1 character isFirst)
    · intro last atEnd
      rw [Option.mem_def.mp atEnd] at lastKind
      obtain ⟨character, isLast, isKind⟩ := Option.map_eq_some_iff.mp lastKind.symm
      exact isKind.symm.trans (ends.2 character isLast)

/-- Whether a stretch is a run with a word in it, or a proper fragment. -/
def Stretch.IsProper : Stretch → Prop
  | run _ spoken => spoken ≠ []
  | plain fragment => fragment.IsProper

theorem isProper_of_mem_stretchesOf {fragments : List Fragment} (maximal : AreMaximal fragments)
    {stretch : Stretch} (member : stretch ∈ stretchesOf fragments) : stretch.IsProper := by
  cases stretch with
  | run source spoken => exact spoken_ne_nil_of_mem_run member
  | plain fragment => exact maximal.proper fragment (mem_of_plain_mem_stretchesOf member).1

theorem Stretch.IsProper.pieces_ne_nil {stretch : Stretch} (proper : stretch.IsProper) :
    stretch.pieces ≠ [] := by
  cases stretch with
  | plain fragment => exact List.cons_ne_nil _ _
  | run source spoken =>
    obtain ⟨first, others, isWords⟩ :=
      List.exists_cons_of_ne_nil (Cardinal.runWords_ne_nil proper)
    have solid : IsSolid first := isSolid_of_mem_runWords (isWords ▸ List.mem_cons_self)
    intro none
    have held := flatMap_text_fragments (sentence (Cardinal.runWords spoken))
    rw [show fragments (sentence (Cardinal.runWords spoken)) = [] from none, isWords] at held
    exact sentence_cons_ne_nil solid.nonempty others held.symm

theorem Stretch.IsProper.pieces_areMaximal {stretch : Stretch} (proper : stretch.IsProper) :
    AreMaximal stretch.pieces := by
  cases stretch with
  | plain fragment => exact areMaximal_cons_iff.mpr ⟨proper, nofun, areMaximal_nil⟩
  | run source spoken => exact fragments_areMaximal _

/-- The pieces of stretches that stay apart do so too. -/
theorem areMaximal_flatMap_pieces {stretches : List Stretch}
    (proper : ∀ stretch ∈ stretches, stretch.IsProper)
    (chain : stretches.IsChain Stretch.StaysApart) :
    AreMaximal (stretches.flatMap Stretch.pieces) := by
  induction stretches with
  | nil => exact areMaximal_nil
  | cons stretch rest ih =>
    obtain ⟨isProper, properRest⟩ := List.forall_mem_cons.mp proper
    obtain ⟨meets, restChain⟩ := List.isChain_cons.mp chain
    rw [List.flatMap_cons]
    refine isProper.pieces_areMaximal.append (ih properRest restChain) ?_
    intro last atEnd next inFront same
    cases rest with
    | nil => cases inFront
    | cons following others =>
      obtain ⟨first, more, isPieces⟩ := List.exists_cons_of_ne_nil
        (properRest following List.mem_cons_self).pieces_ne_nil
      rw [List.flatMap_cons, isPieces] at inFront
      obtain rfl := Option.some.inj inFront
      have lastKind : last.kind = stretch.kind := stretch.kind_pieces.2 last atEnd
      have firstKind : first.kind = following.kind :=
        following.kind_pieces.1 first (by rw [isPieces]; rfl)
      rw [lastKind] at same ⊢
      exact meets following rfl (same.trans firstKind)

theorem flatMap_text_flatMap_pieces {stretches : List Stretch} {result : Text}
    (writes : Writes stretches result) :
    (stretches.flatMap Stretch.pieces).flatMap Fragment.text = result := by
  induction stretches generalizing result with
  | nil => exact Except.ok.inj writes
  | cons stretch rest ih =>
    obtain ⟨first, others, written, isRest, rfl⟩ := writes_cons_iff.mp writes
    rw [List.flatMap_cons, List.flatMap_append, Stretch.flatMap_text_pieces written, ih isRest]

/-- The fragments of the result are those of its stretches in a row. -/
theorem fragments_of_writes {fragments : List Fragment} (maximal : AreMaximal fragments)
    {result : Text} (writes : Writes (stretchesOf fragments) result) :
    RadioCall.fragments result = (stretchesOf fragments).flatMap Stretch.pieces := by
  have proper : ∀ stretch ∈ stretchesOf fragments, stretch.IsProper :=
    fun stretch member => isProper_of_mem_stretchesOf maximal member
  have stillMaximal := areMaximal_flatMap_pieces proper (stretchesOf_isChain maximal)
  have isCut := fragments_flatMap_text stillMaximal
  rwa [flatMap_text_flatMap_pieces writes] at isCut

end RadioCall
