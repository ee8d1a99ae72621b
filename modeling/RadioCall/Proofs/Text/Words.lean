/-
This file ties the words of a text to the sentences that join them. Every word of a text
is a maximal run without blanks, so it is not empty and holds no blank; and a sentence of
such words has exactly them as its words. Which blanks stand around words, and how many, is
of no consequence for them.
-/

import Mathlib.Data.List.TakeWhile
import RadioCall.Text.Words

namespace RadioCall

/-! ### Parts in front -/

/-- What passes a test, in front of something that does not, is what is taken and dropped. -/
theorem takeWhile_dropWhile_of_ends {α : Type} {test : α → Bool} {taken rest : List α}
    (passes : ∀ item ∈ taken, test item) (ends : ∀ next ∈ rest.head?, ¬test next) :
    (taken ++ rest).takeWhile test = taken ∧ (taken ++ rest).dropWhile test = rest := by
  rw [List.takeWhile_append_of_pos passes, List.dropWhile_append_of_pos passes]
  cases rest with
  | nil => exact ⟨List.append_nil taken, rfl⟩
  | cons next others =>
    have fails := ends next rfl
    rw [List.takeWhile_cons_of_neg fails, List.dropWhile_cons_of_neg fails, List.append_nil]
    exact ⟨rfl, rfl⟩

/-- What is left after dropping does not begin with anything that passes the test. -/
theorem not_of_mem_head?_dropWhile {α : Type} {test : α → Bool} {items : List α} {next : α}
    (isNext : next ∈ (items.dropWhile test).head?) : ¬test next := by
  have stopped := List.head?_dropWhile_not test items
  rw [Option.mem_def.mp isNext] at stopped
  exact ne_true_of_eq_false stopped

/-! ### Runs -/

/-- A run in front of a text that does not continue it is the first of the runs. -/
theorem runsOf_append {inside : Char → Bool} {run rest : Text} (nonempty : run ≠ [])
    (within : ∀ character ∈ run, inside character) (ends : beginsWith inside rest = false) :
    runsOf inside (run ++ rest) = run :: runsOf inside rest := by
  induction run with
  | nil => exact absurd rfl nonempty
  | cons character others ih =>
    have first := within character List.mem_cons_self
    rw [List.cons_append, runsOf, if_pos first]
    cases others with
    | nil => rw [List.nil_append, if_neg (by rw [ends]; exact Bool.false_ne_true)]
    | cons next others =>
      have second := within next (List.mem_cons_of_mem _ List.mem_cons_self)
      rw [List.cons_append, if_pos (show beginsWith inside (next :: (others ++ rest)) from second),
        ← List.cons_append, ih (List.cons_ne_nil _ _) fun character member =>
          within character (List.mem_cons_of_mem _ member)]
      rfl

theorem runsOf_cons_of_neg {inside : Char → Bool} {character : Char} (rest : Text)
    (outside : ¬inside character) : runsOf inside (character :: rest) = runsOf inside rest := by
  rw [runsOf, if_neg outside]

theorem runsOf_ne_nil {inside : Char → Bool} {text : Text} (begins : beginsWith inside text) :
    runsOf inside text ≠ [] := by
  cases text with
  | nil => cases begins
  | cons character rest =>
    rw [runsOf, if_pos (show inside character from begins)]
    split
    · cases runsOf inside rest with
      | nil => exact List.cons_ne_nil _ _
      | cons first others => exact List.cons_ne_nil _ _
    · exact List.cons_ne_nil _ _

/-- A text without runs holds no character that passes the test. -/
theorem not_inside_of_runsOf_eq_nil {inside : Char → Bool} {text : Text}
    (none : runsOf inside text = []) : ∀ character ∈ text, ¬inside character := by
  induction text with
  | nil => exact nofun
  | cons first rest ih =>
    by_cases within : inside first
    · exact absurd none (runsOf_ne_nil (show beginsWith inside (first :: rest) from within))
    · rw [runsOf_cons_of_neg rest within] at none
      exact List.forall_mem_cons.mpr ⟨within, ih none⟩

/-- Around the only run of a text nothing passes the test. -/
theorem exists_around_of_runsOf_eq_singleton {inside : Char → Bool} {text run : Text}
    (single : runsOf inside text = [run]) :
    ∃ before after, text = before ++ run ++ after ∧ (∀ character ∈ before, ¬inside character) ∧
      ∀ character ∈ after, ¬inside character := by
  induction text generalizing run with
  | nil => cases single
  | cons first rest ih =>
    by_cases within : inside first
    · rw [runsOf, if_pos within] at single
      by_cases begins : beginsWith inside rest
      · rw [if_pos begins] at single
        obtain ⟨start, others, isRest⟩ := List.exists_cons_of_ne_nil (runsOf_ne_nil begins)
        rw [isRest, extendFirst, List.cons_eq_cons] at single
        obtain ⟨rfl, rfl⟩ := single
        obtain ⟨before, after, split, outsideBefore, outsideAfter⟩ := ih isRest
        -- The run begins where the rest does, so there is nothing in front of it.
        have noBefore : before = [] := by
          cases before with
          | nil => rfl
          | cons head others =>
            rw [split] at begins
            exact absurd begins (outsideBefore head List.mem_cons_self)
        subst noBefore
        exact ⟨[], after, by rw [split]; rfl, nofun, outsideAfter⟩
      · rw [if_neg begins, List.cons_eq_cons] at single
        obtain ⟨rfl, isNil⟩ := single
        exact ⟨[], rest, rfl, nofun, not_inside_of_runsOf_eq_nil isNil⟩
    · rw [runsOf_cons_of_neg rest within] at single
      obtain ⟨before, after, split, outsideBefore, outsideAfter⟩ := ih single
      exact ⟨first :: before, after, by rw [split]; rfl,
        List.forall_mem_cons.mpr ⟨within, outsideBefore⟩, outsideAfter⟩

/-- A character that fails the test divides the runs of a text. -/
theorem runsOf_append_cons_of_neg {inside : Char → Bool} (first : Text) {character : Char}
    (outside : ¬inside character) (rest : Text) :
    runsOf inside (first ++ character :: rest) = runsOf inside first ++ runsOf inside rest := by
  induction first with
  | nil => exact runsOf_cons_of_neg rest outside
  | cons head others ih =>
    have sameStart :
        beginsWith inside (others ++ character :: rest) = beginsWith inside others := by
      cases others with
      | nil => simpa [beginsWith] using outside
      | cons next others => rfl
    rw [List.cons_append, runsOf, runsOf, sameStart, ih]
    split
    · split
      · next begins =>
        obtain ⟨run, runs, isRuns⟩ := List.exists_cons_of_ne_nil (runsOf_ne_nil begins)
        rw [isRuns]
        rfl
      · rfl
    · rfl

/-- A run is not empty and holds no character that fails the test. -/
theorem mem_runsOf {inside : Char → Bool} {text run : Text} (member : run ∈ runsOf inside text) :
    run ≠ [] ∧ ∀ character ∈ run, inside character := by
  induction text generalizing run with
  | nil => cases member
  | cons character rest ih =>
    rw [runsOf] at member
    split at member
    · next within =>
      have single : [character] ≠ [] ∧ ∀ other ∈ [character], inside other :=
        ⟨List.cons_ne_nil _ _, fun other inRun => by rwa [List.mem_singleton.mp inRun]⟩
      split at member
      · cases runs : runsOf inside rest with
        | nil =>
          rw [runs, extendFirst, List.mem_singleton] at member
          exact member ▸ single
        | cons first others =>
          rw [runs] at ih member
          rcases List.mem_cons.mp member with rfl | later
          · refine ⟨List.cons_ne_nil _ _, fun other inRun => ?_⟩
            rcases List.mem_cons.mp inRun with rfl | inFirst
            · exact within
            · exact (ih List.mem_cons_self).2 other inFirst
          · exact ih (List.mem_cons_of_mem _ later)
      · rcases List.mem_cons.mp member with rfl | later
        · exact single
        · exact ih later
    · exact ih member

/-- A run is made of characters of the text. -/
theorem subset_of_mem_runsOf {inside : Char → Bool} {text run : Text}
    (member : run ∈ runsOf inside text) : run ⊆ text := by
  induction text generalizing run with
  | nil => cases member
  | cons character rest ih =>
    have single : [character] ⊆ character :: rest :=
      List.cons_subset.mpr ⟨List.mem_cons_self, List.nil_subset _⟩
    have later {run : Text} (inRest : run ∈ runsOf inside rest) : run ⊆ character :: rest :=
      List.subset_cons_of_subset character (ih inRest)
    rw [runsOf] at member
    split at member
    · split at member
      · cases runs : runsOf inside rest with
        | nil =>
          rw [runs, extendFirst, List.mem_singleton] at member
          exact member ▸ single
        | cons first others =>
          rw [runs] at later member
          rcases List.mem_cons.mp member with rfl | isOther
          · exact List.cons_subset.mpr ⟨List.mem_cons_self, later List.mem_cons_self⟩
          · exact later (List.mem_cons_of_mem _ isOther)
      · rcases List.mem_cons.mp member with rfl | inRest
        · exact single
        · exact later inRest
    · exact later member

/-! ### Words -/

/-- A word: at least one character and no blanks. -/
structure IsWord (token : Text) : Prop where
  nonempty : token ≠ []
  unbroken : ∀ character ∈ token, isBlank character = false

instance (token : Text) : Decidable (IsWord token) :=
  decidable_of_iff (token ≠ [] ∧ token.all fun character => isBlank character = false) <| by
    rw [List.all_eq_true]
    simp only [decide_eq_true_eq]
    exact ⟨fun both => ⟨both.1, both.2⟩, fun isWord => ⟨isWord.nonempty, isWord.unbroken⟩⟩

theorem isWord_of_mem_words {text token : Text} (member : token ∈ words text) : IsWord token := by
  obtain ⟨nonempty, within⟩ := mem_runsOf member
  exact ⟨nonempty, fun character inToken => by simpa using within character inToken⟩

/-- A blank divides the words of a text. -/
theorem words_append_cons (first : Text) {blank : Char} (isBlank : isBlank blank) (rest : Text) :
    words (first ++ blank :: rest) = words first ++ words rest :=
  runsOf_append_cons_of_neg first (by simp [isBlank]) rest

theorem words_of_isWord {token : Text} (isWord : IsWord token) : words token = [token] := by
  have within : ∀ character ∈ token, (!isBlank character) = true := fun character member => by
    simp [isWord.unbroken character member]
  have onlyRun : runsOf (fun character => !isBlank character) (token ++ []) = [token] :=
    runsOf_append isWord.nonempty within rfl
  rw [List.append_nil] at onlyRun
  exact onlyRun

/-- A text with something besides blanks has a word. -/
theorem words_ne_nil {text : Text} {character : Char} (member : character ∈ text)
    (notBlank : ¬isBlank character) : words text ≠ [] := by
  intro none
  have outside := not_inside_of_runsOf_eq_nil none character member
  simp [notBlank] at outside

/-- Around the only word of a text there are blanks only. -/
theorem exists_around_of_words_eq_singleton {text word : Text} (single : words text = [word]) :
    ∃ before after, text = before ++ word ++ after ∧
      (∀ character ∈ before, isBlank character) ∧ ∀ character ∈ after, isBlank character := by
  obtain ⟨before, after, split, outsideBefore, outsideAfter⟩ :=
    exists_around_of_runsOf_eq_singleton single
  refine ⟨before, after, split, fun character member => ?_, fun character member => ?_⟩
  · simpa using outsideBefore character member
  · simpa using outsideAfter character member

/-! ### Words and blanks -/

/-- Blanks in front belong to no word. -/
theorem words_blanks_append {blanks : Text} (areBlank : ∀ character ∈ blanks, isBlank character)
    (rest : Text) : words (blanks ++ rest) = words rest := by
  induction blanks with
  | nil => rfl
  | cons blank others ih =>
    obtain ⟨isBlank, areBlank⟩ := List.forall_mem_cons.mp areBlank
    rw [List.cons_append, ← List.nil_append (blank :: (others ++ rest)),
      words_append_cons [] isBlank, ih areBlank]
    rfl

/-- Blanks divide the words of a text, however many they are. -/
theorem words_append_blanks (first : Text) {blanks : Text} (nonempty : blanks ≠ [])
    (areBlank : ∀ character ∈ blanks, isBlank character) (rest : Text) :
    words (first ++ (blanks ++ rest)) = words first ++ words rest := by
  obtain ⟨blank, others, rfl⟩ := List.exists_cons_of_ne_nil nonempty
  obtain ⟨isBlank, areBlank⟩ := List.forall_mem_cons.mp areBlank
  rw [List.cons_append, words_append_cons first isBlank, words_blanks_append areBlank]

/-- A word in front of a blank or of nothing is the first of the words. -/
theorem words_append_of_isWord {word rest : Text} (isWord : IsWord word)
    (ends : ∀ next ∈ rest.head?, isBlank next) : words (word ++ rest) = word :: words rest := by
  refine runsOf_append isWord.nonempty (fun character member => ?_) ?_
  · rw [isWord.unbroken character member]
    rfl
  · cases rest with
    | nil => rfl
    | cons next others =>
      rw [beginsWith, ends next rfl]
      rfl

/-- A text begins with blanks, if only with none. -/
theorem exists_blanks_append (text : Text) :
    ∃ blanks rest, text = blanks ++ rest ∧ (∀ character ∈ blanks, isBlank character) ∧
      ∀ next ∈ rest.head?, ¬isBlank next := by
  refine ⟨text.takeWhile isBlank, text.dropWhile isBlank, List.takeWhile_append_dropWhile.symm,
    fun character member => List.mem_takeWhile_imp member,
    fun next isNext => not_of_mem_head?_dropWhile isNext⟩

/-- A text that begins with no blank begins with a word, and a blank follows or nothing. -/
theorem exists_word_append {text : Text} (nonempty : text ≠ [])
    (begins : ∀ first ∈ text.head?, ¬isBlank first) :
    ∃ word rest, text = word ++ rest ∧ IsWord word ∧ ∀ next ∈ rest.head?, isBlank next := by
  let inside : Char → Bool := fun character => !isBlank character
  refine ⟨text.takeWhile inside, text.dropWhile inside, List.takeWhile_append_dropWhile.symm,
    ⟨?_, fun character member => ?_⟩, fun next isNext => ?_⟩
  · obtain ⟨first, others, rfl⟩ := List.exists_cons_of_ne_nil nonempty
    rw [List.takeWhile_cons_of_pos (by simpa [inside] using begins first rfl)]
    exact List.cons_ne_nil _ _
  · simpa [inside] using List.mem_takeWhile_imp member
  · simpa [inside] using not_of_mem_head?_dropWhile isNext

/-- A text that begins with no blank has a word, unless it is empty. -/
theorem eq_nil_of_words_eq_nil {text : Text} (begins : ∀ first ∈ text.head?, ¬isBlank first)
    (none : words text = []) : text = [] := by
  by_contra nonempty
  obtain ⟨word, rest, rfl, isWord, ends⟩ := exists_word_append nonempty begins
  rw [words_append_of_isWord isWord ends] at none
  cases none

/-! ### Sentences -/

@[simp]
theorem sentence_singleton (token : Text) : sentence [token] = token := by
  simp [sentence, List.intercalate]

theorem sentence_cons_cons (first second : Text) (rest : List Text) :
    sentence (first :: second :: rest) = first ++ ' ' :: sentence (second :: rest) := by
  simp [sentence, List.intercalate, List.intersperse]

/-- The words of a sentence are those that it joins. -/
theorem words_sentence {tokens : List Text} (areWords : ∀ token ∈ tokens, IsWord token) :
    words (sentence tokens) = tokens := by
  induction tokens with
  | nil => rfl
  | cons token rest ih =>
    have first := areWords token List.mem_cons_self
    cases rest with
    | nil => rw [sentence_singleton, words_of_isWord first]
    | cons next others =>
      rw [sentence_cons_cons, words_append_cons token (by decide), words_of_isWord first,
        List.singleton_append, ih fun token member =>
          areWords token (List.mem_cons_of_mem _ member)]

theorem sentence_append {first second : List Text} (firstNonempty : first ≠ [])
    (secondNonempty : second ≠ []) :
    sentence (first ++ second) = sentence first ++ ' ' :: sentence second := by
  induction first with
  | nil => exact absurd rfl firstNonempty
  | cons token rest ih =>
    cases rest with
    | nil =>
      obtain ⟨next, others, rfl⟩ := List.exists_cons_of_ne_nil secondNonempty
      rw [sentence_singleton, List.singleton_append, sentence_cons_cons]
    | cons next others =>
      have isRest := ih (List.cons_ne_nil _ _)
      rw [List.cons_append] at isRest
      rw [List.cons_append, List.cons_append, sentence_cons_cons, sentence_cons_cons, isRest,
        List.append_assoc, List.cons_append]

/-- A sentence of sentences is the sentence of all their words. -/
theorem sentence_map_sentence {groups : List (List Text)}
    (nonempty : ∀ group ∈ groups, group ≠ []) :
    sentence (groups.map sentence) = sentence groups.flatten := by
  induction groups with
  | nil => rfl
  | cons group rest ih =>
    have isRest := ih fun other member => nonempty other (List.mem_cons_of_mem _ member)
    cases rest with
    | nil => rw [List.map_singleton, sentence_singleton, List.flatten_singleton]
    | cons next others =>
      have following : (next :: others).flatten ≠ [] := by
        rw [List.flatten_cons]
        exact List.append_ne_nil_of_left_ne_nil
          (nonempty next (List.mem_cons_of_mem _ List.mem_cons_self)) _
      rw [List.map_cons, List.map_cons, sentence_cons_cons, ← List.map_cons, isRest,
        show (group :: next :: others).flatten = group ++ (next :: others).flatten from rfl,
        sentence_append (nonempty group List.mem_cons_self) following]

/-- Behind its first word a sentence does not depend on it. -/
theorem sentence_cons (token : Text) (rest : List Text) :
    sentence (token :: rest) = token ++ rest.flatMap (' ' :: ·) := by
  induction rest generalizing token with
  | nil => simp
  | cons next others ih => rw [sentence_cons_cons, ih next, List.flatMap_cons, List.cons_append]

/-- Sentences that go on alike behind a common first word do so behind any other. -/
theorem sentence_cons_of_eq_append {token : Text} {rest others : List Text} {back : Text}
    (same : sentence (token :: rest) = sentence (token :: others) ++ back) (first : Text) :
    sentence (first :: rest) = sentence (first :: others) ++ back := by
  rw [sentence_cons, sentence_cons, List.append_assoc] at same
  rw [sentence_cons, sentence_cons, List.append_cancel_left same, List.append_assoc]

/-- The characters of a sentence are those of its words and spaces. -/
theorem mem_sentence {tokens : List Text} {character : Char}
    (member : character ∈ sentence tokens) :
    character = ' ' ∨ ∃ token ∈ tokens, character ∈ token := by
  cases tokens with
  | nil => cases member
  | cons token rest =>
    rw [sentence_cons, List.mem_append, List.mem_flatMap] at member
    rcases member with inToken | ⟨other, isOther, inOther⟩
    · exact .inr ⟨token, List.mem_cons_self, inToken⟩
    · rcases List.mem_cons.mp inOther with isSpace | inOther
      · exact .inl isSpace
      · exact .inr ⟨other, List.mem_cons_of_mem _ isOther, inOther⟩

theorem sentence_cons_ne_nil {token : Text} (nonempty : token ≠ []) (rest : List Text) :
    sentence (token :: rest) ≠ [] := by
  cases rest with
  | nil => rwa [sentence_singleton]
  | cons next others =>
    rw [sentence_cons_cons]
    exact List.append_ne_nil_of_left_ne_nil nonempty _

end RadioCall
