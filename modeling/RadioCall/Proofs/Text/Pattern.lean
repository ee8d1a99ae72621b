/-
This file defines patterns of text by the order in which they are tried. At a place of a text a
pattern can be matched in several ways, and a way is given up for the next one if what must
follow does not match behind it. Of alternatives the first is tried first, and what is repeated
is repeated as often as possible. A pattern divides a text into what it finds and the characters
that are passed: a match is the first way at the first place that has one, and the search goes
on behind it.
-/

import Mathlib.Data.List.DropRight
import RadioCall.Proofs.Text.Words
import RadioCall.Text.WordCharacter

namespace RadioCall

theorem not_any_head?_iff {test : Char → Bool} {rest : Text} :
    ¬rest.head?.any test ↔ ∀ next ∈ rest.head?, ¬test next := by
  simp [Option.any_eq_false]

/-! ### Places -/

/-- A place of a text, between what is before it and what is behind it. -/
structure Place where
  before : Text
  behind : Text
  deriving DecidableEq, Repr

namespace Place

/-- Whether exactly one of the two characters at a place can stand in a word. -/
def isBoundary (place : Place) : Bool :=
  place.before.getLast?.any isWordCharacter != place.behind.head?.any isWordCharacter

/-- Whether a place has characters of words on both sides. -/
def isInsideWord (place : Place) : Bool :=
  place.before.getLast?.any isWordCharacter && place.behind.head?.any isWordCharacter

theorem isInsideWord_of_any {before behind : Text} (last : before.getLast?.any isWordCharacter)
    (next : behind.head?.any isWordCharacter) : isInsideWord ⟨before, behind⟩ := by
  rw [isInsideWord, last, next, Bool.and_self]

end Place

/-! ### Patterns -/

/-- A pattern of text. -/
inductive Pattern
  /-- No text, at the boundary of a word. -/
  | boundary
  /-- One character that passes a test. -/
  | character (test : Char → Bool)
  /-- A given text. -/
  | literal (text : Text)
  /-- No way at all. -/
  | nothing
  /-- The ways of the first pattern, then those of the second. -/
  | either (first second : Pattern)
  /-- The second pattern behind the first. -/
  | sequence (first second : Pattern)
  /-- A pattern that takes at least one character, repeated any number of times. -/
  | repeated (body : Pattern)

namespace Pattern

/-- The places that are reached by repeating steps, more steps first. -/
def repeatedWays (step : Place → List Place) : Nat → Place → List Place
  | 0, place => [place]
  | count + 1, place => (step place).flatMap (repeatedWays step count) ++ [place]

/-- The places at which matches of a pattern end, in the order in which they are tried. A body
that takes characters is not repeated more often than there are characters left. -/
def ways : Pattern → Place → List Place
  | boundary, place => if place.isBoundary then [place] else []
  | character test, place =>
    match place.behind with
    | [] => []
    | first :: rest => if test first then [⟨place.before ++ [first], rest⟩] else []
  | literal text, place =>
    if text.isPrefixOf place.behind then
      [⟨place.before ++ text, place.behind.drop text.length⟩]
    else []
  | nothing, _ => []
  | either first second, place => first.ways place ++ second.ways place
  | sequence first second, place => (first.ways place).flatMap second.ways
  | repeated body, place => repeatedWays body.ways place.behind.length place

/-- The first of several texts that matches. -/
def anyOf (texts : List Text) : Pattern :=
  texts.foldr (fun text others => either (literal text) others) nothing

/-- A pattern that takes at least one character, repeated at least once. -/
def repeatedOnce (body : Pattern) : Pattern :=
  sequence body (repeated body)

/-! ### Searching a text -/

/-- A part of a text that is searched: a match, or a character outside of all. -/
inductive Part
  | found (source : Text)
  | passed (single : Char)
  deriving DecidableEq, Repr

/-- The text of a part. -/
def Part.text : Part → Text
  | found source => source
  | passed single => [single]

/-- The parts of a text from a place on. A match that takes no character is none. -/
def parts (pattern : Pattern) (before : Text) : Text → List Part
  | [] => []
  | first :: rest =>
    match (pattern.ways ⟨before, first :: rest⟩).head? with
    | none => .passed first :: parts pattern (before ++ [first]) rest
    | some stop =>
      if stop.behind.length ≤ rest.length then
        .found (stop.before.drop before.length) :: parts pattern stop.before stop.behind
      else .passed first :: parts pattern (before ++ [first]) rest
  termination_by behind => behind.length

/-- A part as it is written if matches are written anew: passed characters stay as they are. -/
def Part.written {ε : Type} (write : Text → Except ε Text) : Part → Except ε Text
  | found source => write source
  | passed single => .ok [single]

/-- A text with each match of a pattern written anew. -/
def substitute {ε : Type} (pattern : Pattern) (write : Text → Except ε Text) (text : Text) :
    Except ε Text :=
  List.flatten <$> (pattern.parts [] text).mapM (Part.written write)

/-! ### Ways of each kind of pattern -/

theorem ways_boundary (place : Place) :
    boundary.ways place = if place.isBoundary then [place] else [] := rfl

theorem ways_literal (text : Text) (place : Place) :
    (literal text).ways place =
      if text.isPrefixOf place.behind then
        [⟨place.before ++ text, place.behind.drop text.length⟩]
      else [] := rfl

theorem ways_sequence (first second : Pattern) (place : Place) :
    (sequence first second).ways place = (first.ways place).flatMap second.ways := rfl

theorem ways_repeated (body : Pattern) (place : Place) :
    (repeated body).ways place = repeatedWays body.ways place.behind.length place := rfl

/-! ### Boundaries -/

theorem ways_boundary_of_isInsideWord {place : Place} (inside : place.isInsideWord) :
    boundary.ways place = [] := by
  obtain ⟨last, next⟩ := Bool.and_eq_true_iff.mp inside
  rw [ways_boundary, Place.isBoundary, last, next]
  rfl

theorem ways_boundary_of_ends {before behind : Text} (last : before.getLast?.any isWordCharacter)
    (ends : ∀ next ∈ behind.head?, ¬isWordCharacter next) :
    boundary.ways ⟨before, behind⟩ = [⟨before, behind⟩] := by
  have noNext : behind.head?.any isWordCharacter = false :=
    Bool.eq_false_iff.mpr (not_any_head?_iff.mpr ends)
  rw [ways_boundary, Place.isBoundary, last, noNext]
  rfl

theorem ways_boundary_of_begins {before behind : Text}
    (apart : ¬Place.isInsideWord ⟨before, behind⟩) (next : behind.head?.any isWordCharacter) :
    boundary.ways ⟨before, behind⟩ = [⟨before, behind⟩] := by
  have noLast : before.getLast?.any isWordCharacter = false :=
    Bool.eq_false_iff.mpr fun last => apart (Place.isInsideWord_of_any last next)
  rw [ways_boundary, Place.isBoundary, noLast, next]
  rfl

theorem eq_of_mem_ways_boundary {place other : Place} (member : other ∈ boundary.ways place) :
    other = place := by
  rw [ways_boundary] at member
  split at member
  · exact List.mem_singleton.mp member
  · cases member

/-! ### Ways in a row -/

theorem ways_anyOf (texts : List Text) (place : Place) :
    (anyOf texts).ways place = texts.flatMap fun text => (literal text).ways place := by
  induction texts with
  | nil => rfl
  | cons text others ih =>
    rw [List.flatMap_cons, ← ih]
    rfl

theorem ways_literal_append (before text rest : Text) :
    (literal text).ways ⟨before, text ++ rest⟩ = [⟨before ++ text, rest⟩] := by
  have isPrefix : text.isPrefixOf (text ++ rest) := List.isPrefixOf_iff_prefix.mpr ⟨rest, rfl⟩
  rw [ways_literal, if_pos isPrefix, List.drop_left]

theorem ways_literal_of_not_prefix {text behind : Text} (other : ¬text <+: behind)
    (before : Text) : (literal text).ways ⟨before, behind⟩ = [] := by
  rw [ways_literal, if_neg fun isPrefix => other (List.isPrefixOf_iff_prefix.mp isPrefix)]

theorem ways_character_cons {test : Char → Bool} {first : Char} (passes : test first)
    (before rest : Text) :
    (character test).ways ⟨before, first :: rest⟩ = [⟨before ++ [first], rest⟩] :=
  if_pos passes

theorem ways_character_of_ends {test : Char → Bool} {behind : Text}
    (ends : ∀ next ∈ behind.head?, ¬test next) (before : Text) :
    (character test).ways ⟨before, behind⟩ = [] := by
  cases behind with
  | nil => rfl
  | cons next rest => exact if_neg (ends next rfl)

/-- If nothing goes on in front of a character that passes the test, only the way that takes
all such characters does. -/
theorem flatMap_repeatedWays_character {test : Char → Bool} {run rest : Text}
    (passes : ∀ character ∈ run, test character) (ends : ∀ next ∈ rest.head?, ¬test next)
    {next : Place → List Place}
    (fails : ∀ place : Place, place.behind.head?.any test → next place = []) {count : Nat}
    (enough : run.length ≤ count) (before : Text) :
    (repeatedWays (character test).ways count ⟨before, run ++ rest⟩).flatMap next =
      next ⟨before ++ run, rest⟩ := by
  induction run generalizing before count with
  | nil =>
    rw [List.nil_append, List.append_nil]
    cases count with
    | zero => exact List.flatMap_singleton _ _
    | succ count =>
      rw [repeatedWays, ways_character_of_ends ends, List.flatMap_nil, List.nil_append,
        List.flatMap_singleton]
  | cons first others ih =>
    obtain ⟨firstPasses, othersPass⟩ := List.forall_mem_cons.mp passes
    obtain ⟨count, rfl⟩ := Nat.exists_eq_add_of_le' enough
    have shorter : others.length ≤ count + others.length := Nat.le_add_left _ _
    have stops : next ⟨before, first :: (others ++ rest)⟩ = [] :=
      fails _ (by simpa using firstPasses)
    rw [List.cons_append, List.length_cons, ← Nat.add_assoc, repeatedWays,
      ways_character_cons firstPasses, List.flatMap_singleton, List.flatMap_append,
      ih othersPass shorter, List.flatMap_singleton, stops, List.append_nil, List.append_assoc,
      List.singleton_append]

/-- The same of characters that are repeated at least once. -/
theorem flatMap_repeatedOnce_character {test : Char → Bool} {run rest : Text}
    (nonempty : run ≠ []) (passes : ∀ character ∈ run, test character)
    (ends : ∀ next ∈ rest.head?, ¬test next) {next : Place → List Place}
    (fails : ∀ place : Place, place.behind.head?.any test → next place = []) (before : Text) :
    ((repeatedOnce (character test)).ways ⟨before, run ++ rest⟩).flatMap next =
      next ⟨before ++ run, rest⟩ := by
  obtain ⟨first, others, rfl⟩ := List.exists_cons_of_ne_nil nonempty
  obtain ⟨firstPasses, othersPass⟩ := List.forall_mem_cons.mp passes
  rw [repeatedOnce, ways_sequence, List.cons_append, ways_character_cons firstPasses,
    List.flatMap_singleton, ways_repeated,
    flatMap_repeatedWays_character othersPass ends fails (by simp), List.append_assoc,
    List.singleton_append]

theorem ways_repeatedOnce_character_of_ends {test : Char → Bool} {behind : Text}
    (ends : ∀ next ∈ behind.head?, ¬test next) (before : Text) :
    (repeatedOnce (character test)).ways ⟨before, behind⟩ = [] := by
  rw [repeatedOnce, ways_sequence, ways_character_of_ends ends, List.flatMap_nil]

/-! ### Parts in a row -/

theorem parts_of_head? {pattern : Pattern} {before source rest : Text} (nonempty : source ≠ [])
    (isFirst : (pattern.ways ⟨before, source ++ rest⟩).head? = some ⟨before ++ source, rest⟩) :
    pattern.parts before (source ++ rest) =
      .found source :: pattern.parts (before ++ source) rest := by
  obtain ⟨first, others, rfl⟩ := List.exists_cons_of_ne_nil nonempty
  rw [List.cons_append] at isFirst ⊢
  rw [parts, isFirst]
  simp only [List.length_append, Nat.le_add_left, if_true, List.drop_left]

/-- Characters are passed up to the next place at which the pattern matches. -/
theorem parts_append {pattern : Pattern} {before passed rest : Text}
    (noWay : ∀ front next others, passed = front ++ next :: others →
      pattern.ways ⟨before ++ front, next :: (others ++ rest)⟩ = []) :
    pattern.parts before (passed ++ rest) =
      passed.map .passed ++ pattern.parts (before ++ passed) rest := by
  induction passed generalizing before with
  | nil => rw [List.nil_append, List.append_nil]; rfl
  | cons first others ih =>
    have noWayHere := noWay [] first others rfl
    rw [List.append_nil] at noWayHere
    have isRest := @ih (before ++ [first]) fun front next others isOthers => by
      have noWayThere := noWay (first :: front) next others (by rw [isOthers]; rfl)
      rwa [List.append_assoc, List.singleton_append]
    rw [List.cons_append, parts, noWayHere, List.head?_nil, isRest, List.append_assoc,
      List.singleton_append]
    rfl

end Pattern

end RadioCall
