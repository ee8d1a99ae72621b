/-
This file says what vocabulary files hold. A file holds a vocabulary if its text is read as a
document that is accepted as a definition; the file that comes with the program is the outline
of one that gives the standard vocabulary. Reading an outline and the parts of its definition is
left to evaluation, but the triggers are sorted apart from it, since sorting cannot be evaluated.
-/

import RadioCall.Document.Outline
import RadioCall.Proofs.Vocabulary.Listed
import RadioCall.Vocabulary.Cache

namespace RadioCall

/-! ### Files that hold vocabularies -/

/-- Whether the file at a place holds a vocabulary: its text is read as a document, and the
document is accepted as the definition of the vocabulary. -/
def HoldsVocabulary (reader : DocumentReader) (tree : FileTree) (place : Location)
    (vocabulary : Vocabulary) : Prop :=
  ∃ text document, tree.read place.path = .ok (.text text) ∧ reader text = .ok document ∧
    Vocabulary.ofDocument document.definition = .ok vocabulary

theorem HoldsVocabulary.of_text {reader : DocumentReader} {tree : FileTree} {place : Location}
    {vocabulary : Vocabulary} {text : Text} (isFile : tree.read place.path = .ok (.text text))
    (gives : ∃ document, reader text = .ok document ∧
      Vocabulary.ofDocument document.definition = .ok vocabulary) :
    HoldsVocabulary reader tree place vocabulary := by
  obtain ⟨document, isRead, isVocabulary⟩ := gives
  exact ⟨text, document, isFile, isRead, isVocabulary⟩

theorem Content.asDocument_eq_ok_iff {reader : DocumentReader} {content : Content}
    {document : Document} :
    content.asDocument reader = .ok document ↔
      ∃ text, content = .text text ∧ reader text = .ok document := by
  rw [asDocument, bind_eq_ok_iff]
  cases content with
  | text value => simp [asText]
  | undecodable => simp [asText]

theorem Vocabulary.read_eq_ok_iff {reader : DocumentReader} {tree : FileTree} {place : Location}
    {vocabulary : Vocabulary} :
    Vocabulary.read reader tree place = .ok vocabulary ↔
      HoldsVocabulary reader tree place vocabulary := by
  rw [Vocabulary.read, bind_eq_ok_iff]
  constructor
  · rintro ⟨content, isContent, isGiven⟩
    obtain ⟨document, isDocument, isVocabulary⟩ := bind_eq_ok_iff.mp isGiven
    obtain ⟨text, rfl, isRead⟩ := Content.asDocument_eq_ok_iff.mp isDocument
    exact ⟨text, document, isContent, isRead, isVocabulary⟩
  · rintro ⟨text, document, isContent, isRead, isVocabulary⟩
    refine ⟨_, isContent, bind_eq_ok_iff.mpr ⟨document, ?_, isVocabulary⟩⟩
    exact Content.asDocument_eq_ok_iff.mpr ⟨text, rfl, isRead⟩

namespace Vocabulary

/-! ### Outlines of vocabularies -/

/-- Whether a text is the outline of a definition of a vocabulary, whose triggers are those given
before they are sorted. -/
def isOutlinedBy (vocabulary : Vocabulary) (triggers : List Trigger) (text : Text) : Bool :=
  match Outline.read text with
  | .ok (.mapping definition) =>
    match Document.find? "triggers".toList definition with
    | some (.mapping listing) =>
      readAlias definition = .ok vocabulary.universalAlias &&
        checkRequestNames listing = .ok () &&
        RequestWord.all.foldlM (addRequest listing) [] = .ok triggers &&
        readDigits definition = .ok vocabulary.digits &&
        readCategories definition = .ok vocabulary.categories
    | _ => false
  | _ => false

/-- A vocabulary is what its outline gives, if its triggers are the sorted ones. -/
theorem ofDocument_of_isOutlinedBy {vocabulary : Vocabulary} {triggers : List Trigger}
    {text : Text} (isOutlined : vocabulary.isOutlinedBy triggers text)
    (sorted : longestFirst triggers = vocabulary.triggers) :
    ∃ document, Outline.read text = .ok document ∧
      ofDocument document.definition = .ok vocabulary := by
  unfold isOutlinedBy at isOutlined
  split at isOutlined
  · next definition isRead =>
    split at isOutlined
    · next listing found =>
      simp only [Bool.and_eq_true, decide_eq_true_eq] at isOutlined
      obtain ⟨⟨⟨⟨isAlias, named⟩, added⟩, areDigits⟩, areCategories⟩ := isOutlined
      have areTriggers : readTriggers definition = .ok vocabulary.triggers := by
        rw [readTriggers, found, ← sorted]
        exact bind_eq_ok_iff.mpr ⟨(), named, map_eq_ok_iff.mpr ⟨_, added, rfl⟩⟩
      have isMapping : (Document.mapping definition).definition = .mapping definition := by
        cases definition <;> rfl
      refine ⟨_, isRead, ?_⟩
      rw [isMapping, ofDocument.eq_def]
      refine bind_eq_ok_iff.mpr ⟨_, isAlias, bind_eq_ok_iff.mpr ⟨_, areTriggers, ?_⟩⟩
      exact bind_eq_ok_iff.mpr ⟨_, areDigits, bind_eq_ok_iff.mpr ⟨_, areCategories, rfl⟩⟩
    · cases isOutlined
  · cases isOutlined

/-! ### The standard file -/

/-- The standard phrases in the order in which the standard file lists them. -/
def filedTriggers : List Trigger :=
  [⟨["alpha".toList, "check".toList], .alphaCheck⟩,
   ⟨["bogey".toList, "dope".toList], .bogeyDope⟩,
   ⟨["bogie".toList, "dope".toList], .bogeyDope⟩,
   ⟨["declare".toList], .declare⟩,
   ⟨["picture".toList], .picture⟩,
   ⟨["radio".toList, "check".toList], .radioCheck⟩,
   ⟨["comm".toList, "check".toList], .radioCheck⟩,
   ⟨["spiked".toList], .spiked⟩,
   ⟨["spike".toList], .spiked⟩,
   ⟨["snaplock".toList], .snaplock⟩,
   ⟨["snap".toList, "lock".toList], .snaplock⟩]

/-- The file that comes with the program gives the standard vocabulary. -/
theorem ofDocument_standardFile :
    ∃ document, Outline.read standardFile = .ok document ∧
      ofDocument document.definition = .ok standard := by
  have isOutlined : standard.isOutlinedBy filedTriggers standardFile := by decide +kernel
  have sorted : longestFirst filedTriggers = standard.triggers := by cbv
  exact ofDocument_of_isOutlinedBy isOutlined sorted

/-! ### A short file -/

/-- A vocabulary file with one phrase or word for everything. -/
def shortFile : Text :=
  ["universal_alias: allstations",
   "triggers:",
   "  alpha_check: [alpha]",
   "  bogey_dope: [bogey]",
   "  declare: [declare]",
   "  picture: [picture]",
   "  radio_check: [radio]",
   "  spiked: [spiked]",
   "  snaplock: [snaplock]",
   "digits:",
   "  0: [zero]",
   "  1: [one]",
   "  2: [two]",
   "  3: [three]",
   "  4: [four]",
   "  5: [five]",
   "  6: [six]",
   "  7: [seven]",
   "  8: [eight]",
   "  9: [nine]"].flatMap fun line => line.toList ++ ['\n']

/-- The vocabulary of the short file. -/
def short : Vocabulary where
  universalAlias := "allstations".toList
  triggers :=
    [⟨["alpha".toList], .alphaCheck⟩, ⟨["bogey".toList], .bogeyDope⟩,
     ⟨["declare".toList], .declare⟩, ⟨["picture".toList], .picture⟩,
     ⟨["radio".toList], .radioCheck⟩, ⟨["spiked".toList], .spiked⟩,
     ⟨["snaplock".toList], .snaplock⟩]
  digits :=
    ["zero".toList, "one".toList, "two".toList, "three".toList, "four".toList, "five".toList,
     "six".toList, "seven".toList, "eight".toList, "nine".toList].zip (List.finRange 10)
  categories := []

theorem ofDocument_shortFile :
    ∃ document, Outline.read shortFile = .ok document ∧
      ofDocument document.definition = .ok short := by
  have isOutlined : short.isOutlinedBy short.triggers shortFile := by decide +kernel
  have sorted : longestFirst short.triggers = short.triggers := by cbv
  exact ofDocument_of_isOutlinedBy isOutlined sorted

end Vocabulary

end RadioCall
