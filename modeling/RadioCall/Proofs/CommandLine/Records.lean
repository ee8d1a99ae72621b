/-
This file proves that the records of transmissions are faithful. There is one for each
transmission that is not blank, on a line of its own and in order, and it is made from that
transmission alone. It reads back as the request, or as the reason of the failure with the text
that was given up. What is printed tells requests from failures and any two requests apart, so
records and transmissions can be paired by counting. The records end at the first transmission
that cannot be parsed or whose numbers are too long to be written.
-/

import RadioCall.CommandLine.Printout
import RadioCall.Proofs.Json.Line
import RadioCall.Proofs.Json.Storable
import RadioCall.Vocabulary.Standard

namespace RadioCall

/-! ### Records of requests -/

theorem RequestWord.name_inj {first second : RequestWord} (same : first.name = second.name) :
    first = second := by
  have isNamed (word : RequestWord) : ofName? word.name = some word := by cases word <;> rfl
  rw [← Option.some.injEq, ← isNamed first, ← isNamed second, same]

theorem ContactCategory.name_inj {first second : ContactCategory}
    (same : first.name = second.name) : first = second := by
  have isNamed (category : ContactCategory) : ofName? category.name = some category := by
    cases category <;> rfl
  rw [← Option.some.injEq, ← isNamed first, ← isNamed second, same]

namespace Bra

/-- The numbers of a location. -/
def numbers (bra : Bra) : List Int :=
  [bra.bearing, bra.range, bra.altitude]

theorem isJson_record (bra : Bra) : bra.record.IsJson := by
  have nodup : ["bearing".toList, "range".toList, "altitude".toList].Nodup := by decide
  refine Document.isJson_record nodup ?_
  simp only [List.forall_mem_cons, Document.isJson_integer, true_and]
  exact nofun

theorem depth_record_le (bra : Bra) : bra.record.depth ≤ 1 :=
  Document.depth_record_le (by simp [Document.integer, Document.depth])

theorem record_inj {first second : Bra} (same : first.record = second.record) : first = second := by
  have sameFields := Document.record_inj same
  simp only [Document.integer, List.cons.injEq, Prod.mk.injEq, Document.scalar.injEq,
    Scalar.integer.injEq, true_and, and_true] at sameFields
  exact (Bra.mk.injEq ..).mpr sameFields

theorem holdsTooLong_record_iff {bra : Bra} :
    bra.record.HoldsTooLong ↔ ∃ number ∈ bra.numbers, HasTooManyDigits number := by
  rw [record, Document.holdsTooLong_record_iff]
  simp [numbers, Document.integer, Document.holdsTooLong_scalar_iff, Scalar.IsTooLong]

end Bra

namespace Request

/-- The numbers that a request carries. -/
def numbers : Request → List Int
  | declare _ bra _ => bra.numbers
  | picture _ radius => radius.toList
  | spiked _ bearing => [bearing]
  | snaplock _ bra => bra.numbers
  | _ => []

/-- A request has the fields that its form asks for. -/
theorem map_fst_ownFields (request : Request) :
    request.ownFields.map Prod.fst = request.word.formFields.map FormField.name := by
  cases request <;> rfl

theorem nodup_names (request : Request) :
    ("request_type".toList :: "callsign".toList :: request.ownFields.map Prod.fst).Nodup := by
  rw [map_fst_ownFields]
  cases request.word <;> decide

theorem ownFields_areJson (request : Request) :
    ∀ field ∈ request.ownFields, field.2.IsJson ∧ field.2.depth ≤ 1 := by
  have plain (value : Scalar) (isProper : value.IsProper) :
      (Document.scalar value).IsJson ∧ (Document.scalar value).depth ≤ 1 :=
    ⟨.scalar isProper, by rw [Document.depth]; exact Nat.zero_le 1⟩
  have ofBra (bra : Bra) : bra.record.IsJson ∧ bra.record.depth ≤ 1 :=
    ⟨bra.isJson_record, bra.depth_record_le⟩
  cases request with
  | alphaCheck => exact nofun
  | radioCheck => exact nofun
  | bogeyDope _ filter => exact List.forall_mem_singleton.mpr (plain (.text filter.name) trivial)
  | declare _ bra isBullseye =>
    exact List.forall_mem_cons.mpr
      ⟨ofBra bra, List.forall_mem_singleton.mpr (plain (.boolean isBullseye) trivial)⟩
  | picture _ radius =>
    refine List.forall_mem_singleton.mpr ?_
    cases radius with
    | none => exact plain .null trivial
    | some miles => exact plain (.integer miles) trivial
  | spiked _ bearing => exact List.forall_mem_singleton.mpr (plain (.integer bearing) trivial)
  | snaplock _ bra => exact List.forall_mem_singleton.mpr (ofBra bra)

theorem isJson_record (request : Request) : request.record.IsJson := by
  refine Document.isJson_record request.nodup_names (List.forall_mem_cons.mpr ⟨.scalar trivial,
    List.forall_mem_cons.mpr ⟨.scalar trivial, fun field member => ?_⟩⟩)
  exact (request.ownFields_areJson field member).1

theorem depth_record_le (request : Request) : request.record.depth ≤ 2 := by
  refine Document.depth_record_le (List.forall_mem_cons.mpr ⟨?_, List.forall_mem_cons.mpr
    ⟨?_, fun field member => (request.ownFields_areJson field member).2⟩⟩)
  all_goals
    rw [Document.text, Document.depth]
    exact Nat.zero_le 1

/-- A request can be written unless one of its numbers has too many digits. -/
theorem holdsTooLong_record_iff {request : Request} :
    request.record.HoldsTooLong ↔ ∃ number ∈ request.numbers, HasTooManyDigits number := by
  have noText (value : Text) : ¬(Document.text value).HoldsTooLong :=
    mt Document.holdsTooLong_scalar_iff.mp id
  have ofFields : request.record.HoldsTooLong ↔
      ∃ field ∈ request.ownFields, field.2.HoldsTooLong := by
    refine Document.holdsTooLong_record_iff.trans ?_
    simp only [form, List.mem_cons, exists_eq_or_imp, noText, false_or]
  rw [ofFields]
  cases request with
  | alphaCheck => simp [ownFields, numbers]
  | radioCheck => simp [ownFields, numbers]
  | bogeyDope => simp [ownFields, numbers, noText]
  | declare =>
    simp [ownFields, numbers, Bra.holdsTooLong_record_iff, Document.boolean,
      Document.holdsTooLong_scalar_iff, Scalar.IsTooLong]
  | picture _ radius =>
    cases radius <;> simp [ownFields, numbers, Document.null, Document.integer,
      Document.holdsTooLong_scalar_iff, Scalar.IsTooLong]
  | spiked =>
    simp [ownFields, numbers, Document.integer, Document.holdsTooLong_scalar_iff,
      Scalar.IsTooLong]
  | snaplock => simp [ownFields, numbers, Bra.holdsTooLong_record_iff]

theorem radius_inj {first second : Option Int}
    (same : (first.map Document.integer).getD .null = (second.map Document.integer).getD .null) :
    first = second := by
  cases first with
  | none =>
    cases second with
    | none => rfl
    | some miles => cases same
  | some miles =>
    cases second with
    | none => cases same
    | some others => rw [Scalar.integer.inj (Document.scalar.inj same)]

/-- Requests of one kind and caller that agree in the fields of their kind are one request. -/
theorem eq_of_ownFields_eq {first second : Request} (sameWord : first.word = second.word)
    (sameCallsign : first.callsign = second.callsign)
    (sameFields : first.ownFields = second.ownFields) : first = second := by
  cases first <;> cases second <;> cases sameWord <;> cases sameCallsign <;>
    simp only [ownFields, List.cons.injEq, Prod.mk.injEq, true_and, and_true] at sameFields
  case alphaCheck => rfl
  case radioCheck => rfl
  case bogeyDope =>
    rw [ContactCategory.name_inj (Scalar.text.inj (Document.scalar.inj sameFields))]
  case declare =>
    obtain ⟨sameBra, sameCenter⟩ := sameFields
    rw [Bra.record_inj sameBra, Scalar.boolean.inj (Document.scalar.inj sameCenter)]
  case picture => rw [radius_inj sameFields]
  case spiked => rw [Scalar.integer.inj (Document.scalar.inj sameFields)]
  case snaplock => rw [Bra.record_inj sameFields]

/-- No field of a request is forgotten in its record, and none is taken for another. -/
theorem record_inj {first second : Request} (same : first.record = second.record) :
    first = second := by
  obtain ⟨sameKind, sameRest⟩ := List.cons.inj (Document.record_inj same)
  obtain ⟨sameCallsign, sameFields⟩ := List.cons.inj sameRest
  have sameWord := Scalar.text.inj (Document.scalar.inj (Prod.mk.inj sameKind).2)
  exact eq_of_ownFields_eq (RequestWord.name_inj sameWord)
    (Scalar.text.inj (Document.scalar.inj (Prod.mk.inj sameCallsign).2)) sameFields

end Request

/-! ### Records of outcomes -/

namespace Failure

theorem isJson_record (failure : Failure) (text : Text) : (failure.record text).IsJson := by
  have nodup : ["text".toList, "failure".toList].Nodup := by decide
  refine Document.isJson_record nodup ?_
  simp only [List.forall_mem_cons, Document.isJson_text, true_and]
  exact nofun

theorem depth_record_le (failure : Failure) (text : Text) : (failure.record text).depth ≤ 1 :=
  Document.depth_record_le (by simp [Document.text, Document.depth])

/-- The reasons of failures as their records give them. -/
def reasons : List (Failure × String) :=
  [(notAddressed, "not_addressed"), (noTrigger, "no_trigger"),
   (invalidCallsign, "invalid_callsign"), (invalidRequest, "invalid_request")]

/-- A failure is recorded as the text without the blanks around it and the reason. -/
theorem record_eq (failure : Failure) (text : Text) :
    ∃ reason, (failure, reason) ∈ reasons ∧
      failure.record text =
        .mapping [(.text "text".toList, .text (trim text)),
          (.text "failure".toList, .text reason.toList)] := by
  cases failure <;> exact ⟨_, by decide, rfl⟩

theorem record_ne_record (failure : Failure) (text : Text) (request : Request) :
    failure.record text ≠ request.record := by
  have differ : "text".toList ≠ "request_type".toList := by decide
  exact fun same => differ (Prod.mk.inj (List.cons.inj (Document.record_inj same)).1).1

end Failure

namespace Outcome

/-- An outcome is recorded as its request, or as its failure with the text. -/
theorem record_cases (outcome : Outcome) (text : Text) :
    (∃ request, outcome = .accepted request ∧ outcome.record text = request.record) ∨
      ∃ failure, outcome.failure? = some failure ∧ outcome.record text = failure.record text := by
  cases outcome with
  | accepted request => exact .inl ⟨request, rfl, rfl⟩
  | notAddressed => exact .inr ⟨.notAddressed, rfl, rfl⟩
  | noTrigger => exact .inr ⟨.noTrigger, rfl, rfl⟩
  | invalidCallsign => exact .inr ⟨.invalidCallsign, rfl, rfl⟩
  | invalidRequest => exact .inr ⟨.invalidRequest, rfl, rfl⟩

theorem isJson_record (outcome : Outcome) (text : Text) : (outcome.record text).IsJson := by
  rcases outcome.record_cases text with ⟨request, -, isRequest⟩ | ⟨failure, -, isFailure⟩
  · rw [isRequest]
    exact request.isJson_record
  · rw [isFailure]
    exact failure.isJson_record text

theorem depth_record_le (outcome : Outcome) (text : Text) : (outcome.record text).depth ≤ 2 := by
  rcases outcome.record_cases text with ⟨request, -, isRequest⟩ | ⟨failure, -, isFailure⟩
  · rw [isRequest]
    exact request.depth_record_le
  · rw [isFailure]
    exact Nat.le_succ_of_le (failure.depth_record_le text)

/-- The record of an outcome reads back. -/
theorem read_record {outcome : Outcome} {text line : Text}
    (isWritten : Json.line (outcome.record text) = .ok line) :
    Json.read line = .ok (outcome.record text) :=
  Json.read_write (outcome.isJson_record text)
    (Nat.le_trans (outcome.depth_record_le text) (by decide)) isWritten

end Outcome

/-! ### Records of transmissions -/

/-- The transmissions that are not blank. -/
def spokenIn (texts : List Text) : List Text :=
  texts.filter fun text => !(trim text).isEmpty

namespace Controller

/-- What becomes of a transmission, and the line that records it. -/
structure RecordsAs (controller : Controller) (text : Text) (outcome : Outcome) (line : Text) :
    Prop where
  isOutcome : controller.parse text = .ok outcome
  isLine : Json.line (outcome.record text) = .ok line

/-- The line that records a transmission, empty if there is none. -/
def recordOf (controller : Controller) (text : Text) : Text :=
  match controller.recordLine text with
  | .ok (line, _) => line
  | .error _ => []

/-- Whether a transmission is parsed and turns out to be no request. -/
def hasFailed (controller : Controller) (text : Text) : Bool :=
  match controller.parse text with
  | .ok outcome => outcome.failure?.isSome
  | .error _ => false

variable {controller : Controller} {text line : Text} {outcome : Outcome}

theorem RecordsAs.recordLine_eq (recordsAs : controller.RecordsAs text outcome line) :
    controller.recordLine text = .ok (line, outcome.failure?.isSome) :=
  bind_eq_ok_iff.mpr
    ⟨outcome, recordsAs.isOutcome, bind_eq_ok_iff.mpr ⟨line, recordsAs.isLine, rfl⟩⟩

theorem RecordsAs.recordOf_eq (recordsAs : controller.RecordsAs text outcome line) :
    controller.recordOf text = line := by
  rw [recordOf, recordsAs.recordLine_eq]

theorem RecordsAs.hasFailed_eq (recordsAs : controller.RecordsAs text outcome line) :
    controller.hasFailed text = outcome.failure?.isSome := by
  rw [hasFailed, recordsAs.isOutcome]

theorem notBlank_of_mem_spokenIn {texts : List Text} (spoken : text ∈ spokenIn texts) :
    (trim text).isEmpty = false := by
  simpa using (List.mem_filter.mp spoken).2

/-- Blank transmissions are passed over. -/
theorem printRecords_spokenIn (controller : Controller) (texts : List Text) :
    controller.printRecords (spokenIn texts) = controller.printRecords texts := by
  induction texts with
  | nil => rfl
  | cons text rest ih =>
    rw [spokenIn, List.filter_cons, ← spokenIn]
    by_cases isBlank : (trim text).isEmpty
    · rw [if_neg (by simpa using isBlank), ih, printRecords, if_pos isBlank]
    · rw [if_pos (by simpa using isBlank), printRecords, if_neg isBlank, ih, printRecords,
        if_neg isBlank]

/-- If all are recorded, their records are printed line by line and their failures counted. -/
theorem printRecords_of_recordsAs {spoken : List Text}
    (notBlank : ∀ text ∈ spoken, (trim text).isEmpty = false)
    (recorded : ∀ text ∈ spoken, ∃ outcome line, controller.RecordsAs text outcome line) :
    controller.printRecords spoken =
      ⟨spoken.flatMap (controller.recordOf · ++ ['\n']),
        .ok (spoken.countP controller.hasFailed)⟩ := by
  induction spoken with
  | nil => rfl
  | cons text rest ih =>
    obtain ⟨isSpoken, restSpoken⟩ := List.forall_mem_cons.mp notBlank
    obtain ⟨⟨outcome, line, recordsAs⟩, restRecorded⟩ := List.forall_mem_cons.mp recorded
    rw [printRecords, if_neg (by simp [isSpoken]), recordsAs.recordLine_eq]
    simp only [ih restSpoken restRecorded, Printout.map, Printout.after, List.flatMap_cons,
      List.countP_cons, recordsAs.recordOf_eq, recordsAs.hasFailed_eq, Except.map,
      List.append_assoc, List.singleton_append]
    congr 2
    split <;> rfl

theorem RecordsAs.isVisibleText (recordsAs : controller.RecordsAs text outcome line) :
    IsVisibleText line :=
  Json.isVisibleText_write _ recordsAs.isLine

/-- A record reads back as the request, or as the text without the blanks around it and the reason
of the failure. -/
theorem RecordsAs.reads (recordsAs : controller.RecordsAs text outcome line) :
    (∃ request, outcome = .accepted request ∧ Json.read line = .ok request.record) ∨
      ∃ failure reason, outcome.failure? = some failure ∧ (failure, reason) ∈ Failure.reasons ∧
        Json.read line = .ok (.mapping [(.text "text".toList, .text (trim text)),
          (.text "failure".toList, .text reason.toList)]) := by
  have isRead := Outcome.read_record recordsAs.isLine
  rcases outcome.record_cases text with ⟨request, same, isRequest⟩ | ⟨failure, failed, isFailure⟩
  · exact .inl ⟨request, same, isRequest ▸ isRead⟩
  · obtain ⟨reason, isReason, isRecord⟩ := failure.record_eq text
    rw [isFailure, isRecord] at isRead
    exact .inr ⟨failure, reason, failed, isReason, isRead⟩

end Controller

/-! ### Faithful records -/

/-- The line of a request is that of no other request. -/
theorem Request.eq_of_line_eq {first second : Request} {line : Text}
    (isFirst : Json.line first.record = .ok line) (isSecond : Json.line second.record = .ok line) :
    first = second := by
  have firstRead := @Outcome.read_record (.accepted first) [] line isFirst
  have secondRead := @Outcome.read_record (.accepted second) [] line isSecond
  exact record_inj (Except.ok.inj (firstRead.symm.trans secondRead))

/-- The line of a failure is that of no request. -/
theorem Failure.line_ne {failure : Failure} {text line : Text} {request : Request}
    (isRequest : Json.line request.record = .ok line) :
    Json.line (failure.record text) ≠ .ok line := by
  intro isFailure
  have requestRead := @Outcome.read_record (.accepted request) [] line isRequest
  have failureRead := Json.read_write (failure.isJson_record text)
    (Nat.le_trans (failure.depth_record_le text) (by decide)) isFailure
  exact failure.record_ne_record text request
    (Except.ok.inj (failureRead.symm.trans requestRead))

namespace Controller

/-- If each transmission that is not blank can be recorded, then what is printed are their records,
a visible line for each, made from it alone, and the result is the number of those that failed. A
record reads back as the request, or as the text without the blanks around it and the reason of
the failure, and no two requests, and no request and failure, have one record. -/
theorem printRecords_isFaithful (controller : Controller) {texts : List Text}
    (recorded : ∀ text ∈ spokenIn texts, ∃ outcome line, controller.RecordsAs text outcome line) :
    controller.printRecords texts =
        ⟨(spokenIn texts).flatMap (controller.recordOf · ++ ['\n']),
          .ok ((spokenIn texts).countP controller.hasFailed)⟩ ∧
      lines (controller.printRecords texts).output = (spokenIn texts).map controller.recordOf ∧
      (∀ text ∈ spokenIn texts, IsVisibleText (controller.recordOf text) ∧
        ∃ outcome, controller.parse text = .ok outcome ∧
          controller.hasFailed text = outcome.failure?.isSome ∧
          ((∃ request, outcome = .accepted request ∧
              Json.read (controller.recordOf text) = .ok request.record) ∨
            ∃ failure reason, outcome.failure? = some failure ∧
              (failure, reason) ∈ Failure.reasons ∧
              Json.read (controller.recordOf text) =
                .ok (.mapping [(.text "text".toList, .text (trim text)),
                  (.text "failure".toList, .text reason.toList)]))) ∧
      (∀ (request : Request) (failure : Failure) (text line : Text),
        Json.line request.record = .ok line → Json.line (failure.record text) ≠ .ok line) ∧
      ∀ (first second : Request) (line : Text),
        Json.line first.record = .ok line → Json.line second.record = .ok line →
          first = second := by
  have isPrinted : controller.printRecords texts =
      ⟨(spokenIn texts).flatMap (controller.recordOf · ++ ['\n']),
        .ok ((spokenIn texts).countP controller.hasFailed)⟩ := by
    rw [← printRecords_spokenIn]
    exact printRecords_of_recordsAs (fun _ => notBlank_of_mem_spokenIn) recorded
  have areVisible : ∀ text ∈ spokenIn texts, IsVisibleText (controller.recordOf text) := by
    intro text spoken
    obtain ⟨outcome, line, recordsAs⟩ := recorded text spoken
    rw [recordsAs.recordOf_eq]
    exact recordsAs.isVisibleText
  refine ⟨isPrinted, ?_, fun text spoken => ⟨areVisible text spoken, ?_⟩, ?_, ?_⟩
  · have cut := lines_flatMap (List.forall_mem_map.mpr areVisible)
    rw [List.flatMap_map] at cut
    rw [isPrinted]
    exact cut
  · obtain ⟨outcome, line, recordsAs⟩ := recorded text spoken
    rw [recordsAs.recordOf_eq]
    exact ⟨outcome, recordsAs.isOutcome, recordsAs.hasFailed_eq, recordsAs.reads⟩
  · exact fun _ _ _ _ isRequest => Failure.line_ne isRequest
  · exact fun _ _ _ isFirst isSecond => Request.eq_of_line_eq isFirst isSecond

/-- Two requests, a blank transmission between them, and one that is addressed to no one and would
break its line if it were printed as it stands. -/
theorem printRecords_isFaithful_blankBetween :
    let controller : Controller := ⟨"magic".toList, .standard⟩
    let spiked := "Magic, Eagle 1, spiked 2-7-0".toList
    let declared := "anyface eagle 1 declare 270 20 angels 2".toList
    let unaddressed := "\"hello\"\nthere ".toList
    let texts := [spiked, "\t ".toList, declared, unaddressed]
    (∀ text ∈ spokenIn texts, ∃ outcome line, controller.RecordsAs text outcome line) ∧
      (controller.printRecords texts).result = .ok 1 ∧
      lines (controller.printRecords texts).output =
        ["\x7b\"request_type\": \"spiked\", \"callsign\": \"eagle 1\", ".toList ++
           "\"bearing\": 270\x7d".toList,
         "\x7b\"request_type\": \"declare\", \"callsign\": \"eagle 1\", ".toList ++
           "\"bra\": \x7b\"bearing\": 270, \"range\": 20, \"altitude\": 2000\x7d, ".toList ++
           "\"is_bullseye\": false\x7d".toList,
         "\x7b\"text\": \"\\\"hello\\\"\\nthere\", ".toList ++
           "\"failure\": \"not_addressed\"\x7d".toList] ∧
      Json.read (controller.recordOf unaddressed) =
        .ok (.mapping [(.text "text".toList, .text "\"hello\"\nthere".toList),
          (.text "failure".toList, .text "not_addressed".toList)]) := by
  intro controller spiked declared unaddressed texts
  have areSpoken : spokenIn texts = [spiked, declared, unaddressed] := by decide +kernel
  have isSpiked : controller.RecordsAs spiked (.accepted (.spiked "eagle 1".toList 270))
      ("\x7b\"request_type\": \"spiked\", \"callsign\": \"eagle 1\", ".toList ++
        "\"bearing\": 270\x7d".toList) :=
    ⟨by decide +kernel, by decide +kernel⟩
  have isDeclared : controller.RecordsAs declared
      (.accepted (.declare "eagle 1".toList ⟨270, 20, 2000⟩ false))
      ("\x7b\"request_type\": \"declare\", \"callsign\": \"eagle 1\", ".toList ++
        "\"bra\": \x7b\"bearing\": 270, \"range\": 20, \"altitude\": 2000\x7d, ".toList ++
        "\"is_bullseye\": false\x7d".toList) :=
    ⟨by decide +kernel, by decide +kernel⟩
  have isUnaddressed : controller.RecordsAs unaddressed .notAddressed
      ("\x7b\"text\": \"\\\"hello\\\"\\nthere\", ".toList ++
        "\"failure\": \"not_addressed\"\x7d".toList) :=
    ⟨by decide +kernel, by decide +kernel⟩
  have recorded : ∀ text ∈ spokenIn texts,
      ∃ outcome line, controller.RecordsAs text outcome line := by
    rw [areSpoken]
    simp only [List.forall_mem_cons]
    exact ⟨⟨_, _, isSpiked⟩, ⟨_, _, isDeclared⟩, ⟨_, _, isUnaddressed⟩, nofun⟩
  have isCounted : (spokenIn texts).countP controller.hasFailed = 1 := by
    rw [areSpoken]
    simp only [List.countP_cons, isSpiked.hasFailed_eq, isDeclared.hasFailed_eq,
      isUnaddressed.hasFailed_eq]
    rfl
  obtain ⟨isPrinted, areLines, areFaithful, -⟩ := printRecords_isFaithful controller recorded
  refine ⟨recorded, ?_, ?_, ?_⟩
  · rw [isPrinted, isCounted]
  · rw [areLines, areSpoken]
    simp only [List.map_cons, List.map_nil, isSpiked.recordOf_eq, isDeclared.recordOf_eq,
      isUnaddressed.recordOf_eq]
  · have isSpoken : unaddressed ∈ spokenIn texts := by simp [areSpoken]
    have isTrimmed : trim unaddressed = "\"hello\"\nthere".toList := by decide +kernel
    obtain ⟨-, outcome, isOutcome, -, ⟨request, isRequest, -⟩ | ⟨failure, reason, failed, isReason,
      isRead⟩⟩ := areFaithful unaddressed isSpoken
    · rw [isUnaddressed.isOutcome, isRequest] at isOutcome
      cases isOutcome
    · rw [isUnaddressed.isOutcome] at isOutcome
      obtain rfl := Except.ok.inj isOutcome
      obtain rfl := Option.some.inj failed
      have isName : reason = "not_addressed" := by
        simpa [Failure.reasons] using isReason
      rw [isRead, isTrimmed, isName]

end Controller

end RadioCall
