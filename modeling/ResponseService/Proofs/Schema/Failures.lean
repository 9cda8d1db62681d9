import ResponseService.Proofs.Json.Oversized
import ResponseService.Proofs.Response.Delivery

/-!
# Why a body has no description

A text that has no description fails with a schema error that is raised from
its reason (`Fault.IsSchemaProblem`), with one exception: an integer of more
digits than the limit, standing where a value is due, is a fault of its own
(`description_failures`).  A document that has been read, and its schema, only
fail for their depth.

A writer whose sink refuses nothing fails for the same reasons and for no
others (`fault_write_iff`).
-/

namespace ResponseService

/-- The schema errors that a text can end in, each raised from its reason. -/
inductive Fault.IsSchemaProblem (text : Text) : Fault → Prop where
  | malformed (problem : Json.Problem) (position : Nat) :
      IsSchemaProblem text
        (.causedBy
          (.service (.schemaInference problem.message (some position)))
          (.ofCondition
            (.malformed (Json.SyntaxError.ofText text problem position))))
  | nestedText (bracket : Json.Bracket) :
      IsSchemaProblem text
        (.causedBy (.service .nestedTooDeeply)
          (.ofCondition (.nestedText bracket)))
  | nestedValue :
      IsSchemaProblem text
        (.causedBy (.service .nestedTooDeeply) (.ofCondition .nestedValue))

/-! ## Failures of the single stages -/

/-- An integer of too many digits stands where a value is due. -/
abbrev Json.Oversized (text : Text) (digits : Nat) : Prop :=
  Json.MeetsOversized Json.depthLimit text digits

/-- Whatever the limit is, a text that is not read has a syntax problem, too
many brackets, or an integer of too many digits. -/
theorem Json.readWithin_failure {limit : Nat} {text : Text} {error : ReadError}
    (failed : Json.readWithin limit text = .error error) :
    (Fault.ofReadError text error).IsSchemaProblem text ∨
      ∃ digits, Json.MeetsOversized limit text digits ∧
        Fault.ofReadError text error = .ofCondition (.oversized digits) := by
  cases error with
  | malformed problem position => exact Or.inl (.malformed problem position)
  | tooDeep bracket => exact Or.inl (.nestedText bracket)
  | oversized digits =>
      exact Or.inr ⟨digits, Json.readWithin_eq_oversized_iff.mp failed, rfl⟩

theorem Json.parse_failure {text : Text} {fault : Fault}
    (failed : Json.parse text = .error fault) :
    fault.IsSchemaProblem text ∨
      ∃ digits, Json.Oversized text digits ∧
        fault = .ofCondition (.oversized digits) := by
  rw [Json.parse] at failed
  cases read : Json.read text with
  | ok document => simp [read] at failed
  | error error =>
      simp only [read, Except.error.injEq] at failed
      subst failed
      exact Json.readWithin_failure read

/-- Nothing in a document is foreign to it, so only its depth is left. -/
theorem Fault.ofInferenceError_eq (error : WalkError Empty) :
    Fault.ofInferenceError nofun error =
      .ofSchemaProblem .nestedTooDeeply .nestedValue := by
  cases error with
  | foreign value => cases value
  | tooDeep => rfl

theorem Json.schema_failure {document : Json} {fault : Fault}
    (failed : document.schema = .error fault) :
    fault = .ofSchemaProblem .nestedTooDeeply .nestedValue := by
  rw [Json.schema] at failed
  cases inferred : document.infer with
  | ok schema => simp [inferred, Except.mapError] at failed
  | error error =>
      rw [inferred] at failed
      cases failed
      exact Fault.ofInferenceError_eq error

theorem Schema.text_failure {schema : Schema} {fault : Fault}
    (failed : schema.text = .error fault) :
    fault = .ofSchemaProblem .nestedTooDeeply .nestedValue := by
  rw [Schema.text, SchemaNode.render] at failed
  split at failed
  · cases failed
  · next value _ => cases value
  · cases failed
    rfl

/-! ## Failures of a description -/

/-- How many containers may stand in one another in a text that is read, in a
document whose schema is inferred, and in a schema that is converted. -/
structure DescriptionLimits where
  read : Nat
  inferred : Nat
  converted : Nat

/-- The limits that are in force. -/
def DescriptionLimits.inForce : DescriptionLimits :=
  ⟨Json.depthLimit, walkLimit, walkLimit⟩

/-- The description of a body within some limits. -/
def describeWithin (limits : DescriptionLimits) (body : Text) :
    Except Fault Text :=
  match Json.readWithin limits.read body with
  | .error error => .error (Fault.ofReadError body error)
  | .ok document =>
      match Value.inferWithin limits.inferred document with
      | .error error => .error (Fault.ofInferenceError nofun error)
      | .ok schema =>
          match SchemaNode.toDocumentWithin limits.converted schema with
          | .ok description => .ok (description.print .header)
          | .error error => .error (Fault.ofInferenceError nofun error)

theorem describe_eq_within (body : Text) :
    describe body = describeWithin .inForce body := by
  have schemaEq (document : Json) : document.schema =
      (Value.inferWithin walkLimit document).mapError
        (Fault.ofInferenceError nofun) := rfl
  have textEq (schema : Schema) : schema.text =
      match SchemaNode.toDocumentWithin walkLimit schema with
      | .ok description => .ok (description.print .header)
      | .error error => .error (Fault.ofInferenceError nofun error) := by
    rw [Schema.text, SchemaNode.render, SchemaNode.toDocument]
    cases SchemaNode.toDocumentWithin walkLimit schema with
    | ok description => rfl
    | error error =>
        cases error with
        | foreign value => exact value.elim
        | tooDeep => rfl
  rw [describe, describeWithin, Json.parse, Json.read,
    DescriptionLimits.inForce]
  cases Json.readWithin Json.depthLimit body with
  | error error => rfl
  | ok document =>
      simp only [schemaEq, textEq]
      cases Value.inferWithin walkLimit document <;> rfl

/-- Whatever the limits are, a body that has no description fails with a schema
error raised from its reason, or with an integer of too many digits. -/
theorem describeWithin_failure {limits : DescriptionLimits} {text : Text}
    {fault : Fault} (failed : describeWithin limits text = .error fault) :
    fault.IsSchemaProblem text ∨
      ∃ digits, Json.MeetsOversized limits.read text digits ∧
        fault = .ofCondition (.oversized digits) := by
  rw [describeWithin] at failed
  split at failed
  · next read =>
      cases failed
      exact Json.readWithin_failure read
  · split at failed
    · cases failed
      rw [Fault.ofInferenceError_eq]
      exact Or.inl .nestedValue
    · split at failed
      · cases failed
      · cases failed
        rw [Fault.ofInferenceError_eq]
        exact Or.inl .nestedValue

/-- Whatever the limits are, it fails with that integer exactly if this is the
first that goes wrong in the text. -/
theorem describeWithin_eq_oversized_iff {limits : DescriptionLimits}
    {text : Text} {digits : Nat} :
    describeWithin limits text = .error (.ofCondition (.oversized digits)) ↔
      Json.MeetsOversized limits.read text digits := by
  constructor
  · intro failed
    rcases describeWithin_failure failed with problem | ⟨digits, meets, same⟩
    · cases problem
    · cases same
      exact meets
  · intro meets
    rw [describeWithin, Json.readWithin_eq_oversized_iff.mpr meets]
    rfl

theorem describe_failure {text : Text} {fault : Fault}
    (failed : describe text = .error fault) :
    fault.IsSchemaProblem text ∨
      ∃ digits, Json.Oversized text digits ∧
        fault = .ofCondition (.oversized digits) :=
  describeWithin_failure ((describe_eq_within text).symm.trans failed)

theorem describe_eq_oversized_iff {text : Text} {digits : Nat} :
    describe text = .error (.ofCondition (.oversized digits)) ↔
      Json.Oversized text digits := by
  rw [describe_eq_within]
  exact describeWithin_eq_oversized_iff

/-- Where the sink refuses nothing, a call ends in the fault of the description
that it needs, and in no other. -/
theorem ResponseWriter.fault_write_iff {State : Type} {sink : Sink State}
    (accepting : sink.IsAccepting) (writer : ResponseWriter) (state : State)
    (status : Int) (format : ResponseFormat) (body : Text) (fault : Fault) :
    (writer.write sink state status format body).fault = some fault ↔
      format.Asks ∧ describe body = .error fault := by
  rw [← schema?_eq_error_iff]
  cases known : schema? format body with
  | error other => simp [write_of_undescribed known]
  | ok schema => simp [no_fault_of_accepting accepting known]

/-- A text that has no description fails with a schema error raised from its
reason, unless an integer of too many digits is met in it; and so does a call
of the writer that needs the description.  This does not depend on the limits
of depth. -/
theorem description_failures {State : Type} {sink : Sink State}
    (accepting : sink.IsAccepting) :
    (∀ limits text fault, describeWithin limits text = .error fault →
      fault.IsSchemaProblem text ∨
        ∃ digits, Json.MeetsOversized limits.read text digits ∧
          fault = .ofCondition (.oversized digits)) ∧
    (∀ limits text digits,
      describeWithin limits text = .error (.ofCondition (.oversized digits)) ↔
        Json.MeetsOversized limits.read text digits) ∧
    (∀ text, describe text = describeWithin .inForce text) ∧
    (∀ text fault, Json.parse text = .error fault →
      fault.IsSchemaProblem text ∨
        ∃ digits, Json.Oversized text digits ∧
          fault = .ofCondition (.oversized digits)) ∧
    (∀ (document : Json) fault, document.schema = .error fault →
      fault = .ofSchemaProblem .nestedTooDeeply .nestedValue) ∧
    (∀ schema fault, Schema.text schema = .error fault →
      fault = .ofSchemaProblem .nestedTooDeeply .nestedValue) ∧
    (∀ text,
      (∃ schema, describe text = .ok schema) ∨
      (∃ fault, fault.IsSchemaProblem text ∧ describe text = .error fault) ∨
      ∃ digits, Json.Oversized text digits) ∧
    (∀ text digits,
      describe text = .error (.ofCondition (.oversized digits)) ↔
        Json.Oversized text digits) ∧
    ∀ (writer : ResponseWriter) state status format body fault,
      (writer.write sink state status format body).fault = some fault ↔
        format.Asks ∧ describe body = .error fault := by
  refine ⟨fun _ _ _ => describeWithin_failure,
    fun _ _ _ => describeWithin_eq_oversized_iff, describe_eq_within,
    fun _ _ => Json.parse_failure, fun _ _ => Json.schema_failure,
    fun _ _ => Schema.text_failure, ?_, fun _ _ => describe_eq_oversized_iff,
    ResponseWriter.fault_write_iff accepting⟩
  intro text
  cases described : describe text with
  | ok schema => exact Or.inl ⟨schema, rfl⟩
  | error fault =>
      rcases describe_failure described with problem | ⟨digits, meets, _⟩
      · exact Or.inr (Or.inl ⟨fault, problem, rfl⟩)
      · exact Or.inr (Or.inr ⟨digits, meets⟩)

/-- An array that is left open has its schema error, with the place behind the
comma. -/
theorem description_failures_unfinished :
    ResponseBuffer.sink.IsAccepting ∧
      (ResponseWriter.write ⟨.disabled, ⟨"1.0", "abc"⟩⟩ ResponseBuffer.sink
          .empty 200 ⟨true, true⟩ "[1,").fault =
        some (.causedBy (.service (.schemaInference "Expecting value" (some 3)))
          (.ofCondition (.malformed ⟨.missingValue, 3, ⟨1, 4⟩⟩))) := by
  obtain ⟨-, -, -, -, -, -, -, -, failures⟩ :=
    description_failures ResponseBuffer.sink_isAccepting
  refine ⟨ResponseBuffer.sink_isAccepting, (failures ..).mpr ⟨⟨rfl, rfl⟩, ?_⟩⟩
  rfl

/-! ### An integer of too many digits -/

/-- Digits that are too many and do not begin with a zero are met as an
integer. -/
theorem Json.oversized_of_digits {digits : Text} (all : Json.IsDigits digits)
    (leading : ∀ point ∈ digits.head?, point.value ≠ 0x30)
    (long : Json.digitLimit < digits.length) :
    Json.Oversized digits digits.length := by
  have wellFormed :
      (⟨false, digits, none, none⟩ : Json.NumberSpelling).WellFormed :=
    ⟨all, fun point member zero => absurd zero (leading point member), nofun,
      nofun⟩
  have read := Json.numberOf?_append wellFormed
    (show ∀ point ∈ ([] : Text).head?, Json.endsNumber point from nofun)
  have text : (⟨false, digits, none, none⟩ : Json.NumberSpelling).text =
      digits := by
    simp [Json.NumberSpelling.text]
  rw [text, List.append_nil] at read
  exact .mk .nil rfl rfl read ⟨rfl, rfl⟩ long

/-- An integer of one digit more than the limit. -/
def longInteger : Text := List.replicate 4301 '1'

/-- It is not described, and what it fails with is no schema error: neither the
description nor the writer accounts for it. -/
theorem describe_longInteger :
    describe longInteger = .error (.ofCondition (.oversized 4301)) ∧
      (ResponseWriter.write ⟨.disabled, ⟨"1.0", "abc"⟩⟩ ResponseBuffer.sink
          .empty 200 ⟨true, true⟩ longInteger).fault =
        some (.ofCondition (.oversized 4301)) ∧
      ¬((∃ schema, describe longInteger = .ok schema) ∨
        ∃ fault, fault.IsSchemaProblem longInteger ∧
          describe longInteger = .error fault) := by
  have all : Json.IsDigits longInteger := by
    refine ⟨List.cons_ne_nil _ _, fun point member => ?_⟩
    rw [List.eq_of_mem_replicate member]
    rfl
  have meets : Json.Oversized longInteger 4301 := by
    have long : longInteger.length = 4301 := List.length_replicate
    rw [← long]
    refine Json.oversized_of_digits all ?_ (by rw [long]; decide)
    intro point member
    rw [List.eq_of_mem_replicate (List.mem_of_mem_head? member)]
    decide
  have failed := describe_eq_oversized_iff.mpr meets
  refine ⟨failed, ?_, ?_⟩
  · exact (ResponseWriter.fault_write_iff ResponseBuffer.sink_isAccepting ..).mpr
      ⟨⟨rfl, rfl⟩, failed⟩
  · rintro (⟨schema, described⟩ | ⟨fault, problem, described⟩)
    · rw [failed] at described
      cases described
    · rw [failed] at described
      cases described
      cases problem

end ResponseService
