import ResponseService.Proofs.Json.Denotation
import ResponseService.Proofs.Json.Standard
import ResponseService.Proofs.Schema.Failures

/-!
# How far descriptions keep to the standard

A text that has a document is JSON as the standard has it, except that three
further words for numbers that are not finite may stand in it as values; and
whether one of them does can be seen from the letters outside its quotations
(`described_within_standard`).  So a writer that needs the description of a
body that is not standard hands nothing over, unless the body is of this wider
kind.  The words are the one way in which such a body is described and sent
(`describe_notANumber`).
-/

namespace ResponseService

open Json.Standard

/-- A body that has a document is standard but for three further words, and
standard exactly if no capital that begins one of them stands outside its
quotations.  If the body is not standard, a call of the writer that needs its
description hands nothing over and ends in a schema error, or in the fault of
an integer of too many digits, unless the body has one of the words. -/
theorem described_within_standard {State : Type} (sink : Sink State)
    (writer : ResponseWriter) (state : State) (status : Int) (body : Text) :
    (∀ document, Json.parse body = .ok document →
      IsText Json.furtherWords body ∧ (IsText [] body ↔ Uncapital body)) ∧
    (¬IsText [] body →
      (∃ fault, fault.IsSchemaProblem body ∧
        writer.write sink state status ⟨true, true⟩ body =
          ⟨.nothing state, [], some fault⟩) ∨
      (∃ digits, Json.Oversized body digits ∧
        writer.write sink state status ⟨true, true⟩ body =
          ⟨.nothing state, [], some (.ofCondition (.oversized digits))⟩) ∨
      (IsText Json.furtherWords body ∧ ¬Uncapital body ∧
        ∃ header, describe body = .ok header)) := by
  have within (document) (parsed : Json.parse body = .ok document) :
      IsText Json.furtherWords body ∧ (IsText [] body ↔ Uncapital body) := by
    have extended := isText_of_denotes
      (Json.Dialect.denotes_of_readWithin (Json.parse_eq_ok_iff.mp parsed))
    exact ⟨extended, isText_nil_iff extended⟩
  refine ⟨within, fun foreign => ?_⟩
  cases described : describe body with
  | ok header =>
      obtain ⟨document, parsed⟩ := exists_document_of_describe described
      obtain ⟨extended, standard⟩ := within document parsed
      exact Or.inr (Or.inr ⟨extended, mt standard.mpr foreign, header, rfl⟩)
  | error fault =>
      have written : writer.write sink state status ⟨true, true⟩ body =
          ⟨.nothing state, [], some fault⟩ :=
        ResponseWriter.write_of_describe_error described
      rcases describe_failure described with problem | ⟨digits, meets, rfl⟩
      · exact Or.inl ⟨fault, problem, written⟩
      · exact Or.inr (Or.inl ⟨digits, meets, written⟩)

theorem described_within_standard_unfinished :
    ¬IsText [] "[NaN," ∧
      (∃ fault, fault.IsSchemaProblem "[NaN," ∧
        ResponseWriter.write ⟨.disabled, ⟨"1.0", "abc"⟩⟩ ResponseBuffer.sink
            .empty 200 ⟨true, true⟩ "[NaN," =
          ⟨.nothing .empty, [], some fault⟩) ∧
      Json.parse "[NaN]" = .ok (.array [.float .notANumber]) ∧
      IsText Json.furtherWords "[NaN]" := by
  have foreign : ¬IsText [] "[NaN," := fun standard =>
    uncapital_of_isText standard 'N' (by decide) (Or.inl rfl)
  have failed : describe "[NaN," = .error (.ofReadError "[NaN,"
      (.malformed .missingValue 5)) := rfl
  have parsed : Json.parse "[NaN]" = .ok (.array [.float .notANumber]) := rfl
  have extended := (described_within_standard ResponseBuffer.sink
    ⟨.disabled, ⟨"1.0", "abc"⟩⟩ .empty 200 "[NaN]").1 _ parsed
  refine ⟨foreign, ?_, parsed, extended.1⟩
  rcases (described_within_standard ResponseBuffer.sink
      ⟨.disabled, ⟨"1.0", "abc"⟩⟩ .empty 200 "[NaN,").2 foreign with
    problem | ⟨digits, meets, -⟩ | ⟨-, -, header, described⟩
  · exact problem
  · rw [describe_eq_oversized_iff.mpr meets] at failed
    cases failed
  · rw [failed] at described
    cases described

/-- A body that is no JSON by the standard is described, and sent as JSON. -/
theorem describe_notANumber :
    ¬IsText [] "NaN" ∧ Json.parse "NaN" = .ok (.float .notANumber) ∧
      describe "NaN" = .ok "\x7b\"type\":\"number\"\x7d" ∧
      (ResponseWriter.write ⟨.disabled, ⟨"1.0", "abc"⟩⟩ ResponseBuffer.sink
          .empty 200 ⟨true, true⟩ "NaN").fault = none ∧
      Emission.header "Content-Type" "application/json; charset=utf-8" ∈
        (ResponseWriter.write ⟨.disabled, ⟨"1.0", "abc"⟩⟩ ResponseBuffer.sink
          .empty 200 ⟨true, true⟩ "NaN").delivery.accepted ∧
      Emission.body [0x4E, 0x61, 0x4E] ∈
        (ResponseWriter.write ⟨.disabled, ⟨"1.0", "abc"⟩⟩ ResponseBuffer.sink
          .empty 200 ⟨true, true⟩ "NaN").delivery.accepted := by
  have foreign : ¬IsText [] "NaN" := fun standard =>
    uncapital_of_isText standard 'N' (by decide) (Or.inl rfl)
  refine ⟨foreign, rfl, rfl, rfl, ?_, ?_⟩
  · decide +kernel
  · decide +kernel

end ResponseService
