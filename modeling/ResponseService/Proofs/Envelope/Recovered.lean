import Mathlib.Logic.Function.Basic
import ResponseService.Proofs.Envelope
import ResponseService.Proofs.Fault.Trace
import ResponseService.Proofs.Json.Characters

/-!
# Envelopes recovered from their texts

The text of an envelope is read back as the envelope itself, so nothing of it
is lost in writing: different envelopes have different texts
(`successText_injective`, `tracedText_injective2`), and that of a success never
equals that of an error (`successText_ne_tracedText`).  All of this is said of
any text in the place of a trace.  An error has a text exactly if its fault has
a trace (`errorText_eq_ok_iff`).
-/

namespace ResponseService.Envelope

/-! ## Reading back -/

theorem parse_successText (message : Text) :
    Json.parse (successText message) = .ok (success message) := by
  rw [successText, success_eq_labelled]
  exact parse_labelled (isLabelling_success message)

theorem parse_tracedText (trace : Text) (errorMessage : Option Text) :
    Json.parse (tracedText trace errorMessage) =
      .ok (error trace errorMessage) := by
  rw [tracedText, error_eq_labelled]
  exact parse_labelled (isLabelling_error trace errorMessage)

/-- Texts that are read as different documents are different. -/
theorem eq_of_parse {left right : Text} {first second : Json}
    (readFirst : Json.parse left = .ok first)
    (readSecond : Json.parse right = .ok second) (same : left = right) :
    first = second := by
  rw [same, readSecond] at readFirst
  exact (Except.ok.inj readFirst).symm

/-! ## Different envelopes -/

theorem success_injective : Function.Injective success := by
  intro left right same
  simpa [success] using same

theorem error_injective2 : Function.Injective2 error := by
  intro leftTrace rightTrace left right same
  cases left <;> cases right <;>
    simp_all [error, errorMessageMember]

theorem success_ne_error (message trace : Text) (errorMessage : Option Text) :
    success message ≠ error trace errorMessage := by
  have names : messageName ≠ stackTraceName := by decide
  simp [success, error, names]

theorem successText_injective : Function.Injective successText := by
  intro left right same
  exact success_injective
    (eq_of_parse (parse_successText left) (parse_successText right) same)

theorem tracedText_injective2 : Function.Injective2 tracedText := by
  intro leftTrace rightTrace left right same
  exact error_injective2
    (eq_of_parse (parse_tracedText leftTrace left)
      (parse_tracedText rightTrace right) same)

theorem successText_ne_tracedText (message trace : Text)
    (errorMessage : Option Text) :
    successText message ≠ tracedText trace errorMessage := by
  intro same
  exact success_ne_error message trace errorMessage
    (eq_of_parse (parse_successText message)
      (parse_tracedText trace errorMessage) same)

/-- No message and an empty message have different texts. -/
theorem tracedText_none_ne_some (trace other : Text) :
    tracedText trace none ≠ tracedText other (some []) := by
  intro same
  cases (tracedText_injective2 same).2

/-! ## Characters -/

theorem uncontrolled_compact (document : Json) :
    ∀ point ∈ document.print .compact, Json.Uncontrolled point :=
  Json.uncontrolled_print document (by decide) (by decide)

/-! ## Errors without a text -/

/-- The text of an error tells the trace of its fault. -/
theorem errorText_eq_ok_iff {fault : Option Fault} {errorMessage : Option Text}
    {text : Text} :
    errorText fault errorMessage = .ok text ↔
      ∃ trace, Fault.traceOf fault = .ok trace ∧
        tracedText trace errorMessage = text :=
  map_eq_ok_iff

/-- A fault without a trace has no envelope, for the same reason. -/
theorem errorText_eq_error_iff {fault : Option Fault}
    {errorMessage : Option Text} {mishap : Mishap} :
    errorText fault errorMessage = .error mishap ↔
      Fault.traceOf fault = .error mishap := by
  rw [errorText]
  cases Fault.traceOf fault <;> simp [Except.map]

/-- Every error has a text whose fault involves none in a source text. -/
theorem exists_errorText {fault : Option Fault}
    (ordinary : ∀ present ∈ fault, ∀ other, Fault.Involves present other →
      other.condition.isSource = false) (errorMessage : Option Text) :
    ∃ text, errorText fault errorMessage = .ok text := by
  obtain ⟨trace, told⟩ := Fault.exists_traceOf ordinary
  exact ⟨_, errorText_eq_ok_iff.mpr ⟨trace, told, rfl⟩⟩

/-! ## Envelopes and their texts -/

/-- The text of an envelope is read back as the envelope with exactly the texts
it was made of.  An error has such a text exactly if its fault has a trace,
which every fault has that involves none in a source text, and the trace is
empty only where there is no fault.  So different envelopes have different
texts.  No control character stands in any of them. -/
theorem texts_read_back (message trace : Text) (fault : Option Fault)
    (errorMessage : Option Text) :
    Json.parse (successText message) =
      .ok (.object [("version", .integer 1), ("message", .text message)]) ∧
    Json.parse (tracedText trace errorMessage) =
      .ok (.object
        (("version", .integer 1) :: ("stackTrace", .text trace) ::
          errorMessageMember errorMessage)) ∧
    (∀ text, errorText fault errorMessage = .ok text ↔
      ∃ told, Fault.traceOf fault = .ok told ∧
        tracedText told errorMessage = text) ∧
    (∀ mishap, errorText fault errorMessage = .error mishap ↔
      Fault.traceOf fault = .error mishap) ∧
    ((∀ present ∈ fault, ∀ other, Fault.Involves present other →
        other.condition.isSource = false) →
      ∃ text, errorText fault errorMessage = .ok text) ∧
    (Fault.traceOf fault = .ok [] ↔ fault = none) ∧
    Function.Injective successText ∧
    Function.Injective2 tracedText ∧
    (∀ other, tracedText trace none ≠ tracedText other (some [])) ∧
    successText message ≠ tracedText trace errorMessage ∧
    (∀ point ∈ successText message, 0x20 ≤ point.value) ∧
    ∀ point ∈ tracedText trace errorMessage, 0x20 ≤ point.value := by
  refine ⟨parse_successText message, parse_tracedText trace errorMessage,
    fun _ => errorText_eq_ok_iff, fun _ => errorText_eq_error_iff,
    fun ordinary => exists_errorText ordinary errorMessage,
    Fault.traceOf_eq_nil_iff, successText_injective, tracedText_injective2,
    tracedText_none_ne_some trace,
    successText_ne_tracedText message trace errorMessage,
    uncontrolled_compact (success message),
    uncontrolled_compact (error trace errorMessage)⟩

/-- A control character, a mark, U+007F, U+2028, a lone surrogate, and a pair
of them. -/
def unusualText : Text :=
  [0, 0x22, 0x7F, 0x2028, 0xDC00, 0xD83D, 0xDE00].map CodePoint.ofNat

/-- A key that is not found. -/
def missingKey : Fault :=
  .ofCondition (.system (.builtIn "KeyError" [.text "x"]))

/-- What is told of it. -/
def missingKeyTrace : Text :=
  "Traceback (most recent call last):\nKeyError: 'x'\n"

/-- A missing key has a trace, and the unusual text comes back as it was. -/
theorem texts_read_back_unusual :
    Fault.traceOf (some missingKey) = .ok missingKeyTrace ∧
      missingKeyTrace ≠ [] ∧
      ∃ text, errorText (some missingKey) (some unusualText) = .ok text ∧
        Json.parse text =
          .ok (.object [("version", .integer 1),
            ("stackTrace", .text missingKeyTrace),
            ("errorMessage", .text unusualText)]) := by
  obtain ⟨-, parsed, told, -, -, empty, -⟩ :=
    texts_read_back [] missingKeyTrace (some missingKey) (some unusualText)
  have trace : Fault.traceOf (some missingKey) = .ok missingKeyTrace := by
    decide +kernel
  refine ⟨trace, fun same => ?_, _, (told _).mpr ⟨_, trace, rfl⟩, parsed⟩
  rw [same] at trace
  cases empty.mp trace

/-- A fault in a source text on a line that is no text. -/
def brokenSource : Fault :=
  .bare (.system (.builtIn "SyntaxError"
    [.text "m", .array [.text "f", .integer 1, .integer 0, .integer 5]]))

theorem errorText_brokenSource (errorMessage : Option Text) :
    errorText (some brokenSource) errorMessage =
      .error
        (.builtIn "AttributeError"
          "'int' object has no attribute 'rstrip'") := by
  rw [errorText_eq_error_iff]
  decide +kernel

/-- Such a fault has no trace, and no envelope tells of it. -/
theorem unread_brokenSource :
    (∀ trace, Fault.traceOf (some brokenSource) ≠ .ok trace) ∧
      ∀ errorMessage text,
        errorText (some brokenSource) errorMessage ≠ .ok text := by
  have untold :=
    errorText_eq_error_iff.mp (errorText_brokenSource (some "x"))
  constructor
  · rw [untold]
    exact nofun
  · intro errorMessage
    rw [errorText_brokenSource]
    exact nofun

end ResponseService.Envelope
