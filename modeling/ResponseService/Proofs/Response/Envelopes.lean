import ResponseService.Proofs.Envelope.Recovered
import ResponseService.Proofs.Response.Received

/-!
# Responses with envelopes

Every envelope has a description, so a response with one never fails unless
the sink refuses it, and the header with the schema is always the same
(`envelopes_described`).  A client receives the envelope with exactly the texts
that were sent, up to pairs of surrogates (`envelopes_received`).

The trace of a fault is one of these texts, and any other text could stand in
its place.  Where a fault has no trace, there is no envelope, and nothing is
handed to the sink.
-/

namespace ResponseService

namespace ResponseWriter

variable {State : Type} (writer : ResponseWriter) {sink : Sink State}
  (state : State) (status : Int)

/-- A call with a JSON body that is described ends without a fault, and its
emissions were taken. -/
theorem accepted_of_described (accepting : sink.IsAccepting)
    (wantsSchema : Bool) {body header : Text}
    (described : describe body = .ok header) :
    (writer.write sink state status ⟨true, wantsSchema⟩ body).fault = none ∧
      (writer.write sink state status ⟨true, wantsSchema⟩
          body).delivery.accepted =
        writer.emissionsWith status ⟨true, wantsSchema⟩
          (if wantsSchema then some header else none) (payload body) := by
  have known : schema? ⟨true, wantsSchema⟩ body =
      .ok (if wantsSchema then some header else none) := by
    cases wantsSchema with
    | true =>
        rw [schema?_of_asks ⟨rfl, rfl⟩, described]
        rfl
    | false => rfl
  refine ⟨no_fault_of_accepting accepting known, ?_⟩
  rw [delivery_of_schema known]
  exact sink.deliver_of_not_refused (accepting.not_refused state _)

theorem received_of_described (accepting : sink.IsAccepting)
    (wantsSchema : Bool) {body header : Text} {document : Json}
    (described : describe body = .ok header)
    (parsed : Json.parse body.escapeSurrogates = .ok document) :
    Received
      (writer.write sink state status ⟨true, wantsSchema⟩
        body).delivery.accepted document := by
  rw [(writer.accepted_of_described state status accepting wantsSchema
    described).2]
  exact ⟨body.escapeSurrogates,
    receivedText_emissionsWith writer status _ _ body, parsed⟩

/-- Write the envelope of an error whose trace is given as a text. -/
def writeTrace (sink : Sink State) (format : ResponseFormat) (trace : Text)
    (errorMessage : Option Text) : WriteReport State :=
  writer.write sink state status format
    (Envelope.tracedText trace errorMessage)

section Told

variable {fault : Option Fault} {trace : Text}

/-- The envelope of a fault is that of its trace. -/
theorem errorBody_of_told (told : Fault.traceOf fault = .ok trace)
    (errorMessage : Option Text) :
    Envelope.errorBody true fault errorMessage =
      .ok (Envelope.tracedText trace errorMessage) :=
  Envelope.errorText_eq_ok_iff.mpr ⟨trace, told, rfl⟩

theorem delivery_writeError (sink : Sink State) (wantsSchema : Bool)
    (told : Fault.traceOf fault = .ok trace) (errorMessage : Option Text) :
    (writer.writeError sink state status ⟨true, wantsSchema⟩ fault
        errorMessage).delivery =
      (writer.writeTrace state status sink ⟨true, wantsSchema⟩ trace
        errorMessage).delivery := by
  rw [writeError, errorBody_of_told told]
  rfl

theorem fault_writeError (sink : Sink State) (wantsSchema : Bool)
    (told : Fault.traceOf fault = .ok trace) (errorMessage : Option Text) :
    (writer.writeError sink state status ⟨true, wantsSchema⟩ fault
        errorMessage).fault =
      (writer.writeTrace state status sink ⟨true, wantsSchema⟩ trace
        errorMessage).fault := by
  rw [writeError, errorBody_of_told told]
  rfl

/-- An error that has no envelope is not written: nothing reaches the sink and
nothing is logged. -/
theorem writeError_of_untold (sink : Sink State) (wantsSchema : Bool)
    {mishap : Mishap} (untold : Fault.traceOf fault = .error mishap)
    (errorMessage : Option Text) :
    writer.writeError sink state status ⟨true, wantsSchema⟩ fault
        errorMessage =
      ⟨.nothing state, [], some (.ofMishap mishap)⟩ := by
  have unmade : Envelope.errorBody true fault errorMessage = .error mishap :=
    Envelope.errorText_eq_error_iff.mpr untold
  rw [writeError, unmade]

end Told

theorem writeSuccess_eq (sink : Sink State) (wantsSchema : Bool)
    (message : Text) :
    writer.writeSuccess sink state status ⟨true, wantsSchema⟩ message =
      writer.write sink state status ⟨true, wantsSchema⟩
        (Envelope.successText message) := rfl

/-! ### The header -/

theorem writeTrace_described (accepting : sink.IsAccepting) (trace : Text)
    (errorMessage : Option Text) :
    (writer.writeTrace state status sink ⟨true, true⟩ trace
        errorMessage).fault = none ∧
      Delivery.headerValues HeaderName.jsonSchema
          (writer.writeTrace state status sink ⟨true, true⟩ trace
            errorMessage).delivery.accepted =
        [Envelope.errorSchema errorMessage] := by
  obtain ⟨complete, accepted⟩ :=
    writer.accepted_of_described state status accepting true
      (Envelope.describe_error trace errorMessage)
  rw [writeTrace, Envelope.tracedText, accepted]
  exact ⟨complete, headerValues_emissionsWith writer status _ _ _⟩

/-- Neither an error nor a success fails to be described, and the descriptions
are always the same.  For errors this holds of any text in the place of the
trace, and so of every fault that has a trace; of any other fault nothing is
handed over. -/
theorem envelopes_described (accepting : sink.IsAccepting) :
    (∀ fault errorMessage trace, Fault.traceOf fault = .ok trace →
      (writer.writeError sink state status ⟨true, true⟩ fault
          errorMessage).fault = none ∧
        Delivery.headerValues HeaderName.jsonSchema
            (writer.writeError sink state status ⟨true, true⟩ fault
              errorMessage).delivery.accepted =
          [Envelope.errorSchema errorMessage]) ∧
      (∀ fault errorMessage mishap, Fault.traceOf fault = .error mishap →
        writer.writeError sink state status ⟨true, true⟩ fault errorMessage =
          ⟨.nothing state, [], some (.ofMishap mishap)⟩) ∧
      (∀ fault, (∀ present ∈ fault, ∀ other, Fault.Involves present other →
          other.condition.isSource = false) →
        ∃ trace, Fault.traceOf fault = .ok trace) ∧
      (∀ trace errorMessage,
        (writer.writeTrace state status sink ⟨true, true⟩ trace
            errorMessage).fault = none ∧
          Delivery.headerValues HeaderName.jsonSchema
              (writer.writeTrace state status sink ⟨true, true⟩ trace
                errorMessage).delivery.accepted =
            [Envelope.errorSchema errorMessage]) ∧
      ∀ message,
        (writer.writeSuccess sink state status ⟨true, true⟩
            message).fault = none ∧
          Delivery.headerValues HeaderName.jsonSchema
              (writer.writeSuccess sink state status ⟨true, true⟩
                message).delivery.accepted =
            [Envelope.successSchema] := by
  refine ⟨?_, fun fault errorMessage mishap untold =>
      writer.writeError_of_untold state status sink true untold errorMessage,
    fun _ => Fault.exists_traceOf,
    writer.writeTrace_described state status accepting, ?_⟩
  · intro fault errorMessage trace told
    rw [fault_writeError writer state status sink true told,
      delivery_writeError writer state status sink true told]
    exact writer.writeTrace_described state status accepting _ errorMessage
  · intro message
    obtain ⟨complete, accepted⟩ :=
      writer.accepted_of_described state status accepting true
        (Envelope.describe_success message)
    rw [writeSuccess_eq, accepted]
    exact ⟨complete, headerValues_emissionsWith writer status _ _ _⟩

/-- A text with a pair of surrogates, a quote, a backslash and a control
character. -/
def troublesomeText : Text :=
  [CodePoint.ofNat 0xD83D, CodePoint.ofNat 0xDE00, '"', '\\', CodePoint.ofNat 0]

/-- In a buffer, an error with such a message is described by the schema of
every error with a message. -/
theorem envelopes_described_troublesome :
    ResponseBuffer.sink.IsAccepting ∧
      (writeError ⟨.disabled, ⟨"1.0", "abc"⟩⟩ ResponseBuffer.sink .empty 500
        ⟨true, true⟩ none (some troublesomeText)).fault = none ∧
      Delivery.headerValues HeaderName.jsonSchema
          (writeError ⟨.disabled, ⟨"1.0", "abc"⟩⟩ ResponseBuffer.sink .empty 500
            ⟨true, true⟩ none (some troublesomeText)).delivery.accepted =
        [Envelope.errorSchema (some troublesomeText)] := by
  have described := envelopes_described ⟨.disabled, ⟨"1.0", "abc"⟩⟩ .empty 500
    ResponseBuffer.sink_isAccepting
  exact ⟨ResponseBuffer.sink_isAccepting,
    described.1 none (some troublesomeText) [] rfl⟩

/-- In a buffer, the report of a fault in a source text on a line that is no
text fails, and no schema is sent. -/
theorem undescribed_brokenSource :
    ResponseBuffer.sink.IsAccepting ∧
      (writeError ⟨.disabled, ⟨"1.0", "abc"⟩⟩ ResponseBuffer.sink .empty 500
        ⟨true, true⟩ (some Envelope.brokenSource) (some "x")).fault ≠ none ∧
      Delivery.headerValues HeaderName.jsonSchema
          (writeError ⟨.disabled, ⟨"1.0", "abc"⟩⟩ ResponseBuffer.sink .empty 500
            ⟨true, true⟩ (some Envelope.brokenSource)
            (some "x")).delivery.accepted = [] := by
  have untold := Envelope.errorText_eq_error_iff.mp
    (Envelope.errorText_brokenSource (some "x"))
  rw [writeError_of_untold _ _ _ _ _ untold]
  exact ⟨ResponseBuffer.sink_isAccepting, nofun, rfl⟩

/-! ### The body -/

theorem received_writeSuccess (accepting : sink.IsAccepting)
    (wantsSchema : Bool) (message : Text) :
    Received
      (writer.writeSuccess sink state status ⟨true, wantsSchema⟩
        message).delivery.accepted
      (Envelope.success message.joinPairs) := by
  rw [writeSuccess_eq]
  exact writer.received_of_described state status accepting wantsSchema
    (Envelope.describe_success message)
    (Envelope.parse_escaped_success message)

theorem received_writeTrace (accepting : sink.IsAccepting)
    (wantsSchema : Bool) (trace : Text) (errorMessage : Option Text) :
    Received
      (writer.writeTrace state status sink ⟨true, wantsSchema⟩ trace
        errorMessage).delivery.accepted
      (Envelope.error trace.joinPairs (errorMessage.map Text.joinPairs)) :=
  writer.received_of_described state status accepting wantsSchema
    (Envelope.describe_error trace errorMessage)
    (Envelope.parse_escaped_error trace errorMessage)

/-- Where a message is received with its pairs joined, it is recovered exactly
if it has none. -/
theorem recovered_success_iff {emissions : List Emission} {message : Text}
    (received : Received emissions (Envelope.success message.joinPairs)) :
    Received emissions (Envelope.success message) ↔ message.Unpaired := by
  rw [← Text.joinPairs_eq_self_iff]
  constructor
  · intro recovered
    have same := received.unique recovered
    simp only [Envelope.success, Value.object.injEq, List.cons.injEq,
      Prod.mk.injEq, Value.text.injEq] at same
    exact same.2.1.2
  · intro same
    rwa [same] at received

/-- The same for the message of an error, whatever trace stands before it. -/
theorem recovered_error_iff {emissions : List Emission}
    {trace errorMessage : Text}
    (received : Received emissions
      (Envelope.error trace (some errorMessage.joinPairs))) :
    (∃ other, Received emissions (Envelope.error other (some errorMessage))) ↔
      errorMessage.Unpaired := by
  rw [← Text.joinPairs_eq_self_iff]
  constructor
  · rintro ⟨other, recovered⟩
    have same := received.unique recovered
    simp only [Envelope.error, Envelope.errorMessageMember,
      Value.object.injEq, List.cons.injEq, Prod.mk.injEq,
      Value.text.injEq] at same
    exact same.2.2.1.2
  · intro same
    rw [same] at received
    exact ⟨trace, received⟩

/-- A client receives the envelopes with the pairs in their texts joined, and
so it recovers exactly the messages that have no pairs in them.  For errors
this holds of any text in the place of the trace, and so of every fault that
has a trace; of any other fault nothing is handed over. -/
theorem envelopes_received (accepting : sink.IsAccepting) (wantsSchema : Bool) :
    (∀ message,
      Received
          (writer.writeSuccess sink state status ⟨true, wantsSchema⟩
            message).delivery.accepted
          (.object [(Envelope.versionName, .integer 1),
            (Envelope.messageName, .text message.joinPairs)]) ∧
        (Received
            (writer.writeSuccess sink state status ⟨true, wantsSchema⟩
              message).delivery.accepted
            (.object [(Envelope.versionName, .integer 1),
              (Envelope.messageName, .text message)]) ↔
          message.Unpaired)) ∧
      (∀ fault errorMessage trace, Fault.traceOf fault = .ok trace →
        Received
          (writer.writeError sink state status ⟨true, wantsSchema⟩ fault
            errorMessage).delivery.accepted
          (.object ((Envelope.versionName, .integer 1) ::
            (Envelope.stackTraceName, .text trace.joinPairs) ::
            Envelope.errorMessageMember
              (errorMessage.map Text.joinPairs)))) ∧
      (∀ fault errorMessage trace, Fault.traceOf fault = .ok trace →
        ((∃ other,
          Received
            (writer.writeError sink state status ⟨true, wantsSchema⟩ fault
              (some errorMessage)).delivery.accepted
            (.object [(Envelope.versionName, .integer 1),
              (Envelope.stackTraceName, .text other),
              (Envelope.errorMessageName, .text errorMessage)])) ↔
          errorMessage.Unpaired)) ∧
      (∀ fault errorMessage mishap, Fault.traceOf fault = .error mishap →
        writer.writeError sink state status ⟨true, wantsSchema⟩ fault
            errorMessage =
          ⟨.nothing state, [], some (.ofMishap mishap)⟩) ∧
      ∀ trace errorMessage,
        Received
          (writer.writeTrace state status sink ⟨true, wantsSchema⟩ trace
            errorMessage).delivery.accepted
          (.object ((Envelope.versionName, .integer 1) ::
            (Envelope.stackTraceName, .text trace.joinPairs) ::
            Envelope.errorMessageMember
              (errorMessage.map Text.joinPairs))) := by
  have traces :=
    writer.received_writeTrace state status accepting wantsSchema
  refine ⟨?_, ?_, ?_, fun fault errorMessage mishap untold =>
    writer.writeError_of_untold state status sink wantsSchema untold
      errorMessage, traces⟩
  · intro message
    have received :=
      writer.received_writeSuccess state status accepting wantsSchema message
    exact ⟨received, recovered_success_iff received⟩
  · intro fault errorMessage trace told
    rw [delivery_writeError writer state status sink wantsSchema told]
    exact traces _ errorMessage
  · intro fault errorMessage trace told
    rw [delivery_writeError writer state status sink wantsSchema told]
    exact recovered_error_iff (traces _ (some errorMessage))

/-- In a buffer, such a message is received with its pair joined, and so it is
not recovered. -/
theorem envelopes_received_troublesome :
    ResponseBuffer.sink.IsAccepting ∧
      Received
        (writeSuccess ⟨.disabled, ⟨"1.0", "abc"⟩⟩ ResponseBuffer.sink .empty 200
          ⟨true, true⟩ troublesomeText).delivery.accepted
        (.object [(Envelope.versionName, .integer 1),
          (Envelope.messageName,
            .text [CodePoint.ofNat 0x1F600, '"', '\\', CodePoint.ofNat 0])]) ∧
      ¬Received
        (writeSuccess ⟨.disabled, ⟨"1.0", "abc"⟩⟩ ResponseBuffer.sink .empty 200
          ⟨true, true⟩ troublesomeText).delivery.accepted
        (.object [(Envelope.versionName, .integer 1),
          (Envelope.messageName, .text troublesomeText)]) := by
  obtain ⟨received, recovered⟩ :=
    (envelopes_received ⟨.disabled, ⟨"1.0", "abc"⟩⟩ .empty 200
      ResponseBuffer.sink_isAccepting true).1 troublesomeText
  have joined : troublesomeText.joinPairs =
      [CodePoint.ofNat 0x1F600, '"', '\\', CodePoint.ofNat 0] := by decide
  rw [joined] at received
  refine ⟨ResponseBuffer.sink_isAccepting, received, ?_⟩
  intro same
  have unpaired := recovered.mp same
  exact unpaired.1 ⟨rfl, rfl⟩

/-- In a buffer, no envelope of a fault in a source text on a line that is no
text is received. -/
theorem unreceived_brokenSource :
    ResponseBuffer.sink.IsAccepting ∧
      ∀ document, ¬Received
        (writeError ⟨.disabled, ⟨"1.0", "abc"⟩⟩ ResponseBuffer.sink .empty 500
          ⟨true, true⟩ (some Envelope.brokenSource)
          (some "x")).delivery.accepted
        document := by
  have untold := Envelope.errorText_eq_error_iff.mp
    (Envelope.errorText_brokenSource (some "x"))
  rw [writeError_of_untold _ _ _ _ _ untold]
  refine ⟨ResponseBuffer.sink_isAccepting, fun document received => ?_⟩
  obtain ⟨text, ⟨octets, handed, -⟩, -⟩ := received
  cases handed

end ResponseWriter

end ResponseService
