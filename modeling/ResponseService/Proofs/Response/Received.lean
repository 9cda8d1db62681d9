import ResponseService.Proofs.Response.Held
import ResponseService.Proofs.Schema.Naming
import ResponseService.Proofs.Text.Utf8

/-!
# What a client receives

A client decodes the octets of the body and parses the text (`ReceivedText`,
`Received`).  The text is the body with its surrogates escaped.  The header
that was sent with it was inferred from the body itself, and still describes
the text that the client has (`header_describes_received`), as long as no two
names of one object become equal when pairs of surrogates are joined.
-/

namespace ResponseService

/-- The emissions hold one body, and it is this text in UTF-8. -/
def ReceivedText (emissions : List Emission) (received : Text) : Prop :=
  ∃ octets, Delivery.bodies emissions = [octets] ∧
    Utf8.decode octets = .ok received

/-- The emissions hold one body, and it is the JSON text of this document. -/
def Received (emissions : List Emission) (document : Json) : Prop :=
  ∃ received, ReceivedText emissions received ∧
    Json.parse received = .ok document

/-- A client has no choice in what it receives. -/
theorem Received.unique {emissions : List Emission} {first second : Json}
    (one : Received emissions first) (other : Received emissions second) :
    first = second := by
  rcases one with ⟨text, ⟨octets, bodies, decoded⟩, parsed⟩
  rcases other with
    ⟨otherText, ⟨otherOctets, otherBodies, otherDecoded⟩, otherParsed⟩
  rw [bodies] at otherBodies
  cases otherBodies
  rw [decoded] at otherDecoded
  cases otherDecoded
  rw [parsed] at otherParsed
  exact Except.ok.inj otherParsed

namespace ResponseWriter

section Emissions

variable (writer : ResponseWriter) (status : Int) (format : ResponseFormat)
  (schema : Option Text)

/-- A schema is sent in one header, and none is sent in no header. -/
theorem headerValues_emissionsWith (octets : List UInt8) :
    Delivery.headerValues HeaderName.jsonSchema
        (writer.emissionsWith status format schema octets) =
      schema.toList := by
  have others : ∀ name ∈ [HeaderName.contentType, HeaderName.contentLength,
      HeaderName.allowOrigin, HeaderName.exposeHeaders,
      HeaderName.allowCredentials, HeaderName.version, HeaderName.commitId],
      name ≠ HeaderName.jsonSchema := by decide
  simp only [List.forall_mem_cons, List.not_mem_nil, false_implies,
    implies_true, and_true] at others
  cases enabled : writer.cors.enabled <;> cases schema <;>
    simp [Delivery.headerValues, emissionsWith, headers, CorsPolicy.headers,
      ServiceIdentity.headers, schemaHeader, enabled, others]

theorem receivedText_emissionsWith (body : Text) :
    ReceivedText (writer.emissionsWith status format schema (payload body))
      body.escapeSurrogates :=
  ⟨payload body, bodies_emissionsWith writer status format schema _,
    Utf8.decode_encode_escapeSurrogates body⟩

end Emissions

variable {State : Type} {writer : ResponseWriter} {sink : Sink State}
  {state : State} {status : Int}

/-- The header that is sent with a body describes the text that the client
receives, if no two names of one object differ in joined pairs only. -/
theorem header_describes_received {body : Text}
    (complete :
      (writer.write sink state status ⟨true, true⟩ body).fault = none)
    (apart : ∀ document, Json.parse body = .ok document →
      Json.NamesApart Text.joinPairs document) :
    ∃ received header,
      ReceivedText
          (writer.write sink state status ⟨true, true⟩ body).delivery.accepted
          received ∧
        Delivery.headerValues HeaderName.jsonSchema
            (writer.write sink state status ⟨true, true⟩
              body).delivery.accepted = [header] ∧
        describe body = .ok header ∧
        describe received = .ok header := by
  rcases accepted_of_no_fault complete with ⟨schema, known, accepted⟩
  rw [schema?_of_asks ⟨rfl, rfl⟩] at known
  cases described : describe body with
  | error fault =>
      rw [described] at known
      cases known
  | ok header =>
      rw [described] at known
      cases known
      rcases exists_document_of_describe described with ⟨document, parsed⟩
      rw [accepted]
      refine ⟨body.escapeSurrogates, header, ?_, ?_, rfl, ?_⟩
      · exact receivedText_emissionsWith writer status _ _ body
      · exact headerValues_emissionsWith writer status _ _ _
      · rw [describe_escapeSurrogates parsed (apart document parsed), described]

/-- A document with a pair of surrogates for a name and one half of a pair
behind it. -/
def pairedDocument : Json :=
  .object [([CodePoint.ofNat 0xD83D, CodePoint.ofNat 0xDE00],
    .text [CodePoint.ofNat 0xD83D])]

theorem parse_pairedDocument :
    Json.parse (pairedDocument.print .compact) = .ok pairedDocument := by
  have shallow : Value.depth pairedDocument ≤ Json.depthLimit := by decide
  exact Json.parse_print ⟨trivial, trivial⟩ shallow rfl

/-- The header of such a document describes what is received in a buffer. -/
theorem header_describes_received_paired :
    (write ⟨.disabled, ⟨"1.0", "abc"⟩⟩ ResponseBuffer.sink .empty 200
        ⟨true, true⟩ (pairedDocument.print .compact)).fault = none ∧
      (∀ document,
        Json.parse (pairedDocument.print .compact) = .ok document →
          Json.NamesApart Text.joinPairs document) ∧
      ∃ received header,
        ReceivedText
            (write ⟨.disabled, ⟨"1.0", "abc"⟩⟩ ResponseBuffer.sink .empty 200
              ⟨true, true⟩ (pairedDocument.print .compact)).delivery.accepted
            received ∧
          Delivery.headerValues HeaderName.jsonSchema
              (write ⟨.disabled, ⟨"1.0", "abc"⟩⟩ ResponseBuffer.sink .empty
                200 ⟨true, true⟩
                (pairedDocument.print .compact)).delivery.accepted =
            [header] ∧
          describe (pairedDocument.print .compact) = .ok header ∧
          describe received = .ok header := by
  have complete :
      (write ⟨.disabled, ⟨"1.0", "abc"⟩⟩ ResponseBuffer.sink .empty 200
        ⟨true, true⟩ (pairedDocument.print .compact)).fault = none :=
    Option.isNone_iff_eq_none.mp (by decide +kernel)
  have apart : ∀ document,
      Json.parse (pairedDocument.print .compact) = .ok document →
        Json.NamesApart Text.joinPairs document := by
    intro document parsed
    rw [parse_pairedDocument] at parsed
    cases parsed
    refine ⟨?_, trivial, trivial⟩
    unfold Ordered.KeepsApart
    decide
  exact ⟨complete, apart, header_describes_received complete apart⟩

end ResponseWriter

end ResponseService
