import ResponseService.Proofs.Json.Characters
import ResponseService.Proofs.Response.Held

/-!
# Responses from a buffer

`Response.Carries` says that a response is complete: it has the status, the
octets of the body, and all headers of the service with their values, the
schema of the body among them if and only if the client asks for it.  A call of
`write` on an empty buffer leaves such a response, provided that the body has a
schema where one is asked for and that the headers of the service are Latin-1
(`exists_response_of_write`).
-/

namespace ResponseService

/-! ## Complete responses -/

/-- The schema that is sent with a body: its description, if the client asks
for it. -/
inductive SentSchema (format : ResponseFormat) (body : Text) :
    Option Text → Prop where
  | described {schema : Text}
      (asks : format.Asks)
      (described : describe body = .ok schema) :
      SentSchema format body (some schema)
  | absent (unasked : ¬format.Asks) :
      SentSchema format body none

/-- The header fields of a service as they are sent, with a schema and the
length of the body. -/
def ResponseWriter.sentFields
    (writer : ResponseWriter)
    (format : ResponseFormat)
    (schema : Option Text)
    (length : Nat) :
    Headers :=
  let policy : Headers :=
    if writer.cors.enabled = true then
      [("access-control-allow-origin", writer.cors.allowOrigin),
        ("access-control-expose-headers", writer.cors.exposeHeaders),
        ("access-control-allow-credentials", "true")]
    else []
  let identity : Headers :=
    [("cruise-control-version", writer.identity.version),
      ("cruise-control-commit_id", writer.identity.commitId)]
  let description : Headers :=
    match schema with
    | none => []
    | some text => [("cruise-control-json-schema", text)]
  ("content-type", (ContentType.forBody format.isJson).value) ::
    (policy ++ identity ++ description ++
      [(ResponseBuffer.lengthName, Decimal.ofNat length)])

/-- The response carries a body in full. -/
structure Response.Carries
    (response : Response)
    (writer : ResponseWriter)
    (format : ResponseFormat)
    (status : Int)
    (body : Text) :
    Prop where
  status_eq : response.status = status
  body_eq : response.body = payload body
  headers_eq : ∃ schema, SentSchema format body schema ∧
    response.headers = writer.sentFields format schema (payload body).length

/-- The values that the service itself gives its headers are Latin-1. -/
def ResponseWriter.IsSendable (writer : ResponseWriter) : Prop :=
  ∀ field ∈ writer.cors.headers ++ writer.identity.headers, field.2.IsLatin1

/-! ## Headers that can be sent -/

namespace ResponseBuffer

/-- Names and values are Latin-1. -/
def Sendable (fields : Headers) : Prop :=
  ∀ field ∈ fields, field.1.IsLatin1 ∧ field.2.IsLatin1

/-- A field with its name in small letters. -/
def lowered (field : Text × Text) : Text × Text := (field.1.lower, field.2)

theorem sentHeaders_of_sendable {fields : Headers}
    (sendable : Sendable (fields.map lowered)) :
    sentHeaders fields = .ok (fields.map lowered) := by
  induction fields with
  | nil => rfl
  | cons field rest ih =>
      obtain ⟨⟨name, value⟩, later⟩ := List.forall_mem_cons.mp sendable
      rw [lowered] at name value
      simp only [sentHeaders, sentHeader, Text.encode?_of_isLatin1 name,
        Text.encode?_of_isLatin1 value, ih later]
      rfl

/-- A name or value that is not Latin-1 keeps all header fields from being
sent. -/
theorem sentHeaders_of_not_sendable {fields : Headers}
    (unsendable : ¬Sendable (fields.map lowered)) :
    ∃ stretch, sentHeaders fields = .error stretch := by
  induction fields with
  | nil => exact absurd (List.forall_mem_nil _) unsendable
  | cons field rest ih =>
      by_cases name : field.1.lower.IsLatin1
      · by_cases value : field.2.IsLatin1
        · have later : ¬Sendable (rest.map lowered) := fun sendable =>
            unsendable (List.forall_mem_cons.mpr ⟨⟨name, value⟩, sendable⟩)
          obtain ⟨stretch, failed⟩ := ih later
          exact ⟨stretch, by
            simp [sentHeaders, sentHeader, Text.encode?_of_isLatin1 name,
              Text.encode?_of_isLatin1 value, failed, bind, Except.bind, pure,
              Except.pure]⟩
        · obtain ⟨stretch, failed⟩ := Text.encode?_of_not_isLatin1 value
          exact ⟨stretch, by
            simp [sentHeaders, sentHeader, Text.encode?_of_isLatin1 name,
              failed, bind, Except.bind]⟩
      · obtain ⟨stretch, failed⟩ := Text.encode?_of_not_isLatin1 name
        exact ⟨stretch, by
          simp [sentHeaders, sentHeader, failed, bind, Except.bind]⟩

end ResponseBuffer

namespace ResponseWriter

variable {writer : ResponseWriter} {format : ResponseFormat}

theorem nodup_headers (schema : Option Text) (length : Nat) :
    (Ordered.names (writer.headers format schema length)).Nodup := by
  have apart : ([HeaderName.contentType, HeaderName.allowOrigin,
      HeaderName.exposeHeaders, HeaderName.allowCredentials,
      HeaderName.version, HeaderName.commitId, HeaderName.jsonSchema,
      HeaderName.contentLength] : List Text).Nodup := by decide +kernel
  refine apart.sublist ?_
  cases enabled : writer.cors.enabled <;> cases schema <;>
    simp only [Ordered.names, headers, CorsPolicy.headers,
      ServiceIdentity.headers, schemaHeader, enabled, if_true, if_false,
      Bool.false_eq_true, List.map_cons, List.map_append, List.map_nil] <;>
    decide

/-- After a call an empty buffer holds the response of the call. -/
theorem state_emissionsWith (status : Int) (schema : Option Text)
    (octets : List UInt8) :
    (ResponseBuffer.sink.deliver .empty
        (writer.emissionsWith status format schema octets)).state =
      ⟨some status, writer.headers format schema octets.length, octets, true⟩ := by
  rw [ResponseBuffer.state_deliver, ← ResponseBuffer.after,
    ResponseBuffer.after_eq, statuses_emissionsWith, fields_emissionsWith,
    Delivery.octets, bodies_emissionsWith,
    Ordered.ofList_of_nodup (nodup_headers schema octets.length),
    decide_eq_true (flush_mem_emissionsWith writer status format schema octets),
    List.flatten_singleton, List.getLast?_singleton]

/-- The names of the headers as they are set and as they are sent. -/
def sentNames : List (Text × Text) :=
  [(HeaderName.contentType, "content-type"),
    (HeaderName.allowOrigin, "access-control-allow-origin"),
    (HeaderName.exposeHeaders, "access-control-expose-headers"),
    (HeaderName.allowCredentials, "access-control-allow-credentials"),
    (HeaderName.version, "cruise-control-version"),
    (HeaderName.commitId, "cruise-control-commit_id"),
    (HeaderName.jsonSchema, "cruise-control-json-schema"),
    (HeaderName.contentLength, ResponseBuffer.lengthName)]

theorem lower_of_mem_sentNames :
    ∀ pair ∈ sentNames, pair.1.lower = pair.2 := by
  have small : ∀ pair ∈ sentNames,
      pair.1.IsAscii ∧ pair.1.map CodePoint.smallAscii = pair.2 := by
    decide +kernel
  intro pair member
  rw [Text.lower_of_isAscii (small pair member).1, (small pair member).2]

theorem lowered_headers (schema : Option Text) (length : Nat) :
    (writer.headers format schema length).map ResponseBuffer.lowered =
      writer.sentFields format schema length := by
  have small := lower_of_mem_sentNames
  simp only [sentNames, List.forall_mem_cons, List.not_mem_nil, false_implies,
    implies_true, and_true] at small
  cases enabled : writer.cors.enabled <;> cases schema <;>
    simp [sentFields, headers, CorsPolicy.headers, ServiceIdentity.headers,
      schemaHeader, ResponseBuffer.lowered, enabled, small]

/-! ## What a call leaves -/

theorem isVisible_of_describe {body schema : Text}
    (described : describe body = .ok schema) : schema.IsVisible := by
  rw [describe] at described
  split at described
  · cases described
  · split at described
    · cases described
    · rw [Schema.text, SchemaNode.render] at described
      split at described <;> cases described
      exact Json.isVisible_print_header _

theorem sentSchema_of_schema? {body : Text} {schema : Option Text}
    (known : schema? format body = .ok schema) :
    SentSchema format body schema := by
  rcases schema?_eq_ok_iff.mp known with
    ⟨text, asks, described, rfl⟩ | ⟨unasked, rfl⟩
  · exact .described asks described
  · exact .absent unasked

theorem sendable_sentFields (sendable : writer.IsSendable) {body : Text}
    {schema : Option Text} (sent : SentSchema format body schema) (length : Nat) :
    ResponseBuffer.Sendable (writer.sentFields format schema length) := by
  have names : ∀ pair ∈ sentNames, pair.2.IsLatin1 := by decide +kernel
  simp only [sentNames, List.forall_mem_cons, List.not_mem_nil, false_implies,
    implies_true, and_true] at names
  have media : ∀ isJson, (ContentType.forBody isJson).value.IsLatin1 := by
    decide +kernel
  have allowed : Text.IsLatin1 "true" := by decide
  have size := (Decimal.isVisible_ofNat length).isAscii.isLatin1
  have description : ∀ text ∈ schema, text.IsLatin1 := by
    rintro text rfl
    cases sent with
    | described _ described => exact (isVisible_of_describe described).isAscii.isLatin1
  rw [IsSendable] at sendable
  rw [ResponseBuffer.Sendable]
  cases enabled : writer.cors.enabled <;> cases schema <;>
    simp only [CorsPolicy.headers, ServiceIdentity.headers, sentFields, enabled,
      if_true, if_false, Bool.false_eq_true, List.forall_mem_append,
      List.forall_mem_cons, List.not_mem_nil, false_implies, implies_true,
      and_true, Option.mem_def, Option.some.injEq, forall_eq']
        at sendable description ⊢ <;>
    simp only [names, media, allowed, size, sendable, description, and_self]

/-- A call on an empty buffer leaves a response that carries the body in full,
if the body has a schema where one is asked for. -/
theorem exists_response_of_write (sendable : writer.IsSendable) (status : Int)
    {body : Text} {schema : Option Text}
    (known : schema? format body = .ok schema) :
    ∃ response,
      (writer.write ResponseBuffer.sink .empty status format
          body).delivery.state.toResponse = .ok response ∧
        response.Carries writer format status body := by
  have schemaSent := sentSchema_of_schema? known
  have fields := sendable_sentFields sendable schemaSent (payload body).length
  rw [← lowered_headers] at fields
  have sent := ResponseBuffer.sentHeaders_of_sendable fields
  -- The length is among the headers already, so none is added.
  have unadded : ResponseBuffer.addedLength status
      (writer.sentFields format schema (payload body).length)
      (payload body) = [] := by
    rw [ResponseBuffer.addedLength, if_neg]
    simp [Ordered.names, sentFields]
  rw [lowered_headers] at sent
  rw [delivery_of_schema known, state_emissionsWith, ResponseBuffer.toResponse]
  simp only [sent, unadded, List.append_nil]
  exact ⟨_, rfl, rfl, rfl, schema, schemaSent, rfl⟩

/-- A header of the service that is not Latin-1 keeps every call on an empty
buffer from becoming a response. -/
theorem unencodable_of_write (unsendable : ¬writer.IsSendable) (status : Int)
    {body : Text} {schema : Option Text}
    (known : schema? format body = .ok schema) :
    ∃ stretch,
      (writer.write ResponseBuffer.sink .empty status format
          body).delivery.state.toResponse = .error (.unencodable stretch) := by
  have fields : ¬ResponseBuffer.Sendable
      ((writer.headers format schema (payload body).length).map
        ResponseBuffer.lowered) := by
    intro sendable
    refine unsendable fun field member => ?_
    have among : field ∈ writer.headers format schema (payload body).length :=
      List.mem_cons_of_mem _
        (List.mem_append_left _ (List.mem_append_left _ member))
    exact (sendable _ (List.mem_map_of_mem among)).2
  obtain ⟨stretch, failed⟩ := ResponseBuffer.sentHeaders_of_not_sendable fields
  rw [delivery_of_schema known, state_emissionsWith, ResponseBuffer.toResponse]
  simp only [failed]
  exact ⟨stretch, rfl⟩

end ResponseWriter

end ResponseService
