import Mathlib.Logic.ExistsUnique
import ResponseService.Proofs.Envelope.Recovered
import ResponseService.Proofs.Response.Delivery

/-!
# The protocol between a writer and its sink

The full trace of a call is what the sink is to be handed, one emission after
the other (`FullTrace`).  It is spelled out here without regard to how the
writer collects it.

A call ends in exactly one of four ways (`existsUnique_ending`).  The body
cannot be made, which only happens to errors whose fault has no trace, or the
schema was asked for and the body has none: in both cases the sink is left
alone.  The sink refuses one emission of the trace: then it has taken those
before it and is handed none of those behind it.  Or the sink takes the whole
trace.
-/

namespace ResponseService

/-- A call of a response writer. -/
inductive WriterCall where
  /-- Write a given body. -/
  | write (status : Int) (format : ResponseFormat) (body : Text)
  /-- Write a success. -/
  | success (status : Int) (format : ResponseFormat) (message : Text)
  /-- Write an error. -/
  | error (status : Int) (format : ResponseFormat) (fault : Option Fault)
      (errorMessage : Option Text)

namespace WriterCall

/-- The status of the response. -/
def status : WriterCall → Int
  | .write status _ _ => status
  | .success status _ _ => status
  | .error status _ _ _ => status

/-- The format of the response. -/
def format : WriterCall → ResponseFormat
  | .write _ format _ => format
  | .success _ format _ => format
  | .error _ format _ _ => format

/-- The body of the response, or why it cannot be made. -/
def body : WriterCall → Except Mishap Text
  | .write _ _ body => .ok body
  | .success _ format message =>
      .ok (Envelope.successBody format.isJson message)
  | .error _ format fault errorMessage =>
      Envelope.errorBody format.isJson fault errorMessage

/-- Make the call. -/
def perform {State : Type} (writer : ResponseWriter) (sink : Sink State)
    (state : State) : WriterCall → WriteReport State
  | .write status format body => writer.write sink state status format body
  | .success status format message =>
      writer.writeSuccess sink state status format message
  | .error status format fault errorMessage =>
      writer.writeError sink state status format fault errorMessage

section Perform

variable {State : Type} {writer : ResponseWriter} {sink : Sink State}
  {state : State} {call : WriterCall}

theorem delivery_perform {body : Text} (made : call.body = .ok body) :
    (call.perform writer sink state).delivery =
      (writer.write sink state call.status call.format body).delivery := by
  cases call with
  | error status format fault errorMessage =>
      rw [WriterCall.body] at made
      rw [perform, ResponseWriter.writeError, made]
      rfl
  | _ =>
      cases made
      rfl

theorem fault_perform {body : Text} (made : call.body = .ok body) :
    (call.perform writer sink state).fault =
      (writer.write sink state call.status call.format body).fault := by
  cases call with
  | error status format fault errorMessage =>
      rw [WriterCall.body] at made
      rw [perform, ResponseWriter.writeError, made]
      rfl
  | _ =>
      cases made
      rfl

/-- Where no body can be made the sink is left alone, and nothing is logged. -/
theorem perform_of_unmade {mishap : Mishap}
    (unmade : call.body = .error mishap) :
    call.perform writer sink state =
      ⟨.nothing state, [], some (.ofMishap mishap)⟩ := by
  cases call with
  | error status format fault errorMessage =>
      rw [WriterCall.body] at unmade
      rw [perform, ResponseWriter.writeError, unmade]
  | _ => cases unmade

end Perform

/-- Only the body of an error in JSON may be one that cannot be made, and it
cannot if the fault has no trace. -/
theorem body_eq_error_iff {call : WriterCall} {mishap : Mishap} :
    call.body = .error mishap ↔
      ∃ status format fault errorMessage,
        call = .error status format fault errorMessage ∧
          format.isJson = true ∧ Fault.traceOf fault = .error mishap := by
  cases call with
  | error status format fault errorMessage =>
      simp only [body, Envelope.errorBody, error.injEq]
      constructor
      · intro failed
        split at failed
        · next json =>
            exact ⟨_, _, _, _, ⟨rfl, rfl, rfl, rfl⟩, json,
              Envelope.errorText_eq_error_iff.mp failed⟩
        · cases failed
      · rintro ⟨_, _, _, _, ⟨rfl, rfl, rfl, rfl⟩, json, untold⟩
        rw [if_pos json]
        exact Envelope.errorText_eq_error_iff.mpr untold
  | _ => simp [body]

end WriterCall

/-! ## The full trace -/

/-- What is emitted of the schema of a body: one header if it is asked for,
and nothing otherwise. -/
inductive SchemaPart (format : ResponseFormat) (body : Text) :
    List Emission → Prop where
  | sent {schema : Text}
      (asks : format.Asks)
      (described : describe body = .ok schema) :
      SchemaPart format body [.header HeaderName.jsonSchema schema]
  | absent (unasked : ¬format.Asks) :
      SchemaPart format body []

/-- What is emitted of a policy: all three headers or none. -/
def policyPart (policy : CorsPolicy) : List Emission :=
  if policy.enabled = true then
    [.header HeaderName.allowOrigin policy.allowOrigin,
      .header HeaderName.exposeHeaders policy.exposeHeaders,
      .header HeaderName.allowCredentials "true"]
  else []

/-- All that the sink is to be handed in a call. -/
inductive FullTrace (writer : ResponseWriter) (call : WriterCall) :
    List Emission → Prop where
  | intro {body : Text} {schema : List Emission}
      (made : call.body = .ok body)
      (part : SchemaPart call.format body schema) :
      FullTrace writer call
        ([.status call.status,
            .header HeaderName.contentType
              (ContentType.forBody call.format.isJson).value] ++
          policyPart writer.cors ++
          [.header HeaderName.version writer.identity.version,
            .header HeaderName.commitId writer.identity.commitId] ++
          schema ++
          [.header HeaderName.contentLength
              (Decimal.ofNat (payload body).length),
            .body (payload body),
            .flush])

theorem schemaPart_iff {format : ResponseFormat} {body : Text}
    {part : List Emission} :
    SchemaPart format body part ↔
      ∃ schema, ResponseWriter.schema? format body = .ok schema ∧
        part = (ResponseWriter.schemaHeader schema).map
          fun field => Emission.header field.1 field.2 := by
  simp only [ResponseWriter.schema?_eq_ok_iff]
  constructor
  · rintro (⟨asks, described⟩ | unasked)
    · exact ⟨_, Or.inl ⟨_, asks, described, rfl⟩, rfl⟩
    · exact ⟨none, Or.inr ⟨unasked, rfl⟩, rfl⟩
  · rintro ⟨schema, ⟨text, asks, described, rfl⟩ | ⟨unasked, rfl⟩, rfl⟩
    · exact .sent asks described
    · exact .absent unasked

/-- The emissions of a writer are the full trace of the call. -/
theorem fullTrace_iff {writer : ResponseWriter} {call : WriterCall}
    {trace : List Emission} :
    FullTrace writer call trace ↔
      ∃ body schema, call.body = .ok body ∧
        ResponseWriter.schema? call.format body = .ok schema ∧
          trace = writer.emissionsWith call.status call.format schema
            (payload body) := by
  have policy : policyPart writer.cors =
      writer.cors.headers.map fun field =>
        Emission.header field.1 field.2 := by
    rw [policyPart, CorsPolicy.headers]
    split <;> rfl
  constructor
  · rintro ⟨made, part⟩
    rcases schemaPart_iff.mp part with ⟨schema, known, rfl⟩
    refine ⟨_, schema, made, known, ?_⟩
    simp [ResponseWriter.emissionsWith, ResponseWriter.headers, policy,
      ServiceIdentity.headers]
  · rintro ⟨body, schema, made, known, rfl⟩
    have full : FullTrace writer call _ :=
      .intro made (schemaPart_iff.mpr ⟨schema, known, rfl⟩)
    simpa [ResponseWriter.emissionsWith, ResponseWriter.headers, policy,
      ServiceIdentity.headers] using full

/-! ## Endings -/

/-- How a call may end. -/
inductive WriteEnding where
  /-- The body cannot be made. -/
  | unmade (mishap : Mishap)
  /-- The body has no schema. -/
  | undescribed (fault : Fault)
  /-- The sink refuses the emission at a place of the full trace. -/
  | refused (place : Nat) (fault : Fault)
  /-- Everything is emitted. -/
  | complete

section Endings

variable {State : Type}

/-- The call ends in this way: what the sink has taken and was handed, the
state in which it is left, and the fault that the caller sees. -/
inductive EndsAs (writer : ResponseWriter) (sink : Sink State) (state : State)
    (call : WriterCall) : WriteEnding → Prop where
  | unmade {mishap : Mishap}
      (failure : call.body = .error mishap)
      (offered : (call.perform writer sink state).delivery.offered = [])
      (left : (call.perform writer sink state).delivery.state = state)
      (raised : (call.perform writer sink state).fault =
        some (.ofMishap mishap)) :
      EndsAs writer sink state call (.unmade mishap)
  | undescribed {body : Text} {fault : Fault}
      (made : call.body = .ok body)
      (asks : call.format.Asks)
      (failure : describe body = .error fault)
      (offered : (call.perform writer sink state).delivery.offered = [])
      (left : (call.perform writer sink state).delivery.state = state)
      (raised : (call.perform writer sink state).fault = some fault) :
      EndsAs writer sink state call (.undescribed fault)
  | refused {emissions : List Emission} {place : Nat} {emission : Emission}
      {reached : State} {fault : Fault}
      (full : FullTrace writer call emissions)
      (here : emissions[place]? = some emission)
      (taken : sink.Takes state (emissions.take place) reached)
      (refusal : sink.take reached emission = .error fault)
      (accepted : (call.perform writer sink state).delivery.accepted =
        emissions.take place)
      (offered : (call.perform writer sink state).delivery.offered =
        emissions.take (place + 1))
      (left : (call.perform writer sink state).delivery.state = reached)
      (raised : (call.perform writer sink state).fault = some fault) :
      EndsAs writer sink state call (.refused place fault)
  | complete {emissions : List Emission} {last : State}
      (full : FullTrace writer call emissions)
      (taken : sink.Takes state emissions last)
      (accepted : (call.perform writer sink state).delivery.accepted = emissions)
      (offered : (call.perform writer sink state).delivery.offered = emissions)
      (left : (call.perform writer sink state).delivery.state = last)
      (raised : (call.perform writer sink state).fault = none) :
      EndsAs writer sink state call .complete

variable {writer : ResponseWriter} {sink : Sink State} {state : State}
  {call : WriterCall}

/-- A call has a full trace only if its body can be made, and has a schema if
that is asked for. -/
theorem FullTrace.described {trace : List Emission}
    (full : FullTrace writer call trace) :
    ∃ body, call.body = .ok body ∧
      (call.format.Asks → ∀ fault, describe body ≠ .error fault) := by
  rcases fullTrace_iff.mp full with ⟨body, schema, made, known, _⟩
  refine ⟨body, made, fun asks fault failure => ?_⟩
  rw [ResponseWriter.schema?_eq_error_iff.mpr ⟨asks, failure⟩] at known
  cases known

/-- A call without a full trace is not handed on. -/
theorem FullTrace.not_unmade {trace : List Emission} {mishap : Mishap}
    (full : FullTrace writer call trace) : call.body ≠ .error mishap := by
  obtain ⟨body, made, -⟩ := full.described
  rw [made]
  exact nofun

theorem FullTrace.not_undescribed {trace : List Emission} {body : Text}
    {fault : Fault} (full : FullTrace writer call trace)
    (made : call.body = .ok body) (asks : call.format.Asks) :
    describe body ≠ .error fault := by
  obtain ⟨other, again, described⟩ := full.described
  cases made.symm.trans again
  exact described asks fault

/-- No call ends in two ways. -/
theorem EndsAs.unique {first second : WriteEnding}
    (one : EndsAs writer sink state call first)
    (other : EndsAs writer sink state call second) : first = second := by
  cases one with
  | unmade failure _ _ _ =>
      cases other with
      | unmade again _ _ _ =>
          cases failure.symm.trans again
          rfl
      | undescribed made _ _ _ _ _ => cases failure.symm.trans made
      | refused full _ _ _ _ _ _ _ => exact absurd failure full.not_unmade
      | complete full _ _ _ _ _ => exact absurd failure full.not_unmade
  | undescribed made asks failure _ _ _ =>
      cases other with
      | unmade unmade _ _ _ => cases made.symm.trans unmade
      | undescribed madeAgain _ again _ _ _ =>
          cases made.symm.trans madeAgain
          cases failure.symm.trans again
          rfl
      | refused full _ _ _ _ _ _ _ =>
          exact absurd failure (full.not_undescribed made asks)
      | complete full _ _ _ _ _ =>
          exact absurd failure (full.not_undescribed made asks)
  | @refused trace place _ _ fault full here _ _ accepted _ _ raised =>
      cases other with
      | unmade failure _ _ _ => exact absurd failure full.not_unmade
      | undescribed made asks failure _ _ _ =>
          exact absurd failure (full.not_undescribed made asks)
      | @refused otherTrace otherPlace _ _ _ _ otherHere _ _ otherAccepted _ _
          otherRaised =>
          -- The number of emissions taken tells the place.
          have short := (List.getElem?_eq_some_iff.mp here).1
          have otherShort := (List.getElem?_eq_some_iff.mp otherHere).1
          have lengths := congrArg List.length (accepted.symm.trans otherAccepted)
          simp only [List.length_take] at lengths
          have places : place = otherPlace := by omega
          rw [raised] at otherRaised
          cases otherRaised
          rw [places]
      | complete _ _ _ _ _ unraised =>
          rw [raised] at unraised
          cases unraised
  | complete full _ _ _ _ unraised =>
      cases other with
      | unmade failure _ _ _ => exact absurd failure full.not_unmade
      | undescribed made asks failure _ _ _ =>
          exact absurd failure (full.not_undescribed made asks)
      | refused _ _ _ _ _ _ _ raised =>
          rw [raised] at unraised
          cases unraised
      | complete _ _ _ _ _ _ => rfl

variable (writer sink state call)

/-- A call in which the schema of the body is known ends with the delivery of
the full trace. -/
theorem exists_ending_of_schema {body : Text} {schema : Option Text}
    (made : call.body = .ok body)
    (known : ResponseWriter.schema? call.format body = .ok schema) :
    ∃ ending, EndsAs writer sink state call ending := by
  have delivery : (call.perform writer sink state).delivery = _ :=
    WriterCall.delivery_perform made
  have raised : (call.perform writer sink state).fault = _ :=
    WriterCall.fault_perform made
  rw [ResponseWriter.delivery_of_schema known] at delivery
  rw [ResponseWriter.fault_of_schema known] at raised
  generalize same : writer.emissionsWith call.status call.format schema
    (payload body) = trace at delivery raised
  have full : FullTrace writer call trace :=
    fullTrace_iff.mpr ⟨body, schema, made, known, same.symm⟩
  rcases sink.deliver_cases state trace with
    ⟨last, taken, delivered⟩ |
      ⟨before, emission, after, reached, fault, split, taken, refusal,
        delivered⟩
  · rw [delivered] at delivery raised
    refine ⟨.complete, .complete full taken ?_ ?_ ?_ raised⟩
    · rw [delivery]
    · simp [delivery, Delivery.offered]
    · rw [delivery]
  · rw [delivered] at delivery raised
    have front : trace.take before.length = before := by
      simp [split]
    have handed : trace.take (before.length + 1) = before ++ [emission] := by
      rw [split, List.take_length_add_append]
      rfl
    rw [← front] at taken
    refine ⟨.refused before.length fault,
      .refused full (by simp [split]) taken refusal ?_ ?_ ?_ raised⟩
    · rw [delivery, front]
    · rw [delivery, handed]
      rfl
    · rw [delivery]

theorem endsAs_unmade_iff {mishap : Mishap} :
    EndsAs writer sink state call (.unmade mishap) ↔
      call.body = .error mishap := by
  constructor
  · rintro ⟨failure, -, -, -⟩
    exact failure
  · intro failure
    have performed : call.perform writer sink state = _ :=
      WriterCall.perform_of_unmade failure
    refine .unmade failure ?_ ?_ ?_ <;> rw [performed] <;> rfl

theorem exists_ending : ∃ ending, EndsAs writer sink state call ending := by
  cases made : call.body with
  | error mishap =>
      exact ⟨_, (endsAs_unmade_iff writer sink state call).mpr made⟩
  | ok body =>
      cases known : ResponseWriter.schema? call.format body with
      | error fault =>
          rcases ResponseWriter.schema?_eq_error_iff.mp known with
            ⟨asks, failure⟩
          have delivery : (call.perform writer sink state).delivery = _ :=
            WriterCall.delivery_perform made
          have raised : (call.perform writer sink state).fault = _ :=
            WriterCall.fault_perform made
          rw [ResponseWriter.write_of_undescribed known] at delivery raised
          refine ⟨.undescribed fault,
            .undescribed made asks failure ?_ ?_ raised⟩
          · rw [delivery]
            rfl
          · rw [delivery]
            rfl
      | ok schema =>
          exact exists_ending_of_schema writer sink state call made known

/-- Every call ends in exactly one of the four ways: without a body, without a
schema that was asked for, at one refused emission, or complete.  Only an error
in JSON whose fault has no trace ends without a body. -/
theorem existsUnique_ending :
    (∃! ending, EndsAs writer sink state call ending) ∧
      ∀ mishap, EndsAs writer sink state call (.unmade mishap) ↔
        ∃ status format fault errorMessage,
          call = .error status format fault errorMessage ∧
            format.isJson = true ∧ Fault.traceOf fault = .error mishap := by
  obtain ⟨ending, ends⟩ := exists_ending writer sink state call
  refine ⟨⟨ending, ends, fun other otherEnds => otherEnds.unique ends⟩, ?_⟩
  intro mishap
  rw [endsAs_unmade_iff, WriterCall.body_eq_error_iff]

end Endings

/-- The report of a fault in a source text on a line that is no text. -/
def brokenCall : WriterCall :=
  .error 500 ⟨true, true⟩ (some Envelope.brokenSource) (some "x")

/-- It has no body, so it ends in none of the other three ways. -/
theorem ending_brokenCall :
    ∃ mishap,
      EndsAs ⟨.disabled, ⟨"1.0", "abc"⟩⟩ ResponseBuffer.sink .empty brokenCall
        (.unmade mishap) ∧
      ∀ ending,
        EndsAs ⟨.disabled, ⟨"1.0", "abc"⟩⟩ ResponseBuffer.sink .empty
            brokenCall ending →
          (∀ fault, ending ≠ .undescribed fault) ∧
            (∀ place fault, ending ≠ .refused place fault) ∧
            ending ≠ .complete := by
  have ends := (endsAs_unmade_iff ⟨.disabled, ⟨"1.0", "abc"⟩⟩
    ResponseBuffer.sink .empty brokenCall).mpr
      (Envelope.errorText_brokenSource _)
  refine ⟨_, ends, fun ending otherEnds => ?_⟩
  cases otherEnds.unique ends
  exact ⟨nofun, nofun, nofun⟩

end ResponseService
