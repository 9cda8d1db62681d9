import ResponseService.Proofs.Response.HandedOver
import ResponseService.Proofs.Response.Protocol

/-!
# Several calls on one buffer

Calls of a writer may share a buffer.  The body then grows with each call,
while a header keeps its place and takes the value of the latest call, and the
schema of an earlier call stays if the later ones send none.  A call that ends
with a fault leaves no mark.  After any number of calls the buffer is therefore
told by the calls that were completed (`BufferRun.accumulates_ofCalls`).
-/

namespace ResponseService

open Delivery

/-! ## Runs -/

/-- A buffer on which calls were made, and those of them that ended without a
fault. -/
structure BufferRun where
  completed : List WriterCall
  buffer : ResponseBuffer

namespace BufferRun

/-- Nothing was called yet. -/
def fresh : BufferRun := ⟨[], .empty⟩

/-- Make one more call. -/
def next (writer : ResponseWriter) (run : BufferRun) (call : WriterCall) :
    BufferRun :=
  let report := call.perform writer ResponseBuffer.sink run.buffer
  match report.fault with
  | none => ⟨run.completed ++ [call], report.delivery.state⟩
  | some _ => ⟨run.completed, report.delivery.state⟩

/-- Make calls on a fresh buffer. -/
def ofCalls (writer : ResponseWriter) (calls : List WriterCall) : BufferRun :=
  calls.foldl (next writer) fresh

end BufferRun

namespace WriterCall

/-- The body of the response; there is none where it cannot be made. -/
def text (call : WriterCall) : Text := call.body.toOption.getD []

/-- The body can be made, and has a schema if one is asked for. -/
def isDescribed (call : WriterCall) : Bool :=
  call.body.isOk && (ResponseWriter.schema? call.format call.text).isOk

/-- The schema that is sent with a described body. -/
def schema (call : WriterCall) : Option Text :=
  (ResponseWriter.schema? call.format call.text).toOption.join

/-- The header fields that a call sets if its body is described. -/
def fields (writer : ResponseWriter) (call : WriterCall) : Headers :=
  writer.headers call.format call.schema (payload call.text).length

/-- What a call emits if its body is described. -/
def emissions (writer : ResponseWriter) (call : WriterCall) : List Emission :=
  writer.emissionsWith call.status call.format call.schema (payload call.text)

/-- The names of the headers that a call sets, in their order. -/
def setNames (writer : ResponseWriter) (call : WriterCall) : List Text :=
  [HeaderName.contentType] ++
    (if writer.cors.enabled = true then
      [HeaderName.allowOrigin, HeaderName.exposeHeaders,
        HeaderName.allowCredentials]
    else []) ++
    [HeaderName.version, HeaderName.commitId] ++
    (if call.format.sendsSchema = true then [HeaderName.jsonSchema] else []) ++
    [HeaderName.contentLength]

end WriterCall

/-! ## What is left of completed calls -/

/-- The buffer holds what these calls leave when they are made one after the
other. -/
structure ResponseBuffer.Holds (buffer : ResponseBuffer)
    (writer : ResponseWriter) (calls : List WriterCall) : Prop where
  made : ∀ call ∈ calls, call.body = .ok call.text
  body_eq : buffer.body = calls.flatMap fun call => payload call.text
  status_eq : buffer.status = calls.getLast?.map WriterCall.status
  flushed_iff : buffer.flushed = true ↔ calls ≠ []
  contentType_eq :
    Ordered.lookup buffer.headers HeaderName.contentType =
      calls.getLast?.map fun call =>
        (ContentType.forBody call.format.isJson).value
  contentLength_eq :
    Ordered.lookup buffer.headers HeaderName.contentLength =
      calls.getLast?.map fun call => Decimal.ofNat (payload call.text).length
  schema_present_iff :
    HeaderName.jsonSchema ∈ Ordered.names buffer.headers ↔
      ∃ call ∈ calls, call.format.Asks
  /-- The schema is that of the latest call that sends one. -/
  schema_eq : ∀ earlier call later, calls = earlier ++ call :: later →
    call.format.Asks → (∀ other ∈ later, ¬other.format.Asks) →
      ∃ schema, describe call.text = .ok schema ∧
        Ordered.lookup buffer.headers HeaderName.jsonSchema = some schema
  names_eq : Ordered.names buffer.headers =
    (calls.flatMap (WriterCall.setNames writer)).reverse.dedup.reverse
  nodup_names : (Ordered.names buffer.headers).Nodup
  /-- The length is that of the body if only the last call has sent octets. -/
  length_iff : ∀ announced,
    Ordered.lookup buffer.headers HeaderName.contentLength = some announced →
      (announced = Decimal.ofNat buffer.body.length ↔
        ∀ call ∈ calls.dropLast, payload call.text = [])

/-- The buffer after some calls is that of the completed calls alone, and each
call that ended with a fault left it as it was. -/
structure BufferRun.Accumulates (writer : ResponseWriter)
    (calls : List WriterCall) (run : BufferRun) : Prop where
  completed_eq : run.completed = calls.filter WriterCall.isDescribed
  holds : run.buffer.Holds writer run.completed
  failed_unmarked : ∀ earlier call later, calls = earlier ++ call :: later →
    (call.perform writer ResponseBuffer.sink
        (ofCalls writer earlier).buffer).fault ≠ none →
      ofCalls writer (earlier ++ [call]) = ofCalls writer earlier
  unmarked : ofCalls writer run.completed = run

/-! ## One call -/

namespace WriterCall

variable {writer : ResponseWriter} {call : WriterCall}

theorem isDescribed_iff :
    call.isDescribed = true ↔
      call.body = .ok call.text ∧
        ResponseWriter.schema? call.format call.text = .ok call.schema := by
  rw [isDescribed, Bool.and_eq_true, schema]
  generalize sent : call.text = text
  rw [WriterCall.text] at sent
  cases made : call.body <;>
    cases ResponseWriter.schema? call.format text <;>
    simp_all [Except.isOk, Except.toBool, Except.toOption]

theorem body_of_described (described : call.isDescribed = true) :
    call.body = .ok call.text :=
  (isDescribed_iff.mp described).1

theorem schema?_of_described (described : call.isDescribed = true) :
    ResponseWriter.schema? call.format call.text = .ok call.schema :=
  (isDescribed_iff.mp described).2

/-- A body that is not described cannot be made or has no schema. -/
theorem undescribed_cases (undescribed : call.isDescribed = false) :
    (∃ mishap, call.body = .error mishap) ∨
      ∃ fault, call.body = .ok call.text ∧
        ResponseWriter.schema? call.format call.text = .error fault := by
  cases made : call.body with
  | error mishap => exact .inl ⟨mishap, rfl⟩
  | ok body =>
      have text : call.text = body := by
        rw [WriterCall.text, made]
        rfl
      cases known : ResponseWriter.schema? call.format call.text with
      | error fault => exact .inr ⟨fault, by rw [text], rfl⟩
      | ok schema =>
          rw [isDescribed, made, known] at undescribed
          cases undescribed

/-- A schema is sent with a body exactly if it is asked for. -/
theorem sentSchema_schema (described : call.isDescribed = true) :
    SentSchema call.format call.text call.schema :=
  ResponseWriter.sentSchema_of_schema? (schema?_of_described described)

theorem schema_eq_none_iff (described : call.isDescribed = true) :
    call.schema = none ↔ ¬call.format.Asks := by
  have sent := sentSchema_schema described
  generalize call.schema = schema at sent ⊢
  cases sent with
  | described asks _ => simp [asks]
  | absent unasked => simp [unasked]

theorem exists_schema_of_asks (described : call.isDescribed = true)
    (asks : call.format.Asks) :
    ∃ schema, describe call.text = .ok schema ∧ call.schema = some schema := by
  have sent := sentSchema_schema described
  generalize call.schema = schema at sent ⊢
  cases sent with
  | described _ text => exact ⟨_, text, rfl⟩
  | absent unasked => exact absurd asks unasked

theorem names_schemaHeader (described : call.isDescribed = true) :
    (ResponseWriter.schemaHeader call.schema).map Prod.fst =
      if call.format.sendsSchema = true then [HeaderName.jsonSchema] else [] := by
  have sends : call.format.sendsSchema = true ↔ call.format.Asks := by
    rw [ResponseFormat.sendsSchema, Bool.and_eq_true, ResponseFormat.Asks]
  by_cases asks : call.format.Asks
  · obtain ⟨schema, _, sent⟩ := exists_schema_of_asks described asks
    rw [sent, if_pos (sends.mpr asks)]
    rfl
  · rw [(schema_eq_none_iff described).mpr asks, if_neg (mt sends.mp asks)]
    rfl

theorem names_fields (described : call.isDescribed = true) :
    Ordered.names (call.fields writer) = call.setNames writer := by
  rw [Ordered.names, fields, ResponseWriter.headers, setNames]
  simp only [List.map_cons, List.map_append, names_schemaHeader described]
  cases enabled : writer.cors.enabled <;>
    simp [CorsPolicy.headers, ServiceIdentity.headers, enabled]

theorem nodup_fields (writer : ResponseWriter) (call : WriterCall) :
    (Ordered.names (call.fields writer)).Nodup :=
  ResponseWriter.nodup_headers call.schema (payload call.text).length

theorem lookup_contentType (writer : ResponseWriter) (call : WriterCall) :
    Ordered.lookup (call.fields writer) HeaderName.contentType =
      some (ContentType.forBody call.format.isJson).value :=
  (Ordered.lookup_eq_some_iff (nodup_fields writer call)).mpr
    List.mem_cons_self

theorem lookup_contentLength (writer : ResponseWriter) (call : WriterCall) :
    Ordered.lookup (call.fields writer) HeaderName.contentLength =
      some (Decimal.ofNat (payload call.text).length) :=
  (Ordered.lookup_eq_some_iff (nodup_fields writer call)).mpr
    (List.mem_cons_of_mem _ (List.mem_append_right _ List.mem_cons_self))

theorem lookup_jsonSchema (writer : ResponseWriter) (call : WriterCall) :
    Ordered.lookup (call.fields writer) HeaderName.jsonSchema = call.schema := by
  rw [fields]
  cases call.schema with
  | some text =>
      rw [Ordered.lookup_eq_some_iff (ResponseWriter.nodup_headers _ _)]
      simp [ResponseWriter.headers, ResponseWriter.schemaHeader]
  | none =>
      rw [Ordered.lookup_eq_none_iff]
      cases enabled : writer.cors.enabled <;>
        simp only [Ordered.names, ResponseWriter.headers, CorsPolicy.headers,
          ServiceIdentity.headers, ResponseWriter.schemaHeader, enabled,
          if_true, if_false, Bool.false_eq_true, List.map_cons,
          List.map_append, List.map_nil] <;>
        decide

end WriterCall

/-! ## What completed calls emit -/

section Emitted

variable (writer : ResponseWriter) (calls : List WriterCall)

theorem statuses_emissions :
    statuses (calls.flatMap (WriterCall.emissions writer)) =
      calls.map WriterCall.status := by
  rw [statuses, List.filterMap_flatMap, List.map_eq_flatMap]
  congr 1
  funext call
  exact ResponseWriter.statuses_emissionsWith ..

theorem fields_emissions :
    fields (calls.flatMap (WriterCall.emissions writer)) =
      calls.flatMap (WriterCall.fields writer) := by
  rw [fields, List.filterMap_flatMap]
  congr 1
  funext call
  exact ResponseWriter.fields_emissionsWith ..

theorem bodies_emissions :
    bodies (calls.flatMap (WriterCall.emissions writer)) =
      calls.map fun call => payload call.text := by
  rw [bodies, List.filterMap_flatMap, List.map_eq_flatMap]
  congr 1
  funext call
  exact ResponseWriter.bodies_emissionsWith ..

theorem flush_mem_emissions :
    .flush ∈ calls.flatMap (WriterCall.emissions writer) ↔ calls ≠ [] := by
  cases calls with
  | nil => simp
  | cons call rest =>
      have ended := ResponseWriter.flush_mem_emissionsWith writer call.status
        call.format call.schema (payload call.text)
      simp [WriterCall.emissions, ended]

/-- The buffer that completed calls leave. -/
theorem after_emissions :
    ResponseBuffer.after (calls.flatMap (WriterCall.emissions writer)) =
      ⟨(calls.map WriterCall.status).getLast?,
        Ordered.ofList (calls.flatMap (WriterCall.fields writer)),
        calls.flatMap fun call => payload call.text,
        decide (calls ≠ [])⟩ := by
  rw [ResponseBuffer.after_eq, statuses_emissions, fields_emissions, octets,
    bodies_emissions, ← List.flatMap_def]
  simp only [flush_mem_emissions]

/-- What each call sets is left by the last one. -/
theorem lookup_of_each {name : Text} {value : WriterCall → Text}
    (each : ∀ call, Ordered.lookup (WriterCall.fields writer call) name =
      some (value call)) :
    Ordered.lookup (Ordered.ofList (calls.flatMap (WriterCall.fields writer)))
        name =
      calls.getLast?.map value := by
  rw [Ordered.lookup_ofList_flatMap calls (WriterCall.nodup_fields writer)]
  rcases List.eq_nil_or_concat calls with rfl | ⟨earlier, last, rfl⟩ <;>
    simp [each]

theorem lookup_schema :
    Ordered.lookup (Ordered.ofList (calls.flatMap (WriterCall.fields writer)))
        HeaderName.jsonSchema =
      calls.reverse.findSome? WriterCall.schema := by
  rw [Ordered.lookup_ofList_flatMap calls (WriterCall.nodup_fields writer)]
  simp only [WriterCall.lookup_jsonSchema]

variable {calls}

theorem schema_mem_names_iff
    (described : ∀ call ∈ calls, call.isDescribed = true) :
    HeaderName.jsonSchema ∈
        Ordered.names
          (Ordered.ofList (calls.flatMap (WriterCall.fields writer))) ↔
      ∃ call ∈ calls, call.format.Asks := by
  have absent (call : WriterCall) (member : call ∈ calls) :
      call.schema = none ↔ ¬call.format.Asks :=
    WriterCall.schema_eq_none_iff (described call member)
  rw [← not_iff_not, ← Ordered.lookup_eq_none_iff, lookup_schema,
    List.findSome?_eq_none_iff]
  simp only [List.mem_reverse, not_exists, not_and]
  exact forall₂_congr absent

/-- The schema of the latest call that sends one is left. -/
theorem lookup_schema_of_latest {earlier later : List WriterCall}
    {call : WriterCall}
    (described : ∀ other ∈ earlier ++ call :: later, other.isDescribed = true)
    (asks : call.format.Asks) (unasked : ∀ other ∈ later, ¬other.format.Asks) :
    ∃ schema, describe call.text = .ok schema ∧
      Ordered.lookup
          (Ordered.ofList
            ((earlier ++ call :: later).flatMap (WriterCall.fields writer)))
          HeaderName.jsonSchema =
        some schema := by
  obtain ⟨schema, text, sent⟩ :=
    WriterCall.exists_schema_of_asks (described call (by simp)) asks
  have silent : later.reverse.findSome? WriterCall.schema = none := by
    rw [List.findSome?_eq_none_iff]
    intro other member
    have among := List.mem_reverse.mp member
    exact (WriterCall.schema_eq_none_iff (described other (by simp [among]))).mpr
      (unasked other among)
  refine ⟨schema, text, ?_⟩
  rw [lookup_schema, List.reverse_append, List.reverse_cons, List.append_assoc,
    List.findSome?_append, silent]
  simp [sent]

theorem names_fields_eq
    (described : ∀ call ∈ calls, call.isDescribed = true) :
    Ordered.names (calls.flatMap (WriterCall.fields writer)) =
      calls.flatMap (WriterCall.setNames writer) := by
  rw [Ordered.names, List.map_flatMap]
  exact List.flatMap_congr fun call member =>
    WriterCall.names_fields (described call member)

/-- The length of the last payload is that of all payloads if the others are
empty. -/
theorem announced_iff {announced : Text}
    (found : calls.getLast?.map
        (fun call => Decimal.ofNat (payload call.text).length) =
      some announced) :
    announced =
        Decimal.ofNat (calls.flatMap fun call => payload call.text).length ↔
      ∀ call ∈ calls.dropLast, payload call.text = [] := by
  rcases List.eq_nil_or_concat calls with rfl | ⟨earlier, last, rfl⟩
  · cases found
  · have injective : Function.Injective Decimal.ofNat :=
      Function.LeftInverse.injective Decimal.read_ofNat
    rw [List.concat_eq_append] at found ⊢
    rw [List.getLast?_concat, Option.map_some, Option.some.injEq] at found
    rw [← found, injective.eq_iff, List.dropLast_concat, List.flatMap_append,
      List.length_append, List.flatMap_singleton, ← List.flatMap_eq_nil_iff,
      ← List.length_eq_zero_iff]
    omega

theorem holds_after
    (described : ∀ call ∈ calls, call.isDescribed = true) :
    (ResponseBuffer.after
      (calls.flatMap (WriterCall.emissions writer))).Holds writer calls := by
  rw [after_emissions]
  have lengths :=
    lookup_of_each writer calls (WriterCall.lookup_contentLength writer)
  exact {
    made := fun call member => WriterCall.body_of_described (described call member)
    body_eq := rfl
    status_eq := List.getLast?_map
    flushed_iff := decide_eq_true_iff
    contentType_eq :=
      lookup_of_each writer calls (WriterCall.lookup_contentType writer)
    contentLength_eq := lengths
    schema_present_iff := schema_mem_names_iff writer described
    schema_eq := by
      rintro earlier call later rfl asks unasked
      exact lookup_schema_of_latest writer described asks unasked
    names_eq := by rw [Ordered.names_ofList, names_fields_eq writer described]
    nodup_names := Ordered.nodup_ofList _
    length_iff := fun announced found =>
      announced_iff (lengths.symm.trans found) }

end Emitted

/-! ## Whole runs -/

namespace BufferRun

variable (writer : ResponseWriter)

theorem next_of_described {call : WriterCall}
    (described : call.isDescribed = true) (run : BufferRun) :
    next writer run call =
      ⟨run.completed ++ [call],
        (call.emissions writer).foldl ResponseBuffer.add run.buffer⟩ := by
  have made := WriterCall.body_of_described described
  have known := WriterCall.schema?_of_described described
  have unfaulted :
      (call.perform writer ResponseBuffer.sink run.buffer).fault = _ :=
    WriterCall.fault_perform made
  rw [ResponseWriter.no_fault_of_accepting ResponseBuffer.sink_isAccepting
    known] at unfaulted
  simp only [next, unfaulted]
  rw [WriterCall.delivery_perform made, ResponseWriter.delivery_of_schema known,
    ResponseBuffer.state_deliver]
  rfl

/-- A call that fails leaves no mark. -/
theorem next_of_undescribed {call : WriterCall}
    (undescribed : call.isDescribed = false) (run : BufferRun) :
    next writer run call = run := by
  rcases WriterCall.undescribed_cases undescribed with
    ⟨mishap, unmade⟩ | ⟨fault, made, known⟩
  · rw [next, WriterCall.perform_of_unmade unmade]
    rfl
  · have faulted :
        (call.perform writer ResponseBuffer.sink run.buffer).fault = _ :=
      WriterCall.fault_perform made
    rw [ResponseWriter.write_of_undescribed known] at faulted
    simp only [next, faulted]
    rw [WriterCall.delivery_perform made,
      ResponseWriter.write_of_undescribed known]
    rfl

theorem ofCalls_append_singleton (calls : List WriterCall) (call : WriterCall) :
    ofCalls writer (calls ++ [call]) = next writer (ofCalls writer calls) call := by
  rw [ofCalls, List.foldl_append, List.foldl_cons, List.foldl_nil, ofCalls]

theorem ofCalls_eq (calls : List WriterCall) :
    ofCalls writer calls =
      ⟨calls.filter WriterCall.isDescribed,
        ResponseBuffer.after ((calls.filter WriterCall.isDescribed).flatMap
          (WriterCall.emissions writer))⟩ := by
  induction calls using List.reverseRecOn with
  | nil => rfl
  | append_singleton calls call ih =>
      rw [ofCalls_append_singleton, ih]
      cases described : call.isDescribed with
      | true =>
          rw [next_of_described writer described]
          simp [described, ResponseBuffer.after]
      | false =>
          rw [next_of_undescribed writer described]
          simp [described]

/-- After any calls on one buffer it holds what the completed ones leave, and
the others left no mark. -/
theorem accumulates_ofCalls (calls : List WriterCall) :
    (ofCalls writer calls).Accumulates writer calls where
  completed_eq := by rw [ofCalls_eq]
  holds := by
    rw [ofCalls_eq]
    apply holds_after
    intro call member
    exact List.of_mem_filter member
  failed_unmarked := by
    rintro earlier call later rfl faulted
    rw [ofCalls_append_singleton]
    apply next_of_undescribed
    by_contra described
    rw [Bool.not_eq_false] at described
    rw [WriterCall.fault_perform (WriterCall.body_of_described described)]
      at faulted
    exact faulted (ResponseWriter.no_fault_of_accepting
      ResponseBuffer.sink_isAccepting
      (WriterCall.schema?_of_described described))
  unmarked := by
    rw [ofCalls_eq, ofCalls_eq]
    simp

end BufferRun

end ResponseService
