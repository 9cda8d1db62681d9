import ResponseService.Proofs.Response.Buffered
import ResponseService.Proofs.Web.Outcomes
import ResponseService.Web.Diagnostics

/-!
# Answers to requests

What a request is to be answered with is sent in full, whatever the framework
does in the parts that are left to it, and there is no answer in exactly two
cases (`answered_in_full`): the endpoint orders the program to end, or it fails
and the fault cannot be reported.

The second case is no choice of the endpoint.  The path is taken from the whole
address of a request, so that the octets of a query decide whether a failure is
answered (`pathOfAddress_eq_error_iff`, `unanswered_refusal`).
-/

namespace ResponseService

namespace Application

variable {application : Application} {request : Request} {outcome : Outcome}

/-! ## What the writer makes of an outcome -/

/-- A body that reports an error has the schema that is asked for. -/
theorem describable_errorBody {format : ResponseFormat} {fault : Option Fault}
    {message : Option Text} {body : Text}
    (made : Envelope.errorBody format.isJson fault message = .ok body)
    (asks : format.Asks) : ∃ schema, describe body = .ok schema := by
  rw [Envelope.errorBody, if_pos asks.1] at made
  obtain ⟨trace, -, rfl⟩ := Envelope.errorText_eq_ok_iff.mp made
  exact ⟨_, Envelope.describe_error trace message⟩

theorem describable_of_sends {format : ResponseFormat} {status : Int}
    {body : Text} (sends : outcome.Sends format status body)
    (asks : format.Asks) : ∃ schema, describe body = .ok schema := by
  cases sends with
  | success status message =>
      rw [Envelope.successBody, if_pos asks.1]
      exact ⟨_, Envelope.describe_success message⟩
  | error made => exact describable_errorBody made asks
  | body describable => exact describable asks

/-- A body with a schema where one is asked for becomes a response. -/
theorem exists_responseOf (sendable : application.writer.IsSendable)
    {format : ResponseFormat} (status : Int) {body : Text}
    (describable : format.Asks → ∃ schema, describe body = .ok schema) :
    ∃ response,
      responseOf (application.writer.write ResponseBuffer.sink .empty status
          format body) = .ok response ∧
        response.Carries application.writer format status body := by
  obtain ⟨schema, known⟩ := ResponseWriter.exists_schema? describable
  obtain ⟨response, sent, carries⟩ :=
    ResponseWriter.exists_response_of_write sendable status known
  refine ⟨response, ?_, carries⟩
  rw [responseOf, sent,
    ResponseWriter.no_fault_of_accepting ResponseBuffer.sink_isAccepting known]
  rfl

theorem responseOf_writeError {format : ResponseFormat} {status : Int}
    {fault : Option Fault} {message : Option Text} {body : Text}
    (made : Envelope.errorBody format.isJson fault message = .ok body) :
    responseOf (application.writer.writeError ResponseBuffer.sink .empty status
        format fault message) =
      responseOf (application.writer.write ResponseBuffer.sink .empty status
        format body) := by
  rw [ResponseWriter.writeError, made]
  rfl

theorem exists_errorResponse (sendable : application.writer.IsSendable)
    (status : Int) {fault : Option Fault} {message : Option Text} {body : Text}
    (made : Envelope.errorBody (ResponseFormat.ofQuery request.query).isJson
      fault message = .ok body) :
    ∃ response,
      application.errorResponse request status fault message = .ok response ∧
        response.Carries application.writer
          (ResponseFormat.ofQuery request.query) status body := by
  obtain ⟨response, sent, carries⟩ :=
    exists_responseOf sendable status (describable_errorBody made)
  refine ⟨response, ?_, carries⟩
  rw [errorResponse, delivered, responseOf_writeError made, sent]
  rfl

/-- An error whose body cannot be made fails with the reason. -/
theorem errorResponse_of_unmade {status : Int} {fault : Option Fault}
    {message : Option Text} {mishap : Mishap}
    (unmade : Envelope.errorBody (ResponseFormat.ofQuery request.query).isJson
      fault message = .error mishap) :
    application.errorResponse request status fault message =
      .error
        ((Fault.ofMishap mishap).along (application.framework.way request)) := by
  rw [errorResponse, delivered, ResponseWriter.writeError, unmade]
  rfl

theorem exists_respond_of_sends (sendable : application.writer.IsSendable)
    {status : Int} {body : Text}
    (sends :
      outcome.Sends (ResponseFormat.ofQuery request.query) status body) :
    ∃ response told,
      application.respond request outcome = .ok (response, told) ∧
        response.Carries application.writer
          (ResponseFormat.ofQuery request.query) status body := by
  obtain ⟨response, sent, carries⟩ :=
    exists_responseOf sendable status (describable_of_sends sends)
  cases sends with
  | success _ _ | body _ =>
      refine ⟨response, none, ?_, carries⟩
      rw [respond, delivered]
      first | rw [sent] | rw [ResponseWriter.writeSuccess, sent]
      rfl
  | @error _ fault _ _ made =>
      refine ⟨response, fault, ?_, carries⟩
      rw [respond, errorResponse, delivered, responseOf_writeError made, sent]
      rfl

theorem respond_of_fails {fault : Fault}
    (fails : application.Fails request outcome fault) :
    application.respond request outcome = .error fault := by
  cases fails with
  | raised failure =>
      rw [respond, ended, if_neg (by rw [failure]; decide)]
  | exhausted _ => rfl
  | unmade unmade =>
      rw [respond, errorResponse_of_unmade unmade]
      rfl
  | undescribed asks undescribed =>
      have unknown :=
        ResponseWriter.schema?_eq_error_iff.mpr ⟨asks, undescribed⟩
      rw [respond, delivered, ResponseWriter.write_of_undescribed unknown]
      rfl

/-! ## Reports -/

/-- A fault without an answer of its own is treated as any other failure. -/
theorem answerAt_of_unknown {path : Text} {fault : Fault}
    (unknown : fault.condition.isKnown = false) :
    application.answerAt request path fault =
      application.answerFailure request path [] fault := by
  rw [answerAt]
  split
  · next known => rw [known] at unknown; cases unknown
  · next known => rw [known] at unknown; cases unknown
  · rfl

/-- A failure that is the service's own is answered at its path, which must be
shown first. -/
theorem answerFault_of_own {fault : Fault}
    (failure : fault.condition.kind = .failure)
    (own : fault.condition.isHttp = false) :
    application.answerFault request fault =
      match application.framework.shownPath request with
      | .ok path => application.answerAt request path fault
      | .error condition =>
          .unanswered [] (application.secondFault request fault condition) := by
  rw [answerFault, if_neg (by rw [failure]; decide)]
  split
  · next known => rw [known] at own; cases own
  · rfl

theorem exists_answerFailure (sendable : application.writer.IsSendable)
    {path words body : Text} {fault : Fault} (earlier : List Logging.Record)
    (worded : fault.message = .ok words)
    (made : Envelope.errorBody (ResponseFormat.ofQuery request.query).isJson
      (some fault) (some (failureMessage request.method path words)) =
        .ok body) :
    ∃ response,
      (application.answerFailure request path earlier fault).response =
          some response ∧
        response.Carries application.writer
          (ResponseFormat.ofQuery request.query) 500 body := by
  obtain ⟨response, written, carries⟩ :=
    exists_errorResponse sendable failureStatus made
  exact ⟨response, by simp only [answerFailure, worded, written], carries⟩

/-- A report that can be made is sent. -/
theorem exists_answerAt (sendable : application.writer.IsSendable)
    {path message body : Text} {fault : Fault} {status : Int}
    (report : fault.ReportedAs request.method path status message)
    (made : Envelope.errorBody (ResponseFormat.ofQuery request.query).isJson
      (some fault) (some message) = .ok body) :
    ∃ response,
      (application.answerAt request path fault).response = some response ∧
        response.Carries application.writer
          (ResponseFormat.ofQuery request.query) status body := by
  obtain ⟨response, written, carries⟩ :=
    exists_errorResponse sendable status made
  refine ⟨response, ?_, carries⟩
  cases report with
  | service known worded =>
      simp only [answerAt, known, answerKnown, worded, written]
  | invalidRequest known listed worded =>
      simp only [answerAt, known, answerKnown, listed, worded, Except.map,
        invalidStatus, written]
  | other unknown worded =>
      simp only [answerAt_of_unknown unknown, answerFailure, worded,
        failureStatus, written]

/-- The lack of the words for a fault is answered like any other failure. -/
theorem exists_answerAt_of_lacksWords (application : Application)
    (request : Request) (path : Text) {fault : Fault} {mishap : Mishap}
    (lacks : fault.LacksWords mishap) :
    ∃ earlier,
      application.answerAt request path fault =
        application.answerFailure request path earlier
          (application.secondFault request fault (.ofMishap mishap)) := by
  cases lacks with
  | service known wordless =>
      exact ⟨_, by simp only [answerAt, known, answerKnown, wordless]; rfl⟩
  | unlisted known unlisted =>
      exact ⟨_, by
        simp only [answerAt, known, answerKnown, unlisted, Except.map]; rfl⟩
  | unsummed known listed wordless =>
      exact ⟨_, by
        simp only [answerAt, known, answerKnown, listed, wordless,
          Except.map]; rfl⟩

/-- The report of a failure without a trace cannot be made where it is to tell
the trace. -/
theorem unanswered_of_untold {path : Text} {fault : Fault} {mishap : Mishap}
    (isJson : (ResponseFormat.ofQuery request.query).isJson = true)
    (untold : fault.trace = .error mishap) (earlier : List Logging.Record) :
    (application.answerFailure request path earlier fault).response = none := by
  have unmade (message : Option Text) :
      Envelope.errorBody (ResponseFormat.ofQuery request.query).isJson
        (some fault) message = .error mishap := by
    rw [Envelope.errorBody, if_pos isJson]
    exact Envelope.errorText_eq_error_iff.mpr untold
  rw [answerFailure]
  split
  · rfl
  · simp only [errorResponse_of_unmade (unmade _), Exchange.unanswered]

/-- Neither can that of a fault with an answer of its own, nor the report of
this second failure. -/
theorem unanswered_of_untold_known {path : Text} {fault : Fault}
    {mishap : Mishap}
    (isJson : (ResponseFormat.ofQuery request.query).isJson = true)
    (untold : fault.trace = .error mishap)
    (record : Except Mishap Logging.Record) (status : Int)
    (message : Except Mishap Text) :
    (application.answerKnown request path record status fault
      message).response = none := by
  have second (other : Mishap) (earlier : List Logging.Record) :
      (application.answerFailure request path earlier
        (application.secondFault request fault (.ofMishap other))).response =
          none := by
    obtain ⟨_, secondUntold⟩ := untold_secondFault untold other
    exact unanswered_of_untold isJson secondUntold earlier
  unfold answerKnown
  split
  · exact second _ _
  · split
    · exact second _ _
    · next words =>
        have unmade : Envelope.errorBody
            (ResponseFormat.ofQuery request.query).isJson (some fault)
            (some words) = .error mishap := by
          rw [Envelope.errorBody, if_pos isJson]
          exact Envelope.errorText_eq_error_iff.mpr untold
        simp only [errorResponse_of_unmade unmade]
        exact second mishap _

/-- A fault that cannot be reported has no answer. -/
theorem unanswered_of_unreportable {fault : Fault}
    (failure : fault.condition.kind = .failure)
    (own : fault.condition.isHttp = false)
    (unreportable : application.Unreportable request fault) :
    (application.answerFault request fault).response = none := by
  rw [answerFault_of_own failure own]
  split
  · next path shown =>
      cases unreportable with
      | unshown unshown =>
          rw [shown] at unshown
          cases unshown
      | wordless unknown wordless =>
          simp only [answerAt_of_unknown unknown, answerFailure, wordless,
            Exchange.unanswered]
      | untold isJson untold =>
          rw [answerAt]
          split
          · exact unanswered_of_untold_known isJson untold _ _ _
          · exact unanswered_of_untold_known isJson untold _ _ _
          · exact unanswered_of_untold isJson untold []
  · rfl

/-! ## Answers -/

/-- What is to be answered is answered in full. -/
theorem exists_response_of_answered (sendable : application.writer.IsSendable)
    {route : Route}
    (found : Route.find application.routes request = .found route)
    {status : Int} {body : Text}
    (answered :
      application.Answered request (route.endpoint request) status body) :
    ∃ response,
      (application.handle request).response = some response ∧
        response.Carries application.writer
          (ResponseFormat.ofQuery request.query) status body := by
  rw [handle, found]
  cases answered with
  | sent sends =>
      obtain ⟨response, told, responded, carries⟩ :=
        exists_respond_of_sends sendable sends
      simp only [responded]
      exact ⟨response, rfl, carries⟩
  | @reported fault told path _ _ _ fails own shown reports report made =>
      simp only [respond_of_fails fails,
        answerFault_of_own fails.kind_eq own, shown]
      cases reports with
      | itself _ => exact exists_answerAt sendable report made
      | lack lacks =>
          obtain ⟨earlier, same⟩ :=
            exists_answerAt_of_lacksWords application request path lacks
          rw [same]
          cases report with
          | other _ worded =>
              exact exists_answerFailure sendable earlier worded made
          | service known _ | invalidRequest known _ _ =>
              rw [condition_secondFault] at known
              cases known

/-- A failing endpoint is answered as its fault is. -/
theorem handle_of_fails {route : Route}
    (found : Route.find application.routes request = .found route)
    {fault : Fault}
    (fails : application.Fails request (route.endpoint request) fault) :
    application.handle request = application.answerFault request fault := by
  rw [handle, found]
  simp only [respond_of_fails fails]

/-- An order to end the program is not answered. -/
theorem unanswered_of_isOrder {route : Route}
    (found : Route.find application.routes request = .found route)
    (order : (route.endpoint request).IsOrder) :
    (application.handle request).response = none := by
  rw [handle, found]
  dsimp only
  cases outcome : route.endpoint request with
  | failure fault =>
      rw [outcome, Outcome.IsOrder] at order
      have responded :
          application.respond request (.failure fault) = .error fault := by
        rw [respond, ended, if_neg (by rw [order]; decide)]
      simp only [responded, answerFault, if_pos order, Exchange.unanswered]
  | _ =>
      rw [outcome] at order
      exact order.elim

/-- A page is the answer. -/
theorem response_of_page {route : Route}
    (found : Route.find application.routes request = .found route)
    {page : Response} (outcome : route.endpoint request = .page page) :
    (application.handle request).response = some page := by
  rw [handle, found]
  simp only [outcome, respond]

/-- The answer to an error of the framework is the framework's. -/
theorem response_of_http {route : Route}
    (found : Route.find application.routes request = .found route)
    {fault : Fault} {error : HttpError}
    (outcome : route.endpoint request = .failure fault)
    (known : fault.condition = .http error) :
    (application.handle request).response =
      some (application.framework.refusal error) := by
  have fails : application.Fails request (route.endpoint request) fault := by
    rw [outcome]
    exact .raised (by rw [known]; rfl)
  rw [handle_of_fails found fails, answerFault,
    if_neg (by rw [fails.kind_eq]; decide), known]
  rfl

/-- A fault that is left to the framework is one that the endpoint has raised
itself. -/
theorem Fails.of_isHttp {fault : Fault}
    (fails : application.Fails request outcome fault)
    (http : fault.condition.isHttp = true) :
    ∃ error, outcome = .failure fault ∧ fault.condition = .http error := by
  cases fails with
  | raised _ =>
      cases known : fault.condition with
      | http error => exact ⟨error, rfl, rfl⟩
      | _ => rw [known] at http; cases http
  | exhausted yielded =>
      rw [ended, if_pos yielded] at http
      cases http
  | unmade _ =>
      rw [Fault.condition_along] at http
      cases http
  | undescribed _ undescribed =>
      rw [Fault.condition_along,
        (Fault.lacksSchema_of_describe undescribed).isHttp_eq] at http
      cases http

theorem unanswered_iff (sendable : application.writer.IsSendable)
    {route : Route}
    (found : Route.find application.routes request = .found route) :
    (application.handle request).response = none ↔
      (route.endpoint request).IsOrder ∨
        ∃ fault, application.Fails request (route.endpoint request) fault ∧
          fault.condition.isHttp = false ∧
            application.Unreportable request fault := by
  constructor
  · intro unanswered
    have undue (status : Int) (body : Text) :
        ¬application.Answered request (route.endpoint request) status body := by
      intro answered
      obtain ⟨response, sent, -⟩ :=
        exists_response_of_answered sendable found answered
      rw [unanswered] at sent
      cases sent
    rcases sends_or_fails application request (route.endpoint request) with
      ⟨status, body, sends⟩ | ⟨fault, fails⟩ | order | page
    · exact absurd (.sent sends) (undue status body)
    · cases http : fault.condition.isHttp with
      | false =>
          rcases reported_or_unreportable fails http with
            ⟨status, body, answered⟩ | unreportable
          · exact absurd answered (undue status body)
          · exact .inr ⟨fault, fails, http, unreportable⟩
      | true =>
          obtain ⟨error, outcome, known⟩ := fails.of_isHttp http
          rw [response_of_http found outcome known] at unanswered
          cases unanswered
    · exact .inl order
    · cases outcome : route.endpoint request with
      | page response =>
          rw [response_of_page found outcome] at unanswered
          cases unanswered
      | _ => rw [outcome] at page; exact page.elim
  · rintro (order | ⟨fault, fails, own, unreportable⟩)
    · exact unanswered_of_isOrder found order
    · rw [handle_of_fails found fails]
      exact unanswered_of_unreportable fails.kind_eq own unreportable

theorem writer_of_create {framework : Framework} {settings : Settings}
    {further : List Route}
    (created : create framework settings further = .ok application) :
    application.writer = ⟨settings.corsPolicy, settings.serviceIdentity⟩ := by
  rw [create] at created
  split at created <;> cases created
  rfl

/-- A request is answered in full with what its endpoint sends or with the
report of its fault, a missing schema being reported with status 500, and a
report is as complete with any other text in the place of the trace.  There is
no answer exactly if the program is ordered to end, or if there is a fault of
the service's own that cannot be reported.  All of this holds of every
framework. -/
theorem answered_in_full {framework : Framework} {settings : Settings}
    {further : List Route} {application : Application} {request : Request}
    {route : Route}
    (created : create framework settings further = .ok application)
    (sendable : ResponseWriter.IsSendable
      ⟨settings.corsPolicy, settings.serviceIdentity⟩)
    (found : Route.find application.routes request = .found route) :
    (∀ status body,
      application.Answered request (route.endpoint request) status body →
        ∃ response,
          (application.handle request).response = some response ∧
            response.Carries ⟨settings.corsPolicy, settings.serviceIdentity⟩
              (ResponseFormat.ofQuery request.query) status body) ∧
      (∀ body fault path status message,
        describe body = .error fault →
          (fault.along (application.framework.way request)).ReportedAs
            request.method path status message →
          status = 500) ∧
      (∀ status wantsSchema trace message, ∃ response,
        responseOf
            (ResponseWriter.writeTrace
              ⟨settings.corsPolicy, settings.serviceIdentity⟩ .empty status
              ResponseBuffer.sink ⟨true, wantsSchema⟩ trace message) =
          .ok response ∧
        response.Carries ⟨settings.corsPolicy, settings.serviceIdentity⟩
          ⟨true, wantsSchema⟩ status (Envelope.tracedText trace message)) ∧
      ((application.handle request).response = none ↔
        (route.endpoint request).IsOrder ∨
          ∃ fault, application.Fails request (route.endpoint request) fault ∧
            fault.condition.isHttp = false ∧
              application.Unreportable request fault) := by
  rw [← writer_of_create created] at sendable ⊢
  refine ⟨?_, ?_, ?_, unanswered_iff sendable found⟩
  · intro status body answered
    exact exists_response_of_answered sendable found answered
  · intro body fault path status message undescribed report
    refine report.status_eq_of_lacksSchema ?_
    rw [Fault.condition_along]
    exact Fault.lacksSchema_of_describe undescribed
  · intro status wantsSchema trace message
    exact exists_responseOf sendable status fun _ =>
      ⟨_, Envelope.describe_error trace message⟩

/-! ### A refused request -/

/-- A path that is taken from the address can be shown exactly if the query is
UTF-8. -/
theorem pathOfAddress_eq_error_iff {request : Request}
    {condition : Condition} :
    Framework.pathOfAddress request = .error condition ↔
      ∃ stretch, Utf8.decode request.query = .error stretch ∧
        condition = .undecodable stretch := by
  rw [Framework.pathOfAddress, Request.address]
  cases Utf8.decode request.query <;> simp [Except.map, eq_comm]

/-- The diagnostic service, open to one other origin. -/
def diagnosticSettings : Settings :=
  ⟨true, "https://ui.example", "User-Task-ID", "2.5.138", "abc1234", "INFO",
    "json"⟩

/-- What a request for a broker without a number is told. -/
def refusalMessage : Text := "Broker id 'abc' is not an integer."

/-- What such a request is refused with. -/
def refusalError : ServiceError :=
  .userRequest refusalMessage ServiceError.defaultRequestStatus

/-- The refusal as a fault. -/
def refusal : Fault := .ofCondition (.service refusalError)

/-- The diagnostic routes, the refusal being the outcome that is asked for. -/
def diagnosticRoutes : List Route :=
  Diagnostics.routes .plain (.failure refusal)

/-- The service with its diagnostic routes. -/
def diagnosticService : Application :=
  ⟨.plain, diagnosticSettings,
    pageRoutes .plain ++ healthRoute :: diagnosticRoutes⟩

/-- The route on which every request is refused. -/
def refusingRoute : Route :=
  Diagnostics.getRoute "/test/user-error" fun _ => .failure refusal

/-- The trace of the refusal. -/
def refusalTrace : Text :=
  "Traceback (most recent call last):\n" ++
    "cruise_response.core.errors.UserRequestError: " ++
    refusalMessage ++ "\n"

/-- A request that is refused. -/
def refusedRequest (query : List UInt8) : Request :=
  ⟨"http://localhost", "GET", "/test/user-error", query⟩

theorem find_refusedRequest (query : List UInt8) :
    Route.find diagnosticService.routes (refusedRequest query) =
      .found refusingRoute := by
  rfl

theorem sendable_diagnosticSettings :
    ResponseWriter.IsSendable
      ⟨diagnosticSettings.corsPolicy, diagnosticSettings.serviceIdentity⟩ := by
  unfold ResponseWriter.IsSendable
  decide +kernel

/-- A query that asks for JSON with its schema. -/
def schemaQuery : List UInt8 := Utf8.encode "json=true&get_response_schema=true"

/-- A refusal is told in JSON, with its schema. -/
theorem answered_in_full_refusal :
    create .plain diagnosticSettings diagnosticRoutes =
        .ok diagnosticService ∧
      ResponseWriter.IsSendable
        ⟨diagnosticSettings.corsPolicy, diagnosticSettings.serviceIdentity⟩ ∧
      Route.find diagnosticService.routes (refusedRequest schemaQuery) =
        .found refusingRoute ∧
      ∃ response,
        (diagnosticService.handle (refusedRequest schemaQuery)).response =
          some response ∧
        response.Carries
          ⟨diagnosticSettings.corsPolicy, diagnosticSettings.serviceIdentity⟩
          ⟨true, true⟩ 400
          (Envelope.tracedText refusalTrace (some refusalMessage)) := by
  have created : create .plain diagnosticSettings diagnosticRoutes =
      .ok diagnosticService := rfl
  have found := find_refusedRequest schemaQuery
  have flags :
      ResponseFormat.ofQuery (refusedRequest schemaQuery).query =
        ⟨true, true⟩ := by
    decide +kernel
  have shown : Framework.plain.shownPath (refusedRequest schemaQuery) =
      .ok (Text.ofString "/test/user-error") := by
    rfl
  have fails : diagnosticService.Fails (refusedRequest schemaQuery)
      (refusingRoute.endpoint (refusedRequest schemaQuery)) refusal :=
    .raised rfl
  have report : refusal.ReportedAs (refusedRequest schemaQuery).method
      (Text.ofString "/test/user-error") refusalError.status refusalMessage :=
    .service rfl rfl
  have worded (mishap : Mishap) : ¬refusal.LacksWords mishap := by
    rintro (⟨known, wordless⟩ | ⟨known, _⟩ | ⟨known, _, _⟩) <;> cases known
    cases wordless
  have told : Fault.traceOf (some refusal) = .ok refusalTrace := by
    decide +kernel
  have made : Envelope.errorBody
      (ResponseFormat.ofQuery (refusedRequest schemaQuery).query).isJson
      (some refusal) (some refusalMessage) =
        .ok (Envelope.tracedText refusalTrace (some refusalMessage)) := by
    rw [flags]
    exact ResponseWriter.errorBody_of_told told _
  have answered := (answered_in_full created sendable_diagnosticSettings
    found).1 _ _ (.reported fails rfl shown (.itself worded) report made)
  rw [flags] at answered
  exact ⟨created, sendable_diagnosticSettings, found, answered⟩

/-- The same refusal is not answered if the query holds an octet that is not
UTF-8. -/
theorem unanswered_refusal :
    create .plain diagnosticSettings diagnosticRoutes =
        .ok diagnosticService ∧
      ResponseWriter.IsSendable
        ⟨diagnosticSettings.corsPolicy, diagnosticSettings.serviceIdentity⟩ ∧
      Route.find diagnosticService.routes (refusedRequest [0x61, 0x3D, 0xE9]) =
        .found refusingRoute ∧
      refusingRoute.endpoint (refusedRequest [0x61, 0x3D, 0xE9]) =
        .failure refusal ∧
      refusal.condition.kind = .failure ∧
      (diagnosticService.handle
        (refusedRequest [0x61, 0x3D, 0xE9])).response = none := by
  have found := find_refusedRequest [0x61, 0x3D, 0xE9]
  have undecodable :
      Utf8.decode [0x61, 0x3D, 0xE9] = .error ⟨.ending, 2, 1, 0xE9⟩ := by
    decide +kernel
  have unshown : Framework.pathOfAddress (refusedRequest [0x61, 0x3D, 0xE9]) =
      .error (.undecodable ⟨.ending, 2, 1, 0xE9⟩) :=
    pathOfAddress_eq_error_iff.mpr ⟨_, undecodable, rfl⟩
  have fails : diagnosticService.Fails (refusedRequest [0x61, 0x3D, 0xE9])
      (refusingRoute.endpoint (refusedRequest [0x61, 0x3D, 0xE9])) refusal :=
    .raised rfl
  refine ⟨rfl, sendable_diagnosticSettings, found, rfl, rfl, ?_⟩
  rw [handle_of_fails found fails]
  exact unanswered_of_unreportable rfl rfl (.unshown unshown)

end Application

end ResponseService
