import ResponseService.Proofs.Settings.Origin
import ResponseService.Proofs.Web.Identified

/-!
# Settings that can be served

Settings are accepted whatever characters are in their texts, but some of these
texts are sent as headers (`Setting.sent`), and a header must be Latin-1.  If
all that are sent are Latin-1 every call for a success, and every call for an
error whose body can be made, becomes a response; if one is not, none does, and
no request is answered unless its endpoint leaves the answer to the framework
(`served_iff_sendable`).  The version must not be empty either, or there is no
application.

A call for an error whose body cannot be made fails before anything is written,
so there is no response to ask for, whatever the settings are.
-/

namespace ResponseService

/-! ## Settings that are sent -/

namespace Setting

/-- The settings whose texts are sent as headers. -/
def sent (corsEnabled : Bool) : List Setting :=
  [.serviceVersion, .commitId] ++
    if corsEnabled then [.corsOrigin, .corsExposeHeaders] else []

end Setting

/-- All texts that the sources give for headers are Latin-1. -/
def Sources.IsSendable (sources : Sources) : Prop :=
  ∀ setting ∈ Setting.sent (Settings.booleanOf sources .corsEnabled),
    (Settings.textOf sources setting).IsLatin1

namespace Settings

theorem isSendable_iff (settings : Settings) :
    ResponseWriter.IsSendable
        ⟨settings.corsPolicy, settings.serviceIdentity⟩ ↔
      settings.serviceVersion.IsLatin1 ∧ settings.commitId.IsLatin1 ∧
        (settings.corsEnabled = true →
          settings.corsOrigin.IsLatin1 ∧
            settings.corsExposeHeaders.IsLatin1) := by
  have allowed : Text.IsLatin1 "true" := by decide
  cases enabled : settings.corsEnabled <;>
    simp [ResponseWriter.IsSendable, corsPolicy, serviceIdentity,
      CorsPolicy.headers, ServiceIdentity.headers, enabled, allowed]
  tauto

/-- Whether the settings can be sent is seen from their sources. -/
theorem isSendable_iff_of_construct {sources : Sources} {settings : Settings}
    (accepted : construct sources = .ok settings) :
    ResponseWriter.IsSendable
        ⟨settings.corsPolicy, settings.serviceIdentity⟩ ↔
      sources.withoutOption.IsSendable := by
  rw [construct] at accepted
  rw [← (gather_of_ofSources accepted).2, isSendable_iff, Sources.IsSendable]
  cases enabled : booleanOf sources.withoutOption .corsEnabled <;>
    simp [gather, Setting.sent, enabled]

end Settings

/-! ## Calls on an empty buffer -/

/-- The reports of calls on an empty buffer for a success, or for an error whose
body can be made. -/
inductive ResponseWriter.Reports (writer : ResponseWriter) :
    WriteReport ResponseBuffer → Prop where
  | success (status : Int) (format : ResponseFormat) (message : Text) :
      Reports writer
        (writer.writeSuccess ResponseBuffer.sink .empty status format message)
  | error (status : Int) (format : ResponseFormat) {fault : Option Fault}
      {errorMessage : Option Text} {body : Text}
      (made :
        Envelope.errorBody format.isJson fault errorMessage = .ok body) :
      Reports writer
        (writer.writeError ResponseBuffer.sink .empty status format fault
          errorMessage)

namespace ResponseWriter

variable {writer : ResponseWriter}

/-- Such a call writes a body that has a description if one is asked for. -/
theorem Reports.exists_write {report : WriteReport ResponseBuffer}
    (reports : writer.Reports report) :
    ∃ status format body schema, schema? format body = .ok schema ∧
      report.fault =
        (writer.write ResponseBuffer.sink .empty status format body).fault ∧
      report.delivery =
        (writer.write ResponseBuffer.sink .empty status format
          body).delivery := by
  cases reports with
  | success status format message =>
      have sends : (Outcome.success status message).Sends format status _ :=
        .success status message
      obtain ⟨schema, known⟩ :=
        exists_schema? (Application.describable_of_sends sends)
      exact ⟨status, format, _, schema, known, rfl, rfl⟩
  | error status format made =>
      obtain ⟨schema, known⟩ :=
        exists_schema? (Application.describable_errorBody made)
      refine ⟨status, format, _, schema, known, ?_, ?_⟩ <;>
        rw [writeError, made]

theorem Reports.fault_eq_none {report : WriteReport ResponseBuffer}
    (reports : writer.Reports report) : report.fault = none := by
  obtain ⟨_, _, _, _, known, fault, _⟩ := reports.exists_write
  rw [fault]
  exact no_fault_of_accepting ResponseBuffer.sink_isAccepting known

theorem Reports.unencodable {report : WriteReport ResponseBuffer}
    (reports : writer.Reports report) (unsendable : ¬writer.IsSendable) :
    ∃ stretch, report.delivery.state.toResponse =
      .error (.unencodable stretch) := by
  obtain ⟨status, _, _, _, known, _, delivery⟩ := reports.exists_write
  rw [delivery]
  exact unencodable_of_write unsendable status known

/-- Such a call becomes a response exactly if the headers of the service can be
sent. -/
theorem Reports.exists_response_iff {report : WriteReport ResponseBuffer}
    (reports : writer.Reports report) :
    (∃ response, report.delivery.state.toResponse = .ok response) ↔
      writer.IsSendable := by
  constructor
  · rintro ⟨response, sent⟩
    by_contra unsendable
    obtain ⟨stretch, failed⟩ := reports.unencodable unsendable
    rw [failed] at sent
    cases sent
  · intro sendable
    obtain ⟨status, _, _, _, known, _, delivery⟩ := reports.exists_write
    obtain ⟨response, sent, _⟩ :=
      exists_response_of_write sendable status known
    rw [delivery]
    exact ⟨response, sent⟩

/-- A call for an error whose body cannot be made fails with the reason, and the
buffer holds no response. -/
theorem unwritten_of_unmade (writer : ResponseWriter) (status : Int)
    {format : ResponseFormat} {fault : Option Fault}
    {errorMessage : Option Text} {mishap : Mishap}
    (unmade :
      Envelope.errorBody format.isJson fault errorMessage = .error mishap) :
    (writer.writeError ResponseBuffer.sink .empty status format fault
        errorMessage).fault = some (.ofMishap mishap) ∧
      (writer.writeError ResponseBuffer.sink .empty status format fault
        errorMessage).delivery.state.toResponse = .error .notWritten := by
  rw [writeError, unmade]
  exact ⟨rfl, rfl⟩

end ResponseWriter

/-- The body of an error can be made where it is no envelope, and otherwise if
the fault has a trace. -/
theorem Envelope.exists_errorBody_iff {isJson : Bool} {fault : Option Fault}
    {errorMessage : Option Text} :
    (∃ body, errorBody isJson fault errorMessage = .ok body) ↔
      (isJson = true → ∃ trace, Fault.traceOf fault = .ok trace) := by
  cases isJson with
  | false => exact ⟨fun _ => nofun, fun _ => ⟨_, rfl⟩⟩
  | true =>
      constructor
      · rintro ⟨body, made⟩ -
        obtain ⟨trace, told, -⟩ := errorText_eq_ok_iff.mp made
        exact ⟨trace, told⟩
      · intro traced
        obtain ⟨trace, told⟩ := traced rfl
        exact ⟨_, ResponseWriter.errorBody_of_told told errorMessage⟩

/-! ## Requests -/

namespace Application

variable {application : Application} (request : Request)

/-- Without sendable headers no body becomes a response, and the fault is the
service's own. -/
theorem undelivered_of_not_sendable
    (unsendable : ¬application.writer.IsSendable) (status : Int)
    (format : ResponseFormat) (body : Text) :
    ∃ fault,
      application.delivered request
          (application.writer.write ResponseBuffer.sink .empty status format
            body) = .error fault ∧
        fault.condition.isHttp = false := by
  cases known : ResponseWriter.schema? format body with
  | error fault =>
      obtain ⟨-, undescribed⟩ := ResponseWriter.schema?_eq_error_iff.mp known
      refine ⟨fault.along (application.framework.way request), ?_, ?_⟩
      · rw [delivered, ResponseWriter.write_of_undescribed known]
        rfl
      · rw [Fault.condition_along]
        exact (Fault.lacksSchema_of_describe undescribed).isHttp_eq
  | ok schema =>
      obtain ⟨stretch, failed⟩ :=
        ResponseWriter.unencodable_of_write unsendable status known
      refine ⟨(Fault.ofCondition (.unencodable stretch)).along
        (application.framework.way request), ?_, ?_⟩
      · rw [delivered, responseOf, failed, ResponseWriter.no_fault_of_accepting
          ResponseBuffer.sink_isAccepting known]
        rfl
      · rw [Fault.condition_along]
        rfl

theorem exists_failure_of_errorResponse
    (unsendable : ¬application.writer.IsSendable) (status : Int)
    (told : Option Fault) (message : Option Text) :
    ∃ fault,
      application.errorResponse request status told message = .error fault ∧
        fault.condition.isHttp = false := by
  cases made : Envelope.errorBody (ResponseFormat.ofQuery request.query).isJson
      told message with
  | ok body =>
      rw [errorResponse, delivered, responseOf_writeError made]
      exact undelivered_of_not_sendable request unsendable status _ body
  | error mishap =>
      refine ⟨_, errorResponse_of_unmade made, ?_⟩
      rw [Fault.condition_along]
      rfl

/-- Without sendable headers every endpoint fails whose answer is not left to
the framework. -/
theorem exists_failure_of_respond
    (unsendable : ¬application.writer.IsSendable) {outcome : Outcome}
    (kept : ∀ other, ¬outcome.Leaves application.framework other) :
    ∃ fault, application.respond request outcome = .error fault ∧
      fault.condition.isHttp = false := by
  cases outcome with
  | success status message =>
      obtain ⟨fault, failed, own⟩ := undelivered_of_not_sendable request
        unsendable status (ResponseFormat.ofQuery request.query)
        (Envelope.successBody _ message)
      exact ⟨fault, by rw [respond, ResponseWriter.writeSuccess, failed]; rfl,
        own⟩
  | error status told message =>
      obtain ⟨fault, failed, own⟩ := exists_failure_of_errorResponse request
        unsendable status told message
      exact ⟨fault, by rw [respond, failed]; rfl, own⟩
  | body status body =>
      obtain ⟨fault, failed, own⟩ := undelivered_of_not_sendable request
        unsendable status (ResponseFormat.ofQuery request.query) body
      exact ⟨fault, by rw [respond, failed]; rfl, own⟩
  | page response => exact absurd (.page response) (kept response)
  | failure fault =>
      refine ⟨application.ended request fault, rfl, ?_⟩
      rw [ended]
      split
      · rfl
      · cases known : fault.condition with
        | http error => exact absurd (.http known) (kept _)
        | _ => rfl

theorem unanswered_of_answerFailure
    (unsendable : ¬application.writer.IsSendable) (path : Text)
    (earlier : List Logging.Record) (fault : Fault) :
    (application.answerFailure request path earlier fault).response = none := by
  rw [answerFailure]
  split
  · rfl
  · next words _ =>
      obtain ⟨second, failed, -⟩ := exists_failure_of_errorResponse request
        unsendable failureStatus (some fault)
        (some (failureMessage request.method path words))
      simp only [failed, Exchange.unanswered]

theorem unanswered_of_answerFault
    (unsendable : ¬application.writer.IsSendable) {fault : Fault}
    (own : fault.condition.isHttp = false) :
    (application.answerFault request fault).response = none := by
  by_cases order : fault.condition.kind = .order
  · rw [answerFault, if_pos order]
    rfl
  have known (path : Text) (record : Except Mishap Logging.Record)
      (status : Int) (message : Except Mishap Text) :
      (application.answerKnown request path record status fault
        message).response = none := by
    unfold answerKnown
    split
    · exact unanswered_of_answerFailure request unsendable _ _ _
    · split
      · exact unanswered_of_answerFailure request unsendable _ _ _
      · next words =>
          obtain ⟨second, failed, -⟩ := exists_failure_of_errorResponse request
            unsendable status (some fault) (some words)
          simp only [failed]
          exact unanswered_of_answerFailure request unsendable _ _ _
  rw [answerFault, if_neg order]
  split
  · next http => rw [http] at own; cases own
  · split
    · rw [answerAt]
      split
      · exact known _ _ _ _
      · exact known _ _ _ _
      · exact unanswered_of_answerFailure request unsendable _ _ _
    · rfl

/-- Without sendable headers no request with a route is answered, unless the
answer is left to the framework: the report of one failure fails like the answer
before it. -/
theorem unanswered_of_not_sendable
    (unsendable : ¬application.writer.IsSendable) {route : Route}
    (found : Route.find application.routes request = .found route)
    (kept : ∀ other,
      ¬(route.endpoint request).Leaves application.framework other) :
    (application.handle request).response = none := by
  obtain ⟨fault, failed, own⟩ :=
    exists_failure_of_respond request unsendable kept
  rw [handle, found]
  simp only [failed]
  exact unanswered_of_answerFault request unsendable own

theorem create_eq_ok_iff {framework : Framework} {settings : Settings}
    {further : List Route} :
    create framework settings further = .ok application ↔
      settings.serviceVersion ≠ [] ∧
        application = ⟨framework, settings,
          pageRoutes framework ++ healthRoute :: further⟩ := by
  cases version : settings.serviceVersion <;> simp [create, version, eq_comm]

theorem healthRoute_kept (framework : Framework) (other : Response) :
    ¬(healthRoute.endpoint request).Leaves framework other :=
  nofun

end Application

/-! ## What is accepted and what is served -/

/-- Settings can be served exactly if all texts that they give for headers are
Latin-1.  Then every call for a success or an error becomes a response if its
body can be made, and a request for the health of the service is answered with
status 200, whatever the framework, the other routes and the query are.
Otherwise no such call becomes a response and no such request is answered.  An
error in JSON cannot be made if its fault has no trace; then nothing is written.
Of settings that are made of sources it is seen from these whether they can be
served, and an application is made of all settings but those with an empty
version. -/
theorem served_iff_sendable (settings : Settings) :
    (∀ report, ResponseWriter.Reports
        ⟨settings.corsPolicy, settings.serviceIdentity⟩ report →
      report.fault = none ∧
        ((∃ response, report.delivery.state.toResponse = .ok response) ↔
          ResponseWriter.IsSendable
            ⟨settings.corsPolicy, settings.serviceIdentity⟩) ∧
        (¬ResponseWriter.IsSendable
            ⟨settings.corsPolicy, settings.serviceIdentity⟩ →
          ∃ stretch, report.delivery.state.toResponse =
            .error (.unencodable stretch))) ∧
    (∀ status format fault errorMessage mishap,
      Envelope.errorBody format.isJson fault errorMessage = .error mishap →
        (ResponseWriter.writeError
            ⟨settings.corsPolicy, settings.serviceIdentity⟩
            ResponseBuffer.sink .empty status format fault
            errorMessage).fault = some (.ofMishap mishap) ∧
          (ResponseWriter.writeError
            ⟨settings.corsPolicy, settings.serviceIdentity⟩
            ResponseBuffer.sink .empty status format fault
            errorMessage).delivery.state.toResponse = .error .notWritten) ∧
    (∀ isJson fault errorMessage,
      (∃ body, Envelope.errorBody isJson fault errorMessage = .ok body) ↔
        (isJson = true → ∃ trace, Fault.traceOf fault = .ok trace)) ∧
    (∀ sources, Settings.construct sources = .ok settings →
      (ResponseWriter.IsSendable
          ⟨settings.corsPolicy, settings.serviceIdentity⟩ ↔
        sources.withoutOption.IsSendable)) ∧
    (∀ framework further,
      (∃ application,
          Application.create framework settings further = .ok application) ↔
        settings.serviceVersion ≠ []) ∧
    ∀ framework further application site query,
      Application.create framework settings further = .ok application →
        (ResponseWriter.IsSendable
            ⟨settings.corsPolicy, settings.serviceIdentity⟩ →
          ∃ response,
            (application.handle
                (Application.healthRequest site query)).response =
              some response ∧
            response.Carries ⟨settings.corsPolicy, settings.serviceIdentity⟩
              (ResponseFormat.ofQuery query) 200
              (Envelope.successBody (ResponseFormat.ofQuery query).isJson
                "Cruise Control is running.")) ∧
        (¬ResponseWriter.IsSendable
            ⟨settings.corsPolicy, settings.serviceIdentity⟩ →
          (application.handle
            (Application.healthRequest site query)).response = none) := by
  refine ⟨?_, ?_, fun _ _ _ => Envelope.exists_errorBody_iff,
    fun _ accepted => Settings.isSendable_iff_of_construct accepted, ?_, ?_⟩
  · intro report reports
    exact ⟨reports.fault_eq_none, reports.exists_response_iff,
      reports.unencodable⟩
  · intro status format fault errorMessage mishap unmade
    exact ResponseWriter.unwritten_of_unmade _ status unmade
  · intro framework further
    simp [Application.create_eq_ok_iff]
  · intro framework further application site query created
    have writer := Application.writer_of_create created
    obtain ⟨_, rfl⟩ := Application.create_eq_ok_iff.mp created
    have found :=
      Application.find_healthRequest framework further site query
    rw [← writer]
    constructor
    · intro sendable
      exact Application.exists_response_of_answered sendable found
        (.sent (.success _ _))
    · intro unsendable
      exact Application.unanswered_of_not_sendable _ unsendable found
        (Application.healthRoute_kept _ framework)

/-- The settings where nothing is given. -/
def defaultSettings : Settings :=
  ⟨false, "*", "User-Task-ID", "unknown", "unknown", "INFO", "json"⟩

/-- The settings where nothing is given are served. -/
theorem served_iff_sendable_default :
    Settings.construct .none = .ok defaultSettings ∧
      Sources.IsSendable .none ∧
      Application.create .plain defaultSettings [] =
        .ok (Application.plainService defaultSettings) ∧
      ∃ response,
        ((Application.plainService defaultSettings).handle
          (Application.healthRequest "http://localhost" [])).response =
            some response ∧
        response.status = 200 := by
  have accepted : Settings.construct .none = .ok defaultSettings := by
    decide +kernel
  have sendable : Sources.IsSendable .none := by
    unfold Sources.IsSendable
    decide +kernel
  obtain ⟨_, _, _, seen, _, health⟩ := served_iff_sendable defaultSettings
  obtain ⟨response, sent, carries⟩ :=
    (health .plain [] _ "http://localhost" [] rfl).1
      ((seen .none accepted).mpr sendable)
  exact ⟨accepted, sendable, rfl, response, sent, carries.status_eq⟩

/-- A version with a dash that is not Latin-1. -/
def dashSources : Sources :=
  ⟨[("service_version", .text "2.0 \u2013 beta")], [], []⟩

/-- The settings with this version. -/
def dashSettings : Settings :=
  ⟨false, "*", "User-Task-ID", "2.0 \u2013 beta", "unknown", "INFO", "json"⟩

/-- These settings are accepted, and nothing can be served with them: the plain
success cannot be sent, and a request for the health has no answer. -/
theorem unserved_dash :
    Settings.construct dashSources = .ok dashSettings ∧
      Application.create .plain dashSettings [] =
        .ok (Application.plainService dashSettings) ∧
      (∃ stretch,
        (ResponseWriter.writeSuccess
            ⟨dashSettings.corsPolicy, dashSettings.serviceIdentity⟩
            ResponseBuffer.sink .empty 200 ⟨false, false⟩
            "Cruise Control is running.").delivery.state.toResponse =
          .error (.unencodable stretch)) ∧
      ((Application.plainService dashSettings).handle
        (Application.healthRequest "http://localhost" [])).response =
          none := by
  have accepted : Settings.construct dashSources = .ok dashSettings := by
    decide +kernel
  have unsendable :
      ¬(Application.plainService dashSettings).writer.IsSendable := by
    refine mt (Settings.isSendable_iff dashSettings).mp ?_
    decide +kernel
  have found : Route.find (Application.plainService dashSettings).routes
      (Application.healthRequest "http://localhost" []) =
        .found Application.healthRoute :=
    Application.find_healthRequest .plain [] "http://localhost" []
  exact ⟨accepted, rfl,
    (ResponseWriter.Reports.success ..).unencodable unsendable,
    Application.unanswered_of_not_sendable _ unsendable found
      (Application.healthRoute_kept _ .plain)⟩

end ResponseService
