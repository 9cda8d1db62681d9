import ResponseService.Response.Buffer
import ResponseService.Settings.Basic
import ResponseService.Web.Framework

/-!
# The application

The application answers a request with the outcome of its route's endpoint.
An endpoint that fails is answered as well: an error of the service with its
own status, a request with unusable parameters with status 400, and any other
failure with status 500.  The last kind of failure is passed on after it has
been answered.  All these answers are made by the response writer, in the
format that the request asks for.

An answer to a failure may fail in its turn.  The failure of an answer of the
first two kinds is answered like any other failure; that of the last kind is
passed on, and then there is no answer.

The framework answers its own errors, and serves the pages that document the
service.  A request without a route is answered with a short document that
tells why, or with the address of a route that differs from it in a slash at
the end.
-/

namespace ResponseService

/-- A service with the framework that it is built on, its settings and its
routes. -/
structure Application where
  framework : Framework
  settings : Settings
  routes : List Route

/-- What became of a request. -/
structure Exchange where
  /-- The answer, if there was one. -/
  response : Option Response
  /-- What the handlers of failures have logged. -/
  records : List Logging.Record
  /-- The failure that was passed on. -/
  passedOn : Option Fault
  /-- The fault that the body tells of. -/
  told : Option Fault

namespace Exchange

/-- Nothing went wrong. -/
def plain (response : Response) : Exchange := ⟨some response, [], none, none⟩

/-- A fault is passed on without an answer. -/
def unanswered (records : List Logging.Record) (fault : Fault) : Exchange :=
  ⟨none, records, some fault, none⟩

end Exchange

namespace Application

open Logging

/-- The status of requests with unusable parameters. -/
def invalidStatus : Int := 400

/-- The status of failures without a status of their own. -/
def failureStatus : Int := 500

/-- The name of the logger of the handlers of failures. -/
def loggerName : Text := "cruise_response.api.error_handlers"

/-- What the service says of its health. -/
def healthyMessage : Text := "Cruise Control is running."

/-- The route by which the service tells that it is there. -/
def healthRoute : Route where
  pattern := .exactly "/kafkacruisecontrol/health"
  methods := ["GET"]
  endpoint _ := .success ResponseWriter.successStatus healthyMessage

/-- The paths of the pages that document the service. -/
def pagePaths : List Text :=
  ["/openapi.json", "/docs", "/docs/oauth2-redirect", "/redoc"]

/-- The routes of the pages that document the service. -/
def pageRoutes (framework : Framework) : List Route :=
  pagePaths.map fun path =>
    ⟨.exactly path, ["GET", "HEAD"], fun request =>
      .page (framework.page request)⟩

/-- A service cannot do without a version. -/
def create (framework : Framework) (settings : Settings)
    (further : List Route) : Except Condition Application :=
  if settings.serviceVersion.isEmpty then .error .missingVersion
  else
    .ok ⟨framework, settings, pageRoutes framework ++ healthRoute :: further⟩

/-- The writer of all answers. -/
def writer (application : Application) : ResponseWriter :=
  ⟨application.settings.corsPolicy, application.settings.serviceIdentity⟩

/-- The response that a report leaves in a buffer. -/
def responseOf (report : WriteReport ResponseBuffer) : Except Fault Response :=
  match report.fault with
  | some fault => .error fault
  | none => report.delivery.state.toResponse.mapError Fault.ofCondition

/-- The response of a report, or the fault of the service for which there is
none, with the places it came through. -/
def delivered
    (application : Application)
    (request : Request)
    (report : WriteReport ResponseBuffer) :
    Except Fault Response :=
  (responseOf report).mapError (Fault.along (application.framework.way request))

/-- The response that reports an error. -/
def errorResponse
    (application : Application)
    (request : Request)
    (status : Int)
    (fault : Option Fault)
    (message : Option Text) :
    Except Fault Response :=
  application.delivered request
    (application.writer.writeError ResponseBuffer.sink .empty status
      (ResponseFormat.ofQuery request.query) fault message)

/-- The fault with which an endpoint ends.  One that only means that nothing
more is to come is a fault of the endpoint. -/
def ended
    (application : Application)
    (request : Request)
    (fault : Fault) :
    Fault :=
  if fault.condition.kind = .exhaustion then
    { Fault.causedBy .exhausted fault with
      way := some (application.framework.way request .exhausted) }
  else fault

/-- The response of an outcome, and the fault that its body tells of. -/
def respond
    (application : Application)
    (request : Request) :
    Outcome → Except Fault (Response × Option Fault)
  | .success status message =>
      (application.delivered request
        (application.writer.writeSuccess ResponseBuffer.sink .empty status
          (ResponseFormat.ofQuery request.query) message)).map (·, none)
  | .error status fault message =>
      (application.errorResponse request status fault message).map (·, fault)
  | .body status body =>
      (application.delivered request
        (application.writer.write ResponseBuffer.sink .empty status
          (ResponseFormat.ofQuery request.query) body)).map (·, none)
  | .page response => .ok (response, none)
  | .failure fault => .error (application.ended request fault)

/-- What is logged of an error of the service. -/
def serviceRecord (path : Text) (error : ServiceError) : Record :=
  .plain Level.error loggerName ("ResponseCoreError: " ++ error.message)
    [(Record.errorCode, .text error.code), (Record.path, .text path)]

/-- What is logged of a request with unusable parameters, given in words. -/
def invalidRecord (path listing : Text) : Record :=
  .plain Level.warning loggerName
    ("Validation error on " ++ path ++ ": " ++ listing) []

/-- What is logged of any other failure, given in words. -/
def failureRecord (path : Text) (fault : Fault) (words : Text) : Record :=
  ⟨Level.error, loggerName,
    "Unhandled exception on " ++ path ++ ": " ++ words, [], some fault⟩

/-- What the client is told of any other failure, given in words. -/
def failureMessage (method path words : Text) : Text :=
  "Error processing " ++ method ++ " request '" ++ path ++ "' due to: '" ++
    words ++ "'."

/-- The fault of an attempt to answer another one. -/
def secondFault
    (application : Application)
    (request : Request)
    (fault : Fault)
    (condition : Condition) :
    Fault :=
  ((Fault.ofCondition condition).along
    (application.framework.way request)).amid fault

/-- Answer a failure that has no answer of its own, and pass it on; there is no
answer if the failure cannot be put into words. -/
def answerFailure
    (application : Application)
    (request : Request)
    (path : Text)
    (earlier : List Record)
    (fault : Fault) :
    Exchange :=
  match fault.message with
  | .error mishap =>
      .unanswered earlier
        (application.secondFault request fault (.ofMishap mishap))
  | .ok words =>
      let records := earlier ++ [failureRecord path fault words]
      match application.errorResponse request failureStatus (some fault)
          (some (failureMessage request.method path words)) with
      | .ok response => ⟨some response, records, some fault, some fault⟩
      | .error second => .unanswered records (second.amid fault)

/-- Answer a fault that has an answer of its own.  If there are no words for
its record or its answer, or the answer cannot be made, that is a failure which
is answered instead. -/
def answerKnown
    (application : Application)
    (request : Request)
    (path : Text)
    (record : Except Mishap Record)
    (status : Int)
    (fault : Fault)
    (message : Except Mishap Text) :
    Exchange :=
  match record with
  | .error mishap =>
      application.answerFailure request path []
        (application.secondFault request fault (.ofMishap mishap))
  | .ok record =>
      match message with
      | .error mishap =>
          application.answerFailure request path [record]
            (application.secondFault request fault (.ofMishap mishap))
      | .ok message =>
          match application.errorResponse request status (some fault)
              (some message) with
          | .ok response => ⟨some response, [record], none, some fault⟩
          | .error second =>
              application.answerFailure request path [record]
                (second.amid fault)

/-- Answer a failure of a request whose path can be shown. -/
def answerAt
    (application : Application)
    (request : Request)
    (path : Text)
    (fault : Fault) :
    Exchange :=
  match fault.condition with
  | .service error =>
      application.answerKnown request path (.ok (serviceRecord path error))
        error.status fault error.errorMessage
  | .invalidRequest invalid =>
      application.answerKnown request path
        (invalid.listing.map (invalidRecord path)) invalidStatus fault
        (ParameterIssue.summary invalid.issues)
  | _ => application.answerFailure request path [] fault

/-- Answer a fault.  An order to end the program is passed on at once, and so is
the failure to find the path, which every answer to a failure needs.  The
framework's own errors are left to it. -/
def answerFault
    (application : Application)
    (request : Request)
    (fault : Fault) :
    Exchange :=
  if fault.condition.kind = .order then .unanswered [] fault
  else
    match fault.condition with
    | .http error => .plain (application.framework.refusal error)
    | _ =>
        match application.framework.shownPath request with
        | .ok path => application.answerAt request path fault
        | .error condition =>
            .unanswered [] (application.secondFault request fault condition)

/-- Tell the client to ask for another path. -/
def redirect (request : Request) (path : Text) : Exchange :=
  match request.address path with
  | .ok address =>
      .plain
        ⟨307,
          [(ResponseBuffer.lengthName, "0"),
            ("location", Query.quoteAddress address)],
          []⟩
  | .error condition => .unanswered [] (.ofCondition condition)

/-- Answer a request. -/
def handle (application : Application) (request : Request) : Exchange :=
  match Route.find application.routes request with
  | .found route =>
      match application.respond request (route.endpoint request) with
      | .ok (response, told) => ⟨some response, [], none, told⟩
      | .error fault => application.answerFault request fault
  | .notAllowed methods =>
      Exchange.plain
        (Framework.detailResponse 405 (.text "Method Not Allowed")
          [("allow", Text.intercalate ", " methods)])
  | .elsewhere path => redirect request path
  | .unknown =>
      Exchange.plain (Framework.detailResponse 404 (.text "Not Found") [])

end Application

end ResponseService
