import ResponseService.Fault.Mishap

/-!
# Errors of the service

A service error is an answer to the client: it has a message, a code, a
category, a severity, the status the answer is sent with and what the client
is told.  Its kind says what went wrong and keeps what is known about that
alone.
-/

namespace ResponseService

/-- How serious an error is. -/
inductive Severity where
  | info
  | warning
  | error
  | critical
  deriving DecidableEq, Repr

namespace Severity

/-- All severities, the mildest first. -/
def all : List Severity := [.info, .warning, .error, .critical]

/-- The name of a severity. -/
def name : Severity → Text
  | .info => "info"
  | .warning => "warning"
  | .error => "error"
  | .critical => "critical"

/-- The severity of a name. -/
def ofName? (name : Text) : Option Severity :=
  all.find? fun severity => severity.name = name

end Severity

/-- Who has to act on an error. -/
inductive Category where
  | userRequest
  | resourceNotFound
  | schemaInference
  | internal
  deriving DecidableEq, Repr

namespace Category

/-- All categories. -/
def all : List Category :=
  [.userRequest, .resourceNotFound, .schemaInference, .internal]

/-- The name of a category. -/
def name : Category → Text
  | .userRequest => "user_request"
  | .resourceNotFound => "resource_not_found"
  | .schemaInference => "schema_inference"
  | .internal => "internal"

/-- The category of a name. -/
def ofName? (name : Text) : Option Category :=
  all.find? fun category => category.name = name

end Category

namespace ServiceError

/-- The kinds of service errors. -/
inductive Kind where
  /-- An error that is no more than its description. -/
  | general
  /-- The request cannot be met as it stands. -/
  | userRequest
  /-- Something that was asked for does not exist. -/
  | resourceNotFound (resourceType resourceId : Json)
  /-- A body has no schema; the position of the problem, if it has one. -/
  | schemaInference (position : Option Int)
  /-- An error of a class of its own, with the place where the class is found
  and the words that it has for itself. -/
  | particular (name origin : Text) (words : Except Mishap Text)

end ServiceError

/-- An error together with the answer it stands for. -/
structure ServiceError where
  kind : ServiceError.Kind
  message : Text
  code : Text
  category : Category
  severity : Severity
  /-- The status of the answer. -/
  status : Int
  /-- What the client is told, which is the message unless a class of its own
  tells something else. -/
  errorMessage : Except Mishap Text

namespace ServiceError

/-- The status of an error that names none. -/
def defaultStatus : Int := 500

/-- The status of a refused request that names none. -/
def defaultRequestStatus : Int := 400

/-- An error that is described in full. -/
def general
    (message code : Text)
    (category : Category)
    (severity : Severity)
    (status : Int) :
    ServiceError :=
  ⟨.general, message, code, category, severity, status, .ok message⟩

/-- A request that is refused. -/
def userRequest (message : Text) (status : Int) : ServiceError :=
  { general message "USER_REQUEST_ERROR" .userRequest .error status with
    kind := .userRequest }

/-- A resource that does not exist. -/
def resourceNotFound (resourceType resourceId : Json) : ServiceError :=
  { general (resourceType.shown ++ " '" ++ resourceId.shown ++ "' not found")
      "RESOURCE_NOT_FOUND" .resourceNotFound .error 404 with
    kind := .resourceNotFound resourceType resourceId }

/-- A body that has no schema. -/
def schemaInference (problem : Text) (position : Option Int) :
    ServiceError :=
  { general ("Cannot infer JSON schema: " ++ problem)
      "SCHEMA_INFERENCE_FAILED" .schemaInference .critical 500 with
    kind := .schemaInference position }

/-- The problem of a body whose containers stand too deep in one another. -/
def nestedTooDeeply : ServiceError :=
  schemaInference "document is nested too deeply" none

/-- The name of an error's class. -/
def name (error : ServiceError) : Text :=
  match error.kind with
  | .general => "ResponseCoreError"
  | .userRequest => "UserRequestError"
  | .resourceNotFound _ _ => "ResourceNotFoundError"
  | .schemaInference _ => "SchemaInferenceError"
  | .particular name _ _ => name

/-- Where the class of an error is found. -/
def origin (error : ServiceError) : Text :=
  match error.kind with
  | .particular _ origin _ => origin
  | _ => "cruise_response.core.errors."

/-- An error in words. -/
def words (error : ServiceError) : Except Mishap Text :=
  match error.kind with
  | .particular _ _ words => words
  | _ => .ok error.message

end ServiceError

end ResponseService
