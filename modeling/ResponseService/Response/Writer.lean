import ResponseService.Envelope
import ResponseService.Logging.Record
import ResponseService.Response.Emission
import ResponseService.Schema.Description
import ResponseService.Text.Utf8

/-!
# Writing responses

A writer turns a status, a format and a body into the emissions of a response:
the status, the media type, the headers of the policy and of the service, the
schema of a JSON body if it is asked for, the length, the body and the end.
The schema is inferred first, so a body without one is never emitted in part.
The body of an error is made before that, and if it cannot be made nothing is
emitted or logged.

A body is sent in UTF-8; a surrogate, for which UTF-8 has no octets, is sent
as the text of its escape.
-/

namespace ResponseService

/-- How a client wants the body. -/
structure ResponseFormat where
  /-- The body is JSON. -/
  isJson : Bool
  /-- A JSON body comes with its schema. -/
  wantsSchema : Bool
  deriving DecidableEq, Repr

namespace ResponseFormat

/-- A schema is sent. -/
def sendsSchema (format : ResponseFormat) : Bool :=
  format.isJson && format.wantsSchema

end ResponseFormat

/-- The octets of a body. -/
def payload (body : Text) : List UInt8 := Utf8.encode body.escapeSurrogates

/-- What the responses of a service have in common. -/
structure ResponseWriter where
  cors : CorsPolicy
  identity : ServiceIdentity
  deriving DecidableEq

/-- The result of a call: what was delivered, what was logged, and the fault
that ended it early, if one did. -/
structure WriteReport (State : Type) where
  delivery : Delivery State
  records : List Logging.Record
  fault : Option Fault

namespace ResponseWriter

open Logging

/-- The status of a success that names none. -/
def successStatus : Int := 200

/-- The name of the writer's logger. -/
def loggerName : Text := "cruise_response.services.response_writer"

/-- The header that holds a schema, if there is one. -/
def schemaHeader : Option Text → Headers
  | none => []
  | some schema => [(HeaderName.jsonSchema, schema)]

/-- The header fields of a response, in their order. -/
def headers
    (writer : ResponseWriter)
    (format : ResponseFormat)
    (schema : Option Text)
    (length : Nat) :
    Headers :=
  (HeaderName.contentType, (ContentType.forBody format.isJson).value) ::
    (writer.cors.headers ++ writer.identity.headers ++ schemaHeader schema ++
      [(HeaderName.contentLength, Decimal.ofNat length)])

/-- The schema of a body, where it is asked for. -/
def schema? (format : ResponseFormat) (body : Text) :
    Except Fault (Option Text) :=
  if format.sendsSchema then (describe body).map some else .ok none

/-- The emissions of a response whose schema is known. -/
def emissionsWith
    (writer : ResponseWriter)
    (status : Int)
    (format : ResponseFormat)
    (schema : Option Text)
    (octets : List UInt8) :
    List Emission :=
  .status status ::
    ((writer.headers format schema octets.length).map fun field =>
      Emission.header field.1 field.2) ++
    [.body octets, .flush]

/-- The emissions of a response. -/
def emissions
    (writer : ResponseWriter)
    (status : Int)
    (format : ResponseFormat)
    (body : Text) :
    Except Fault (List Emission) :=
  (schema? format body).map fun schema =>
    writer.emissionsWith status format schema (payload body)

/-- What is logged of a response that was written. -/
def writtenRecord (status : Int) (body : Text) : Record :=
  .plain Level.debug loggerName "Response written"
    [(Record.statusCode, .integer status),
      (Record.contentLength, .integer (payload body).length)]

/-- What is logged of an error before it is written. -/
def errorRecord (status : Int) (errorMessage : Option Text) : Record :=
  .plain Level.debug loggerName
    ("Writing error response: " ++ errorMessage.getD "None")
    [(Record.statusCode, .integer status)]

variable {State : Type}

/-- Write a response with a given body. -/
def write
    (writer : ResponseWriter)
    (sink : Sink State)
    (state : State)
    (status : Int)
    (format : ResponseFormat)
    (body : Text) :
    WriteReport State :=
  match writer.emissions status format body with
  | .error fault => ⟨.nothing state, [], some fault⟩
  | .ok emissions =>
      let delivery := sink.deliver state emissions
      match delivery.refused with
      | some (_, fault) => ⟨delivery, [], some fault⟩
      | none => ⟨delivery, [writtenRecord status body], none⟩

/-- Write a success. -/
def writeSuccess
    (writer : ResponseWriter)
    (sink : Sink State)
    (state : State)
    (status : Int)
    (format : ResponseFormat)
    (message : Text) :
    WriteReport State :=
  writer.write sink state status format
    (Envelope.successBody format.isJson message)

/-- Write an error. -/
def writeError
    (writer : ResponseWriter)
    (sink : Sink State)
    (state : State)
    (status : Int)
    (format : ResponseFormat)
    (fault : Option Fault)
    (errorMessage : Option Text) :
    WriteReport State :=
  match Envelope.errorBody format.isJson fault errorMessage with
  | .error mishap => ⟨.nothing state, [], some (.ofMishap mishap)⟩
  | .ok body =>
      let report := writer.write sink state status format body
      { report with
        records := errorRecord status errorMessage :: report.records }

end ResponseWriter

end ResponseService
