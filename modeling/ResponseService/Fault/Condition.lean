import ResponseService.Fault.ServiceError
import ResponseService.Fault.SystemFault
import ResponseService.Json.SyntaxError
import ResponseService.Json.Reader

/-!
# Everything that can go wrong

A condition is the reason for which an operation is given up.  Each has a
class, whose name stands in traces and logs, and a message, unless something
keeps it from being put into words.
-/

namespace ResponseService

/-- A parameter of a request that cannot be used, as the framework lists it. -/
structure ParameterIssue where
  /-- The way to the parameter. -/
  place : List Json
  problem : Text

namespace ParameterIssue

/-- The way to the parameter and what is wrong with it. -/
def message (issue : ParameterIssue) : Except Mishap Text := do
  let steps ← issue.place.mapM Json.told
  return Text.intercalate "." steps ++ ": " ++ issue.problem

/-- All issues of a request, on one line. -/
def summary (issues : List ParameterIssue) : Except Mishap Text :=
  (issues.mapM message).map (Text.intercalate "; ")

end ParameterIssue

/-- A request of which some parameters cannot be used.  How the framework puts
that into words is its own affair, so its words are data. -/
structure InvalidRequest where
  issues : List ParameterIssue
  /-- The request in the words of a trace. -/
  words : Except Mishap Text
  /-- All that is wrong, as it is logged. -/
  listing : Except Mishap Text

/-- An error that the framework answers itself. -/
structure HttpError where
  /-- Where its class is found. -/
  origin : Text
  status : Int
  detail : Json
  /-- Header fields for the answer. -/
  headers : List (Text × Text)

/-- What is wrong with the name of a log level. -/
inductive LevelProblem where
  /-- The name stands for a text that names no level. -/
  | unknown (text : Text)
  /-- The name stands for something that is neither a number nor a name. -/
  | unsuitable (description : Text)
  deriving DecidableEq, Repr

/-- The reasons for giving up. -/
inductive Condition where
  /-- An error that is an answer to the client. -/
  | service (error : ServiceError)
  /-- A text is no JSON. -/
  | malformed (error : Json.SyntaxError)
  /-- Too many containers stand inside one another in a text. -/
  | nestedText (bracket : Json.Bracket)
  /-- Too many containers stand inside one another in a value. -/
  | nestedValue
  /-- An integer in a text has too many digits. -/
  | oversized (digits : Nat)
  /-- A value of this kind is no document. -/
  | notDocument (kind : Text)
  /-- A value of this kind is no schema. -/
  | notSchema (kind : Text)
  /-- A header holds something that has no octet in Latin-1. -/
  | unencodable (stretch : Latin1.Unencodable)
  /-- A query is not UTF-8. -/
  | undecodable (stretch : Utf8.Undecodable)
  /-- A response is asked for before it has been written. -/
  | notWritten
  /-- The parameters of a request cannot be used. -/
  | invalidRequest (request : InvalidRequest)
  /-- An error that the framework answers itself. -/
  | http (error : HttpError)
  /-- The service has no version. -/
  | missingVersion
  /-- Log records cannot be filtered by a level of this name. -/
  | level (problem : LevelProblem)
  /-- A value that never changes was to be changed. -/
  | fixedField (field : Text)
  /-- An endpoint ended as if it had nothing more to yield. -/
  | exhausted
  /-- A fault of the system. -/
  | system (fault : SystemFault)

namespace Condition

/-- The name of a condition's class. -/
def name : Condition → Text
  | .service error => error.name
  | .malformed _ => "JSONDecodeError"
  | .nestedText _ | .nestedValue => "RecursionError"
  | .oversized _ => "ValueError"
  | .notDocument _ | .notSchema _ => "TypeError"
  | .unencodable _ => "UnicodeEncodeError"
  | .undecodable _ => "UnicodeDecodeError"
  | .notWritten | .exhausted => "RuntimeError"
  | .invalidRequest _ => "RequestValidationError"
  | .http _ => "HTTPException"
  | .missingVersion => "AssertionError"
  | .level (.unknown _) => "ValueError"
  | .level (.unsuitable _) => "TypeError"
  | .fixedField _ => "FrozenInstanceError"
  | .system fault => fault.name

/-- Where a class that is not built in is found. -/
def origin : Condition → Text
  | .service error => error.origin
  | .malformed _ => "json.decoder."
  | .invalidRequest _ => "fastapi.exceptions."
  | .http error => error.origin
  | .fixedField _ => "dataclasses."
  | .system fault => fault.faultClass.origin
  | _ => []

/-- The name of a condition's class as it stands in traces. -/
def qualifiedName (condition : Condition) : Text :=
  condition.origin ++ condition.name

/-- The word for a container. -/
def bracketName : Json.Bracket → Text
  | .array => "array"
  | .object => "object"

/-- A condition in words. -/
def message : Condition → Except Mishap Text
  | .service error => error.words
  | .malformed error => .ok error.message
  | .nestedText bracket =>
      .ok ("maximum recursion depth exceeded while decoding a JSON " ++
        bracketName bracket ++ " from a unicode string")
  | .nestedValue => .ok "maximum recursion depth exceeded"
  | .oversized digits =>
      .ok ("Exceeds the limit (4300 digits) for integer string conversion: " ++
        "value has " ++ Decimal.ofNat digits ++ " digits; " ++
        "use sys.set_int_max_str_digits() to increase the limit")
  | .notDocument kind => .ok ("Not a JSON value: " ++ kind)
  | .notSchema kind => .ok ("Not a schema node: " ++ kind)
  | .unencodable stretch => .ok (Coding.latin1Message stretch)
  | .undecodable stretch => .ok (Coding.utf8Message stretch)
  | .notWritten => .ok "Response has not been written"
  | .invalidRequest request => request.words
  | .http error =>
      error.detail.told.map (Decimal.ofInt error.status ++ ": " ++ ·)
  | .missingVersion =>
      .ok "A version must be provided for OpenAPI, e.g.: '2.1.0'"
  | .level (.unknown text) => .ok ("Unknown level: " ++ text.quoted)
  | .level (.unsuitable description) =>
      .ok ("Level not an integer or a valid string: " ++ description)
  | .fixedField field => .ok ("cannot assign to field " ++ field.quoted)
  | .exhausted => .ok "coroutine raised StopIteration"
  | .system fault => fault.message

/-- What a trace says of a message that cannot be given. -/
def wordless : Text := "<exception str() failed>"

/-- The class of a condition and its message, if it has one. -/
def inBrief (condition : Condition) : Text :=
  match condition.message with
  | .error _ => condition.qualifiedName ++ ": " ++ wordless
  | .ok [] => condition.qualifiedName
  | .ok message => condition.qualifiedName ++ ": " ++ message

/-- What a trace tells of a condition alone, but for the last line end. -/
def account (condition : Condition) : Except Mishap Text :=
  match condition with
  | .system fault =>
      match fault.faultClass.wording with
      | .source =>
          (SourceFault.ofReport fault.report).account condition.qualifiedName
      | .ownPlace _ _ account => account
      | _ => .ok condition.inBrief
  | _ => .ok condition.inBrief

/-- What keeps a condition from being taken down for a trace. -/
def hindrance? : Condition → Option Mishap
  | .system fault =>
      match fault.faultClass.wording with
      | .source => (SourceFault.ofReport fault.report).hindrance?
      | .ownPlace _ hindrance _ => hindrance
      | _ => none
  | _ => none

/-- What a condition means for the work that it ends. -/
def kind : Condition → FaultKind
  | .system fault => fault.faultClass.kind
  | _ => .failure

/-- A mishap as a condition. -/
def ofMishap (mishap : Mishap) : Condition :=
  .system ⟨.ofMishap mishap, []⟩

end Condition

end ResponseService
