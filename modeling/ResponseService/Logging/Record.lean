import ResponseService.Fault.Chain
import ResponseService.Json.Printer
import ResponseService.Logging.Level

/-!
# Log records

A record has a level, the name of the logger it comes from and a message.  It
may have further fields, of which four are part of its line, and a fault.

As a line of JSON a record is an object; as a line of plain text it begins
with the time.  The JSON line has all line ends escaped, so a record is always
one line.  There is no line if the fault of a record has no trace.
-/

namespace ResponseService.Logging

/-- What is logged. -/
structure Record where
  level : Int
  /-- The name of the logger. -/
  logger : Text
  message : Text
  fields : List (Text × Json)
  fault : Option Fault

namespace Record

/-- The name of the field that holds the status of a response. -/
def statusCode : Text := "status_code"

/-- The name of the field that holds the length of a response. -/
def contentLength : Text := "content_length"

/-- The name of the field that holds the code of an error. -/
def errorCode : Text := "error_code"

/-- The name of the field that holds the path of a request. -/
def path : Text := "path"

/-- The fields that are part of a line, in their order. -/
def surfaced : List Text := [statusCode, contentLength, errorCode, path]

/-- A field with a value other than null. -/
def field? (record : Record) (name : Text) : Option (Text × Json) :=
  match Ordered.lookup (Ordered.ofList record.fields) name with
  | none | some .null => none
  | some value => some (name, value)

/-- A text without the end of its last line. -/
def withoutLastEnd (text : Text) : Text :=
  match text.reverse with
  | [] => []
  | last :: rest => if last.value = 0x0A then rest.reverse else text

/-- The trace of a record's fault without the end of its last line, if the
record has a fault. -/
def faultText (record : Record) : Except Mishap (Option Text) :=
  match record.fault with
  | none => .ok none
  | some fault => fault.trace.map fun trace => some (withoutLastEnd trace)

/-- The field that takes the place of the name of the level. -/
def levelName : Text := "levelname"

/-- The field that takes the place of the name of the logger. -/
def loggerName : Text := "name"

/-- The value of a field, or else of the part whose place it takes. -/
def fieldOr (record : Record) (name part : Text) : Json :=
  (Ordered.lookup (Ordered.ofList record.fields) name).getD (.text part)

/-- What every record has. -/
def commonMembers (timestamp : Text) (record : Record) : List (Text × Json) :=
  [("timestamp", .text timestamp),
    ("level", record.fieldOr levelName (Level.name record.level)),
    ("logger", record.fieldOr loggerName record.logger),
    ("message", .text record.message)]

/-- The member that tells of a fault, if there is one. -/
def exceptionMember : Option Text → List (Text × Json)
  | none => []
  | some text => [("exception", .text text)]

/-- A record as an object, with a text that tells of its fault. -/
def document (timestamp : Text) (record : Record) (exception : Option Text) :
    Json :=
  .object
    (record.commonMembers timestamp ++ surfaced.filterMap record.field? ++
      exceptionMember exception)

/-- A record as a line of JSON, with a text that tells of its fault. -/
def lineWith (timestamp : Text) (record : Record) (exception : Option Text) :
    Text :=
  Json.print .line (record.document timestamp exception)

/-- A record as a line of JSON. -/
def jsonLine (timestamp : Text) (record : Record) : Except Mishap Text :=
  record.faultText.map (record.lineWith timestamp)

/-- A message and what tells of a fault, on lines of its own. -/
def withFault (message : Text) : Option Text → Text
  | none => message
  | some told =>
      if message.getLast?.any (·.value = 0x0A) then message ++ told
      else message ++ "\n" ++ told

/-- A record as a line of plain text; a fault follows on lines of its own. -/
def textLine (time : Text) (record : Record) : Except Mishap Text :=
  record.faultText.map fun told =>
    time ++ " " ++ Level.name record.level ++ " " ++ record.logger ++ " - " ++
      withFault record.message told

/-- A record without a fault. -/
def plain
    (level : Int)
    (logger message : Text)
    (fields : List (Text × Json)) :
    Record :=
  ⟨level, logger, message, fields, none⟩

end Record

end ResponseService.Logging
