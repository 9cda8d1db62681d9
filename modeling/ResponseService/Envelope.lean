import ResponseService.Fault.Chain
import ResponseService.Json.Printer

/-!
# Envelopes

A JSON body is an envelope: an object that begins with the version of the
format.  A success has a message.  An error has the trace of the fault, which
is empty if there is none, and the error message if there is one.  A body that
is not JSON is the bare message.

A fault of which there is no trace has no envelope.
-/

namespace ResponseService.Envelope

/-- The version of the format. -/
def formatVersion : Int := 1

/-- The name of the version. -/
def versionName : Text := "version"

/-- The name of the message of a success. -/
def messageName : Text := "message"

/-- The name of the trace of an error. -/
def stackTraceName : Text := "stackTrace"

/-- The name of the message of an error. -/
def errorMessageName : Text := "errorMessage"

/-- The document of a success. -/
def success (message : Text) : Json :=
  .object [(versionName, .integer formatVersion), (messageName, .text message)]

/-- The member that holds an error message, if there is one. -/
def errorMessageMember : Option Text → List (Text × Json)
  | none => []
  | some message => [(errorMessageName, .text message)]

/-- The document of an error. -/
def error (trace : Text) (errorMessage : Option Text) : Json :=
  .object
    ((versionName, .integer formatVersion) :: (stackTraceName, .text trace) ::
      errorMessageMember errorMessage)

/-- The text of a success. -/
def successText (message : Text) : Text := (success message).print .compact

/-- The text of an error with a given trace. -/
def tracedText (trace : Text) (errorMessage : Option Text) : Text :=
  (error trace errorMessage).print .compact

/-- The text of an error, or why its fault has no trace. -/
def errorText (fault : Option Fault) (errorMessage : Option Text) :
    Except Mishap Text :=
  (Fault.traceOf fault).map (tracedText · errorMessage)

/-- The body of a success. -/
def successBody (isJson : Bool) (message : Text) : Text :=
  if isJson then successText message else message

/-- The body of an error, or why it cannot be made. -/
def errorBody
    (isJson : Bool)
    (fault : Option Fault)
    (errorMessage : Option Text) :
    Except Mishap Text :=
  if isJson then errorText fault errorMessage else .ok (errorMessage.getD [])

end ResponseService.Envelope
