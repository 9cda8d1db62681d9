import ResponseService.Response.Emission
import ResponseService.Text.Case

/-!
# Buffered responses

A buffer is a sink that refuses nothing.  Setting a header again replaces its
value in its first place, and bodies are joined.  Once a buffer has a status
and has been flushed it can be turned into a response: header names are written
in small letters, names and values must be Latin-1, and the length of the body
is added if no header gives it and the status admits a body.

What a response is made of in this way is up to the framework's response class.
It is taken to encode the headers in the order in which they were set, the name
of each before its value, and to fail at the first that has no octets.
-/

namespace ResponseService

/-- What has been emitted so far. -/
structure ResponseBuffer where
  status : Option Int
  headers : Headers
  body : List UInt8
  flushed : Bool
  deriving DecidableEq

/-- A response as it is sent. -/
structure Response where
  status : Int
  headers : Headers
  body : List UInt8
  deriving DecidableEq

namespace ResponseBuffer

/-- Nothing has been emitted. -/
def empty : ResponseBuffer := ⟨none, [], [], false⟩

/-- Add an emission. -/
def add (buffer : ResponseBuffer) : Emission → ResponseBuffer
  | .status status => { buffer with status := some status }
  | .header name value =>
      { buffer with headers := Ordered.set buffer.headers name value }
  | .body octets => { buffer with body := buffer.body ++ octets }
  | .flush => { buffer with flushed := true }

/-- The sink that fills a buffer. -/
def sink : Sink ResponseBuffer where
  take buffer emission := .ok (buffer.add emission)

/-- The name of the length in small letters. -/
def lengthName : Text := "content-length"

/-- A response of this status may have a body. -/
def admitsBody (status : Int) : Bool :=
  decide (200 ≤ status) && decide (status ≠ 204) && decide (status ≠ 304)

/-- A header field as it is sent. -/
def sentHeader (field : Text × Text) :
    Except Latin1.Unencodable (Text × Text) := do
  let name ← Latin1.encode? field.1.lower
  let value ← Latin1.encode? field.2
  return (name, value)

/-- Header fields as they are sent. -/
def sentHeaders : Headers → Except Latin1.Unencodable Headers
  | [] => .ok []
  | field :: rest => do
      let sent ← sentHeader field
      let others ← sentHeaders rest
      return sent :: others

/-- The length of the body, where the status admits a body and no header gives
it. -/
def addedLength (status : Int) (headers : Headers) (body : List UInt8) :
    Headers :=
  if admitsBody status && !(Ordered.names headers).contains lengthName then
    [(lengthName, Decimal.ofNat body.length)]
  else []

/-- The response of a buffer. -/
def toResponse (buffer : ResponseBuffer) : Except Condition Response :=
  match buffer.status, buffer.flushed with
  | some status, true =>
      match sentHeaders buffer.headers with
      | .error stretch => .error (.unencodable stretch)
      | .ok headers =>
          .ok ⟨status, headers ++ addedLength status headers buffer.body,
            buffer.body⟩
  | _, _ => .error .notWritten

end ResponseBuffer

end ResponseService
