import ResponseService.Fault.Chain
import ResponseService.Json.Printer
import ResponseService.Schema.Walk

/-!
# The description of a body

A body that is JSON is described by the schema of its document, written on one
line in ASCII so that it can be sent as a header (`describe`).  A body that is
not JSON, or whose containers stand too deep in one another, has no schema;
the error says so and is raised from the reason.  An integer of too many
digits is a failure of its own.
-/

namespace ResponseService

/-- The schema error that stands for a reason. -/
def Fault.ofSchemaProblem (error : ServiceError) (reason : Condition) : Fault :=
  .causedBy (.service error) (.ofCondition reason)

/-- Why a text has no document, as a fault. -/
def Fault.ofReadError (text : Text) : Json.ReadError → Fault
  | .malformed problem position =>
      .ofSchemaProblem (.schemaInference problem.message (some position))
        (.malformed (Json.SyntaxError.ofText text problem position))
  | .tooDeep bracket =>
      .ofSchemaProblem .nestedTooDeeply (.nestedText bracket)
  | .oversized digits => .ofCondition (.oversized digits)

/-- The document of a text. -/
def Json.parse (text : Text) : Except Fault Json :=
  match Json.read text with
  | .ok document => .ok document
  | .error error => .error (Fault.ofReadError text error)

/-- Why a value has no schema, as a fault. -/
def Fault.ofInferenceError {Foreign : Type} (kind : Foreign → Text) :
    WalkError Foreign → Fault
  | .foreign value => .ofCondition (.notDocument (kind value))
  | .tooDeep => .ofSchemaProblem .nestedTooDeeply .nestedValue

/-- The schema of a document. -/
def Json.schema (document : Json) : Except Fault Schema :=
  document.infer.mapError (Fault.ofInferenceError nofun)

/-- The schema of a value. -/
def Datum.schema (value : Datum) : Except Fault Schema :=
  value.infer.mapError (Fault.ofInferenceError ForeignKind.name)

namespace SchemaNode

variable {Foreign : Type}

/-- The document that describes a schema. -/
def document (kind : Foreign → Text) (node : SchemaNode Foreign) :
    Except Fault Json :=
  match node.toDocument with
  | .ok document => .ok document
  | .error (.foreign value) =>
      .error (.ofCondition (.notSchema (kind value)))
  | .error .tooDeep => .error (.ofCondition .nestedValue)

/-- The text that describes a schema. -/
def render (kind : Foreign → Text) (node : SchemaNode Foreign) :
    Except Fault Text :=
  match node.toDocument with
  | .ok document => .ok (document.print .header)
  | .error (.foreign value) =>
      .error (.ofCondition (.notSchema (kind value)))
  | .error .tooDeep =>
      .error (.ofSchemaProblem .nestedTooDeeply .nestedValue)

end SchemaNode

/-- The text that describes a schema. -/
def Schema.text (schema : Schema) : Except Fault Text :=
  SchemaNode.render nofun schema

/-- The schema of a body, in the form in which it is sent. -/
def describe (body : Text) : Except Fault Text :=
  match Json.parse body with
  | .error fault => .error fault
  | .ok document =>
      match document.schema with
      | .error fault => .error fault
      | .ok schema => schema.text

end ResponseService
