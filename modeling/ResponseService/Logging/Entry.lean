import ResponseService.Logging.Record
import ResponseService.Logging.Template

/-!
# Log entries

An entry is what is filed with a logger: a level, a template with arguments,
fields and a fault.  Its record has the message that the template and the
arguments make (`Entry.record`).

The names of a record's own parts are reserved.  A logger refuses an entry
with a field of such a name (`Entry.clash?`); where a record is made without a
logger, the field takes the place of the part.
-/

namespace ResponseService.Logging

/-- What is filed with a logger. -/
structure Entry where
  level : Int
  logger : Text
  template : Json
  arguments : List Json
  fields : List (Text × Json)
  fault : Option Fault

namespace Entry

/-- The names of a record's own parts. -/
def reserved : List Text :=
  ["name", "msg", "args", "levelname", "levelno", "pathname", "filename",
    "module", "exc_info", "exc_text", "stack_info", "lineno", "funcName",
    "created", "msecs", "relativeCreated", "thread", "threadName",
    "processName", "process", "message", "asctime"]

/-- The first field that a logger refuses. -/
def clash? (entry : Entry) : Option Text :=
  (Ordered.names (Ordered.ofList entry.fields)).find? reserved.contains

/-- The fault of filing an entry with a field that is refused. -/
def clashFault (name : Text) : Condition :=
  .system
    (.builtIn "KeyError"
      [.text ("Attempt to overwrite " ++ name.quoted ++ " in LogRecord")])

/-- The field of a name. -/
def field? (entry : Entry) (name : Text) : Option Json :=
  Ordered.lookup (Ordered.ofList entry.fields) name

/-- The arguments of the template. -/
def values (entry : Entry) : List Json :=
  match entry.field? "args" with
  | none => entry.arguments
  | some value => if value.isVoid then [] else [value]

/-- The fault that is told of. -/
def told (entry : Entry) : Option Fault :=
  match entry.field? "exc_info" with
  | none => entry.fault
  | some value => if value.isVoid then none else entry.fault

/-- The message of an entry. -/
def message (entry : Entry) : Except TemplateError Text :=
  compose ((entry.field? "msg").getD entry.template).shown entry.values

/-- The record of an entry. -/
def record (entry : Entry) : Except TemplateError Record :=
  entry.message.map fun message =>
    ⟨entry.level, entry.logger, message, entry.fields, entry.told⟩

end Entry

end ResponseService.Logging
