import ResponseService.Json.Value

/-!
# Schemas

A schema describes the shape of a document: the type of a scalar, the schema
of the first item of an array (none if the array is empty), and the schemas of
an object's members in their order.

A schema that callers hand in may have things in it that are no schemas; what
they may be is a parameter, and a `Schema` has none.
-/

namespace ResponseService

/-- The types that a schema names. -/
inductive SchemaType where
  | object
  | array
  | boolean
  | number
  | string
  | null
  deriving DecidableEq, Repr

namespace SchemaType

/-- All types, in their usual order. -/
def all : List SchemaType := [.object, .array, .boolean, .number, .string, .null]

/-- The name of a type. -/
def name : SchemaType → Text
  | .object => "object"
  | .array => "array"
  | .boolean => "boolean"
  | .number => "number"
  | .string => "string"
  | .null => "null"

/-- The type of a name. -/
def ofName? (name : Text) : Option SchemaType :=
  all.find? fun type => type.name = name

end SchemaType

/-- A tree of schemas with leaves of a further type. -/
inductive SchemaNode (Foreign : Type) where
  /-- A scalar of some type. -/
  | primitive (type : SchemaType)
  /-- An array, described by its first item. -/
  | array (items : Option (SchemaNode Foreign))
  /-- An object, described by its members. -/
  | object (properties : List (Text × SchemaNode Foreign))
  /-- Something that is no schema. -/
  | foreign (value : Foreign)
  deriving Inhabited

/-- The description of a document's shape. -/
abbrev Schema := SchemaNode Empty

namespace SchemaNode

/-- An array whose items are given by any value: null means that there are
none. -/
def arrayOf (items : SchemaNode Datum) : SchemaNode Datum :=
  match items with
  | .foreign .null => .array none
  | items => .array (some items)

end SchemaNode

end ResponseService
