import ResponseService.Number.Shortest

/-!
# Document values

A value is null, a boolean, a number, a text, an array or an object, or
something that is none of these.  What may stand in the last place is a
parameter: documents read from text have nothing there (`Json`), values that
callers hand in may have a value of another kind (`Datum`).

Integers are exact and are kept apart from doubles.  The members of an object
are listed in order.
-/

namespace ResponseService

/-- A tree of document values with leaves of a further type. -/
inductive Value (Foreign : Type) where
  | null
  | boolean (value : Bool)
  | integer (value : Int)
  | float (value : Double)
  | text (value : Text)
  | array (items : List (Value Foreign))
  | object (members : List (Text × Value Foreign))
  | foreign (value : Foreign)
  deriving Inhabited

/-- A document: a value with nothing foreign in it. -/
abbrev Json := Value Empty

/-- Kinds of values that no document can hold. -/
inductive ForeignKind where
  | set
  | tuple
  | bytes
  | complex
  | object
  deriving DecidableEq, Repr

namespace ForeignKind

/-- The name of the kind. -/
def name : ForeignKind → Text
  | .set => "set"
  | .tuple => "tuple"
  | .bytes => "bytes"
  | .complex => "complex"
  | .object => "object"

end ForeignKind

/-- Anything a caller may hand in where a document is expected. -/
abbrev Datum := Value ForeignKind

namespace Value

/-- The number that a value counts as: an integer counts as itself, a truth
value as one or zero. -/
def count? {Foreign : Type} : Value Foreign → Option Int
  | .integer value => some value
  | .boolean true => some 1
  | .boolean false => some 0
  | _ => none

/-- The value says nothing: it is null, false, zero or empty. -/
def isVoid {Foreign : Type} : Value Foreign → Bool
  | .null => true
  | .boolean value => !value
  | .integer value => decide (value = 0)
  | .float (.finite _ significand _) => decide (significand = 0)
  | .text value => value.isEmpty
  | .array items => items.isEmpty
  | .object members => members.isEmpty
  | _ => false

/-- The name of a value's kind, given the names of the foreign ones. -/
def kindName {Foreign : Type} (foreignName : Foreign → Text) :
    Value Foreign → Text
  | .null => "NoneType"
  | .boolean _ => "bool"
  | .integer _ => "int"
  | .float _ => "float"
  | .text _ => "str"
  | .array _ => "list"
  | .object _ => "dict"
  | .foreign value => foreignName value

mutual

/-- The number of containers inside one another on the longest way down. -/
def depth {Foreign : Type} : Value Foreign → Nat
  | .array items => depthOfItems items + 1
  | .object members => depthOfMembers members + 1
  | _ => 0

/-- The greatest depth among the items of an array. -/
def depthOfItems {Foreign : Type} : List (Value Foreign) → Nat
  | [] => 0
  | item :: rest => max item.depth (depthOfItems rest)

/-- The greatest depth among the values of an object. -/
def depthOfMembers {Foreign : Type} : List (Text × Value Foreign) → Nat
  | [] => 0
  | (_, value) :: rest => max value.depth (depthOfMembers rest)

end

end Value

end ResponseService
