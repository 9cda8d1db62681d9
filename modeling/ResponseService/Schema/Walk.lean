import ResponseService.Schema.Node

/-!
# Inferring and rendering schemas

`infer` turns a value into its schema and `toDocument` turns a schema into the
document that is sent.  Both go down through containers only: into the first
item of an array and into the members of an object, in order.  Both stop at
the first thing on that way that they have no meaning for, and where
containers stand inside one another more than `walkLimit` deep.

`Inspected` says what the way down is, without regard to either function.
-/

namespace ResponseService

/-- Why a walk down a tree was given up. -/
inductive WalkError (Foreign : Type) where
  /-- Something was met that has no place in such a tree. -/
  | foreign (value : Foreign)
  /-- Too many containers stand inside one another. -/
  | tooDeep
  deriving DecidableEq, Repr

/-- How many containers a walk enters one inside another. -/
def walkLimit : Nat := 490

namespace Value

variable {Foreign : Type}

mutual

/-- The schema of a value, entering at most `limit` containers. -/
def inferWithin (limit : Nat) :
    Value Foreign → Except (WalkError Foreign) Schema
  | .null => .ok (.primitive .null)
  | .boolean _ => .ok (.primitive .boolean)
  | .integer _ => .ok (.primitive .number)
  | .float _ => .ok (.primitive .number)
  | .text _ => .ok (.primitive .string)
  | .foreign value => .error (.foreign value)
  | .array items =>
      match limit with
      | 0 => .error .tooDeep
      | limit + 1 => (inferFirst limit items).map .array
  | .object members =>
      match limit with
      | 0 => .error .tooDeep
      | limit + 1 => (inferMembers limit members).map .object

/-- The schema of the first item; no other item is looked at. -/
def inferFirst (limit : Nat) :
    List (Value Foreign) → Except (WalkError Foreign) (Option Schema)
  | [] => .ok none
  | item :: _ => (inferWithin limit item).map some

/-- The schemas of members, in their order. -/
def inferMembers (limit : Nat) :
    List (Text × Value Foreign) →
      Except (WalkError Foreign) (List (Text × Schema))
  | [] => .ok []
  | (name, value) :: rest =>
      match inferWithin limit value with
      | .error error => .error error
      | .ok schema =>
          (inferMembers limit rest).map fun others => (name, schema) :: others

end

/-- The schema of a value. -/
def infer (value : Value Foreign) : Except (WalkError Foreign) Schema :=
  inferWithin walkLimit value

/-- The places that an inference looks at: the root, the first item of an
array that is looked at, and every member of an object that is. -/
inductive Inspected (root : Value Foreign) : Value Foreign → Prop where
  | root : Inspected root root
  | item {first : Value Foreign} {rest : List (Value Foreign)} :
      Inspected root (.array (first :: rest)) → Inspected root first
  | member {members : List (Text × Value Foreign)} {name : Text}
      {value : Value Foreign} :
      Inspected root (.object members) → (name, value) ∈ members →
        Inspected root value

end Value

namespace SchemaNode

variable {Foreign : Type}

mutual

/-- The document of a schema, entering at most `limit` containers. -/
def toDocumentWithin (limit : Nat) :
    SchemaNode Foreign → Except (WalkError Foreign) Json
  | .primitive type => .ok (.object [("type", .text type.name)])
  | .foreign value => .error (.foreign value)
  | .array none => .ok (.object [("type", .text SchemaType.array.name)])
  | .array (some items) =>
      match limit with
      | 0 => .error .tooDeep
      | limit + 1 =>
          (toDocumentWithin limit items).map fun item =>
            .object [("type", .text SchemaType.array.name),
              ("items", .array [item])]
  | .object properties =>
      match limit with
      | 0 => .error .tooDeep
      | limit + 1 =>
          (propertiesWithin limit properties).map fun members =>
            .object [("type", .text SchemaType.object.name),
              ("properties", .object members)]

/-- The documents of properties, in their order. -/
def propertiesWithin (limit : Nat) :
    List (Text × SchemaNode Foreign) →
      Except (WalkError Foreign) (List (Text × Json))
  | [] => .ok []
  | (name, node) :: rest =>
      match toDocumentWithin limit node with
      | .error error => .error error
      | .ok document =>
          (propertiesWithin limit rest).map fun others =>
            (name, document) :: others

end

/-- The document that describes a schema. -/
def toDocument (node : SchemaNode Foreign) :
    Except (WalkError Foreign) Json :=
  toDocumentWithin walkLimit node

end SchemaNode

end ResponseService
