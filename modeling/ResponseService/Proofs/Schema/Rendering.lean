import ResponseService.Proofs.Json.Contents
import ResponseService.Proofs.Schema.Naming

/-!
# Schemas are read back from their text

A schema that is not nested too deeply has a document, which is given here
without regard to depth (`description`, `toDocument_eq`).  Its text is that
document in ASCII.

The text is read back as the document (`parse_text`) where the names of each
object are distinct and have no pairs of surrogates in them: names that stand
twice would be merged, and a pair would come back as one character.
-/

namespace ResponseService

namespace SchemaNode

/-! ## Schemas without regard to depth -/

section Depth

variable {Foreign : Type}

mutual

/-- The number of containers inside one another on the longest way down; an
array without items is none. -/
def depth : SchemaNode Foreign → Nat
  | .array (some items) => depth items + 1
  | .object properties => depthOfProperties properties + 1
  | _ => 0

/-- The greatest depth among properties. -/
def depthOfProperties : List (Text × SchemaNode Foreign) → Nat
  | [] => 0
  | (_, node) :: rest => max (depth node) (depthOfProperties rest)

end

end Depth

mutual

/-- The document of a schema. -/
def description : Schema → Json
  | .primitive type => .object [("type", .text type.name)]
  | .array none => .object [("type", .text SchemaType.array.name)]
  | .array (some items) =>
      .object [("type", .text SchemaType.array.name),
        ("items", .array [description items])]
  | .object properties =>
      .object [("type", .text SchemaType.object.name),
        ("properties", .object (descriptions properties))]
  | .foreign value => value.elim

/-- The documents of properties. -/
def descriptions : List (Text × Schema) → List (Text × Json)
  | [] => []
  | (name, node) :: rest => (name, description node) :: descriptions rest

end

theorem names_descriptions (properties : List (Text × Schema)) :
    Ordered.names (descriptions properties) = Ordered.names properties := by
  induction properties with
  | nil => rfl
  | cons property rest ih => exact congrArg (List.cons property.1) ih

mutual

/-- A schema that is not nested too deeply has its document. -/
theorem toDocumentWithin_eq {limit : Nat} (node : Schema)
    (shallow : node.depth ≤ limit) :
    node.toDocumentWithin limit = .ok node.description := by
  cases node with
  | primitive type => rfl
  | foreign value => exact value.elim
  | array items =>
      cases items with
      | none => rfl
      | some items =>
          rw [depth] at shallow
          cases limit with
          | zero => omega
          | succ limit =>
              rw [toDocumentWithin,
                toDocumentWithin_eq items (Nat.le_of_succ_le_succ shallow)]
              rfl
  | object properties =>
      rw [depth] at shallow
      cases limit with
      | zero => omega
      | succ limit =>
          rw [toDocumentWithin,
            propertiesWithin_eq properties (Nat.le_of_succ_le_succ shallow)]
          rfl

theorem propertiesWithin_eq {limit : Nat} (properties : List (Text × Schema))
    (shallow : depthOfProperties properties ≤ limit) :
    propertiesWithin limit properties = .ok (descriptions properties) := by
  cases properties with
  | nil => rfl
  | cons property rest =>
      rcases property with ⟨name, node⟩
      rw [depthOfProperties, Nat.max_le] at shallow
      simp only [propertiesWithin, toDocumentWithin_eq node shallow.1,
        propertiesWithin_eq rest shallow.2]
      rfl

end

theorem toDocument_eq {node : Schema} (shallow : node.depth ≤ walkLimit) :
    node.toDocument = .ok node.description :=
  toDocumentWithin_eq node shallow

theorem document_eq {node : Schema} (shallow : node.depth ≤ walkLimit) :
    node.document nofun = .ok node.description := by
  rw [document, toDocument_eq shallow]

theorem text_eq {node : Schema} (shallow : node.depth ≤ walkLimit) :
    Schema.text node = .ok (node.description.print .header) := by
  rw [Schema.text, render, toDocument_eq shallow]

/-! ## The documents of schemas -/

mutual

theorem isExact_description (node : Schema) : Json.IsExact node.description := by
  cases node with
  | primitive type => exact ⟨trivial, trivial⟩
  | foreign value => exact value.elim
  | array items =>
      cases items with
      | none => exact ⟨trivial, trivial⟩
      | some items =>
          exact ⟨trivial, ⟨isExact_description items, trivial⟩, trivial⟩
  | object properties =>
      exact ⟨trivial, membersExact_descriptions properties, trivial⟩

theorem membersExact_descriptions (properties : List (Text × Schema)) :
    Json.MembersExact (descriptions properties) := by
  cases properties with
  | nil => trivial
  | cons property rest =>
      exact ⟨isExact_description property.2, membersExact_descriptions rest⟩

end

mutual

/-- Each container of a schema is two containers in its document, and the
scalar inside is a further one. -/
theorem depth_description_le (node : Schema) :
    Value.depth node.description ≤ 2 * node.depth + 1 := by
  cases node with
  | primitive type => simp [description, Value.depth, Value.depthOfMembers]
  | foreign value => exact value.elim
  | array items =>
      cases items with
      | none => simp [description, Value.depth, Value.depthOfMembers]
      | some items =>
          have inner := depth_description_le items
          simp only [description, depth, Value.depth, Value.depthOfMembers,
            Value.depthOfItems]
          omega
  | object properties =>
      have inner := depthOfMembers_descriptions_le properties
      simp only [description, depth, Value.depth, Value.depthOfMembers]
      omega

theorem depthOfMembers_descriptions_le (properties : List (Text × Schema)) :
    Value.depthOfMembers (descriptions properties) ≤
      2 * depthOfProperties properties + 1 := by
  cases properties with
  | nil => simp [descriptions, Value.depthOfMembers]
  | cons property rest =>
      rcases property with ⟨name, node⟩
      have first := depth_description_le node
      have later := depthOfMembers_descriptions_le rest
      simp only [descriptions, Value.depthOfMembers, depthOfProperties]
      omega

end

/-! ## Names that come back -/

section Naming

variable {Foreign : Type}

mutual

/-- The names of each object are distinct, and none has a high surrogate
directly before a low one. -/
def IsWellNamed : SchemaNode Foreign → Prop
  | .array (some items) => IsWellNamed items
  | .object properties =>
      (Ordered.names properties).Nodup ∧
        (∀ name ∈ Ordered.names properties, name.Unpaired) ∧
        PropertiesWellNamed properties
  | _ => True

/-- The same for the schemas of properties, each on its own. -/
def PropertiesWellNamed : List (Text × SchemaNode Foreign) → Prop
  | [] => True
  | (_, node) :: rest => IsWellNamed node ∧ PropertiesWellNamed rest

end

mutual

theorem mapNames_joinPairs (node : SchemaNode Foreign)
    (wellNamed : node.IsWellNamed) : node.mapNames Text.joinPairs = node := by
  cases node with
  | primitive type => rfl
  | foreign value => rfl
  | array items =>
      cases items with
      | none => rfl
      | some items => rw [mapNames, mapNames_joinPairs items wellNamed]
  | object properties =>
      rw [mapNames, mapProperties_joinPairs properties wellNamed.2.1
        wellNamed.2.2]

theorem mapProperties_joinPairs
    (properties : List (Text × SchemaNode Foreign))
    (unpaired : ∀ name ∈ Ordered.names properties, name.Unpaired)
    (wellNamed : PropertiesWellNamed properties) :
    mapProperties Text.joinPairs properties = properties := by
  cases properties with
  | nil => rfl
  | cons property rest =>
      rcases property with ⟨name, node⟩
      have here : name.Unpaired := unpaired name List.mem_cons_self
      rw [mapProperties, mapNames_joinPairs node wellNamed.1,
        Text.joinPairs_of_unpaired here,
        mapProperties_joinPairs rest
          (fun other member => unpaired other (List.mem_cons_of_mem _ member))
          wellNamed.2]

end

end Naming

/-- No text in the document of such a schema has a pair in it. -/
theorem mapTexts_description {node : Schema} (shallow : node.depth ≤ walkLimit)
    (wellNamed : node.IsWellNamed) :
    Json.mapTexts Text.joinPairs node.description = node.description := by
  have mapped := toDocument_mapNames joinPairs_keepsSchemaWords node
  rw [mapNames_joinPairs node wellNamed, toDocument_eq shallow] at mapped
  exact (Except.ok.inj mapped).symm

theorem settled_typed (type : SchemaType) {name : Text}
    (other : Text.ofString "type" ≠ name) (part : Json) :
    Json.settled (.object [("type", .text type.name), (name, part)]) =
      .object [("type", .text type.name), (name, Json.settled part)] := by
  have distinct : (Ordered.names [(Text.ofString "type", Json.settled part),
      (name, Json.settled part)]).Nodup := by
    simpa [Ordered.names] using other
  rw [Json.settled, Json.settledMembers_eq, Ordered.ofList_of_nodup]
  · rfl
  · exact distinct

mutual

/-- The document of such a schema has no name twice in an object. -/
theorem settled_description (node : Schema) (wellNamed : node.IsWellNamed) :
    Json.settled node.description = node.description := by
  cases node with
  | primitive type => rfl
  | foreign value => exact value.elim
  | array items =>
      cases items with
      | none => rfl
      | some items =>
          rw [description, settled_typed .array (by decide), Json.settled,
            Json.settledItems_eq, List.map_cons,
            settled_description items wellNamed, List.map_nil]
  | object properties =>
      have distinct : (Ordered.names (descriptions properties)).Nodup := by
        rw [names_descriptions]
        exact wellNamed.1
      rw [description, settled_typed .object (by decide), Json.settled,
        settledMembers_descriptions properties wellNamed.2.2,
        Ordered.ofList_of_nodup distinct]

theorem settledMembers_descriptions (properties : List (Text × Schema))
    (wellNamed : PropertiesWellNamed properties) :
    Json.settledMembers (descriptions properties) = descriptions properties := by
  cases properties with
  | nil => rfl
  | cons property rest =>
      rcases property with ⟨name, node⟩
      rw [descriptions, Json.settledMembers,
        settled_description node wellNamed.1,
        settledMembers_descriptions rest wellNamed.2]

end

/-! ## Reading the text of a schema -/

/-- The text of a schema is read back as its document. -/
theorem parse_text {node : Schema} (shallow : node.depth ≤ walkLimit)
    (wellNamed : node.IsWellNamed) :
    Json.parse (node.description.print .header) = .ok node.description := by
  have within : Value.depth node.description ≤ Json.depthLimit := by
    have twice := depth_description_le node
    unfold walkLimit at shallow
    unfold Json.depthLimit
    omega
  rw [Json.parse_eq_ok_iff,
    Json.read_print Json.Format.header_recovers (isExact_description node)
      within,
    mapTexts_description shallow wellNamed, settled_description node wellNamed]

/-- Schemas of one text have one document. -/
theorem description_eq_of_print_eq {left right : Schema}
    (leftShallow : left.depth ≤ walkLimit)
    (rightShallow : right.depth ≤ walkLimit)
    (leftNamed : left.IsWellNamed) (rightNamed : right.IsWellNamed)
    (same : left.description.print .header = right.description.print .header) :
    left.description = right.description := by
  have parsed := parse_text leftShallow leftNamed
  rw [same, parse_text rightShallow rightNamed] at parsed
  exact (Except.ok.inj parsed).symm

end SchemaNode

end ResponseService
