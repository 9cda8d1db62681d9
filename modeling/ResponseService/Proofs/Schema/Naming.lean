import ResponseService.Proofs.Json.Escaping
import ResponseService.Proofs.Json.Printing
import ResponseService.Schema.Description

/-!
# Schemas of documents with changed texts

A schema has the names of a document's members and none of its other texts, so
a document with changed texts has the schema with changed names
(`infer_mapTexts`).  The document of such a schema is that of the schema itself
with changed texts, as long as the words that schemas are written with stay
the same (`toDocument_mapNames`).

A schema is sent in ASCII, where a pair of surrogates and the character it
stands for are written alike.  So the description of a body is that of the
body with its surrogates escaped (`describe_escapeSurrogates`).
-/

namespace ResponseService

namespace SchemaNode

variable {Foreign : Type}

mutual

/-- Change every name in a schema. -/
def mapNames (change : Text → Text) : SchemaNode Foreign → SchemaNode Foreign
  | .primitive type => .primitive type
  | .array none => .array none
  | .array (some items) => .array (some (mapNames change items))
  | .object properties => .object (mapProperties change properties)
  | .foreign value => .foreign value

/-- Change every name of some properties. -/
def mapProperties (change : Text → Text) :
    List (Text × SchemaNode Foreign) → List (Text × SchemaNode Foreign)
  | [] => []
  | (name, node) :: rest =>
      (change name, mapNames change node) :: mapProperties change rest

end

end SchemaNode

/-! ## Inferring -/

namespace Json

variable (change : Text → Text)

mutual

/-- The schema of a changed document has changed names. -/
theorem inferWithin_mapTexts (limit : Nat) (document : Json) :
    (mapTexts change document).inferWithin limit =
      (document.inferWithin limit).map (SchemaNode.mapNames change) := by
  cases document with
  | array items =>
      cases limit with
      | zero => rfl
      | succ limit =>
          rw [mapTexts, Value.inferWithin, Value.inferWithin,
            inferFirst_mapItems limit items]
          rcases Value.inferFirst limit items with _ | _ | _ <;> rfl
  | object members =>
      cases limit with
      | zero => rfl
      | succ limit =>
          rw [mapTexts, Value.inferWithin, Value.inferWithin,
            inferMembers_mapMembers limit members]
          cases Value.inferMembers limit members <;> rfl
  | _ => rfl

theorem inferFirst_mapItems (limit : Nat) (items : List Json) :
    Value.inferFirst limit (mapItems change items) =
      (Value.inferFirst limit items).map
        (Option.map (SchemaNode.mapNames change)) := by
  cases items with
  | nil => rfl
  | cons item rest =>
      rw [mapItems, Value.inferFirst, Value.inferFirst,
        inferWithin_mapTexts limit item]
      cases item.inferWithin limit <;> rfl

theorem inferMembers_mapMembers (limit : Nat) (members : List (Text × Json)) :
    Value.inferMembers limit (mapMembers change members) =
      (Value.inferMembers limit members).map
        (SchemaNode.mapProperties change) := by
  cases members with
  | nil => rfl
  | cons member rest =>
      rcases member with ⟨name, value⟩
      rw [mapMembers, Value.inferMembers, Value.inferMembers,
        inferWithin_mapTexts limit value, inferMembers_mapMembers limit rest]
      cases value.inferWithin limit with
      | error error => rfl
      | ok schema => cases Value.inferMembers limit rest <;> rfl

end

theorem infer_mapTexts (document : Json) :
    (mapTexts change document).infer =
      document.infer.map (SchemaNode.mapNames change) :=
  inferWithin_mapTexts change walkLimit document

theorem schema_mapTexts (document : Json) :
    (mapTexts change document).schema =
      document.schema.map (SchemaNode.mapNames change) := by
  rw [schema, schema, infer_mapTexts]
  cases document.infer <;> rfl

end Json

/-! ## Rendering -/

/-- The change leaves the words that schemas are written with as they are. -/
structure KeepsSchemaWords (change : Text → Text) : Prop where
  type : change "type" = "type"
  items : change "items" = "items"
  properties : change "properties" = "properties"
  names : ∀ type : SchemaType, change type.name = type.name

theorem joinPairs_keepsSchemaWords : KeepsSchemaWords Text.joinPairs where
  type := rfl
  items := rfl
  properties := rfl
  names type := by cases type <;> rfl

namespace SchemaNode

variable {Foreign : Type} {change : Text → Text}

mutual

/-- The document of a schema with changed names has changed texts. -/
theorem toDocumentWithin_mapNames (keeps : KeepsSchemaWords change)
    (limit : Nat) (node : SchemaNode Foreign) :
    (node.mapNames change).toDocumentWithin limit =
      (node.toDocumentWithin limit).map (Json.mapTexts change) := by
  cases node with
  | primitive type =>
      simp [mapNames, toDocumentWithin, Json.mapTexts, Json.mapMembers,
        Except.map, keeps.type, keeps.names]
  | array items =>
      cases items with
      | none =>
          simp [mapNames, toDocumentWithin, Json.mapTexts, Json.mapMembers,
            Except.map, keeps.type, keeps.names]
      | some items =>
          cases limit with
          | zero => rfl
          | succ limit =>
              rw [mapNames, toDocumentWithin, toDocumentWithin,
                toDocumentWithin_mapNames keeps limit items]
              cases items.toDocumentWithin limit with
              | error error => rfl
              | ok item =>
                  simp [Json.mapTexts, Json.mapMembers, Json.mapItems,
                    Except.map, keeps.type, keeps.items, keeps.names]
  | object properties =>
      cases limit with
      | zero => rfl
      | succ limit =>
          rw [mapNames, toDocumentWithin, toDocumentWithin,
            propertiesWithin_mapProperties keeps limit properties]
          cases propertiesWithin limit properties with
          | error error => rfl
          | ok members =>
              simp [Json.mapTexts, Json.mapMembers, Except.map, keeps.type,
                keeps.properties, keeps.names]
  | foreign value => rfl

theorem propertiesWithin_mapProperties (keeps : KeepsSchemaWords change)
    (limit : Nat) (properties : List (Text × SchemaNode Foreign)) :
    propertiesWithin limit (mapProperties change properties) =
      (propertiesWithin limit properties).map (Json.mapMembers change) := by
  cases properties with
  | nil => rfl
  | cons property rest =>
      rcases property with ⟨name, node⟩
      rw [mapProperties, propertiesWithin, propertiesWithin,
        toDocumentWithin_mapNames keeps limit node,
        propertiesWithin_mapProperties keeps limit rest]
      cases node.toDocumentWithin limit with
      | error error => rfl
      | ok document => cases propertiesWithin limit rest <;> rfl

end

theorem toDocument_mapNames (keeps : KeepsSchemaWords change)
    (node : SchemaNode Foreign) :
    (node.mapNames change).toDocument =
      node.toDocument.map (Json.mapTexts change) :=
  toDocumentWithin_mapNames keeps walkLimit node

/-- A schema is sent alike whether the pairs in its names are joined or not. -/
theorem render_mapNames_joinPairs (kind : Foreign → Text)
    (node : SchemaNode Foreign) :
    (node.mapNames Text.joinPairs).render kind = node.render kind := by
  have alike (document : Json) :
      (Json.mapTexts Text.joinPairs document).print .header =
        document.print .header := by
    apply Json.print_mapTexts
    exact Json.quote_joinPairs
  rw [render, render, toDocument_mapNames joinPairs_keepsSchemaWords]
  cases node.toDocument with
  | error error => simp only [Except.map]
  | ok document => simp only [Except.map, alike]

end SchemaNode

/-! ## Descriptions -/

/-- Parsing differs from reading in its faults only. -/
theorem Json.parse_eq_ok_iff {text : Text} {document : Json} :
    Json.parse text = .ok document ↔ Json.read text = .ok document := by
  rw [Json.parse]
  cases Json.read text <;> simp

/-- A body with exact numbers and no name twice is read back as its document. -/
theorem Json.parse_print {document : Json} (exact : Json.IsExact document)
    (shallow : document.depth ≤ Json.depthLimit)
    (distinct : Json.settled document = document) :
    Json.parse (document.print .compact) = .ok document := by
  rw [Json.parse_eq_ok_iff,
    Json.read_print Json.Format.compact_recovers exact shallow,
    Json.mapTexts_id, distinct]

theorem describe_of_parse {body : Text} {document : Json}
    (parsed : Json.parse body = .ok document) :
    describe body = document.schema.bind Schema.text := by
  simp only [describe, parsed]
  cases document.schema <;> rfl

/-- Only a body with a document has a description. -/
theorem exists_document_of_describe {body header : Text}
    (described : describe body = .ok header) :
    ∃ document, Json.parse body = .ok document := by
  cases parsed : Json.parse body with
  | error fault => simp [describe, parsed] at described
  | ok document => exact ⟨document, rfl⟩

/-- Documents that differ in joined pairs only are described alike. -/
theorem describe_of_parse_joinPairs {body received : Text} {document : Json}
    (parsed : Json.parse body = .ok document)
    (receivedParsed :
      Json.parse received = .ok (Json.mapTexts Text.joinPairs document)) :
    describe received = describe body := by
  rw [describe_of_parse parsed, describe_of_parse receivedParsed,
    Json.schema_mapTexts]
  cases document.schema with
  | error fault => rfl
  | ok schema => exact SchemaNode.render_mapNames_joinPairs _ schema

/-- Escaping the surrogates of a body leaves its description as it is. -/
theorem describe_escapeSurrogates {body : Text} {document : Json}
    (parsed : Json.parse body = .ok document)
    (apart : Json.NamesApart Text.joinPairs document) :
    describe body.escapeSurrogates = describe body := by
  apply describe_of_parse_joinPairs parsed
  rw [Json.parse_eq_ok_iff] at parsed ⊢
  exact Json.read_escapeSurrogates parsed apart

end ResponseService
