import ResponseService.Proofs.Json.Characters
import ResponseService.Proofs.Json.Denotation
import ResponseService.Proofs.Json.Standard
import ResponseService.Proofs.Schema.Rendering

/-!
# Converting and rendering schemas with foreign things in them

A caller may put something into a schema that is none.  It is met at the root,
as the items of an array or as a property of an object (`Holds`), and a walk
that enters each part before it goes on to the next meets it in a certain order
(`foreigners`).

Below the limit of depth the conversion has two ends only
(`toDocumentWithin_cases`).  It fails with the first of the foreign things, or
there are none and it gives the document that `Describes` the schema.  The text
of a schema fails in the same way, and is otherwise that document in print
(`conversion_outcome`): it denotes the document, holds visible ASCII only, and
no blank stands outside its quotations (`IsTight`).
-/

namespace ResponseService.SchemaNode

variable {Foreign : Type}

/-! ## Foreign things in a schema -/

/-- Something foreign stands at the root, as the items of an array, or as a
property. -/
inductive Holds : SchemaNode Foreign → Foreign → Prop where
  | root (found : Foreign) : Holds (.foreign found) found
  | items {items : SchemaNode Foreign} {found : Foreign}
      (inside : Holds items found) : Holds (.array (some items)) found
  | property {properties : List (Text × SchemaNode Foreign)} {name : Text}
      {node : SchemaNode Foreign} {found : Foreign}
      (listed : (name, node) ∈ properties) (inside : Holds node found) :
      Holds (.object properties) found

mutual

/-- What is foreign in a schema, in the order in which a walk meets it that goes
down before it goes on. -/
def foreigners : SchemaNode Foreign → List Foreign
  | .primitive _ => []
  | .array none => []
  | .array (some items) => foreigners items
  | .object properties => foreignersOf properties
  | .foreign found => [found]

/-- What is foreign in properties, in their order. -/
def foreignersOf : List (Text × SchemaNode Foreign) → List Foreign
  | [] => []
  | (_, node) :: rest => foreigners node ++ foreignersOf rest

end

mutual

/-- The walk meets all that is foreign. -/
theorem mem_foreigners_iff (node : SchemaNode Foreign) {found : Foreign} :
    found ∈ node.foreigners ↔ node.Holds found := by
  cases node with
  | primitive type => exact iff_of_false List.not_mem_nil nofun
  | foreign value =>
      rw [foreigners, List.mem_singleton]
      constructor
      · rintro rfl
        exact .root found
      · rintro ⟨⟩
        rfl
  | array items =>
      cases items with
      | none => exact iff_of_false List.not_mem_nil nofun
      | some items =>
          rw [foreigners, mem_foreigners_iff items]
          exact ⟨.items, fun | .items inside => inside⟩
  | object properties =>
      rw [foreigners, mem_foreignersOf_iff properties]
      constructor
      · rintro ⟨⟨name, node⟩, listed, inside⟩
        exact .property listed inside
      · intro holds
        cases holds with
        | property listed inside => exact ⟨_, listed, inside⟩

theorem mem_foreignersOf_iff (properties : List (Text × SchemaNode Foreign))
    {found : Foreign} :
    found ∈ foreignersOf properties ↔
      ∃ property ∈ properties, property.2.Holds found := by
  cases properties with
  | nil => exact iff_of_false List.not_mem_nil (by simp)
  | cons property rest =>
      rw [foreignersOf, List.mem_append, mem_foreigners_iff property.2,
        mem_foreignersOf_iff rest]
      simp only [List.mem_cons, exists_eq_or_imp]

end

theorem exists_holds_iff (node : SchemaNode Foreign) :
    (∃ found, node.Holds found) ↔ node.foreigners ≠ [] := by
  simp only [← mem_foreigners_iff]
  exact ⟨fun ⟨_, met⟩ => List.ne_nil_of_mem met, List.exists_mem_of_ne_nil _⟩

/-! ## The document of a schema -/

mutual

/-- The document has the form that tells of the schema. -/
inductive Describes : SchemaNode Foreign → Json → Prop where
  | primitive (type : SchemaType) :
      Describes (.primitive type) (.object [("type", .text type.name)])
  | emptyArray :
      Describes (.array none) (.object [("type", .text "array")])
  | array {items : SchemaNode Foreign} {document : Json}
      (inside : Describes items document) :
      Describes (.array (some items))
        (.object [("type", .text "array"), ("items", .array [document])])
  | object {properties : List (Text × SchemaNode Foreign)}
      {members : List (Text × Json)}
      (each : DescribesEach properties members) :
      Describes (.object properties)
        (.object [("type", .text "object"), ("properties", .object members)])

/-- The members have the names of the properties and the forms that tell of
them, in their order. -/
inductive DescribesEach :
    List (Text × SchemaNode Foreign) → List (Text × Json) → Prop where
  | nil : DescribesEach [] []
  | cons {name : Text} {node : SchemaNode Foreign} {document : Json}
      {properties : List (Text × SchemaNode Foreign)}
      {members : List (Text × Json)}
      (head : Describes node document)
      (tail : DescribesEach properties members) :
      DescribesEach ((name, node) :: properties) ((name, document) :: members)

end

mutual

/-- A schema that is not nested too deeply is converted into the document that
describes it, or the conversion fails with the first foreign thing. -/
theorem toDocumentWithin_cases {limit : Nat} (node : SchemaNode Foreign)
    (shallow : node.depth ≤ limit) :
    (∃ document, node.foreigners = [] ∧ Describes node document ∧
        node.toDocumentWithin limit = .ok document) ∨
      ∃ found rest, node.foreigners = found :: rest ∧
        node.toDocumentWithin limit = .error (.foreign found) := by
  cases node with
  | primitive type => exact Or.inl ⟨_, rfl, .primitive type, rfl⟩
  | foreign found => exact Or.inr ⟨found, [], rfl, rfl⟩
  | array items =>
      cases items with
      | none => exact Or.inl ⟨_, rfl, .emptyArray, rfl⟩
      | some items =>
          rw [depth] at shallow
          cases limit with
          | zero => exact absurd shallow (Nat.not_succ_le_zero _)
          | succ limit =>
              rw [foreigners, toDocumentWithin]
              rcases toDocumentWithin_cases items
                  (Nat.le_of_succ_le_succ shallow) with
                ⟨document, none, describes, done⟩ | ⟨found, rest, first, failed⟩
              · exact Or.inl ⟨_, none, .array describes, by rw [done]; rfl⟩
              · exact Or.inr ⟨found, rest, first, by rw [failed]; rfl⟩
  | object properties =>
      rw [depth] at shallow
      cases limit with
      | zero => exact absurd shallow (Nat.not_succ_le_zero _)
      | succ limit =>
          rw [foreigners, toDocumentWithin]
          rcases propertiesWithin_cases properties
              (Nat.le_of_succ_le_succ shallow) with
            ⟨members, none, each, done⟩ | ⟨found, rest, first, failed⟩
          · exact Or.inl ⟨_, none, .object each, by rw [done]; rfl⟩
          · exact Or.inr ⟨found, rest, first, by rw [failed]; rfl⟩

theorem propertiesWithin_cases {limit : Nat}
    (properties : List (Text × SchemaNode Foreign))
    (shallow : depthOfProperties properties ≤ limit) :
    (∃ members, foreignersOf properties = [] ∧
        DescribesEach properties members ∧
        propertiesWithin limit properties = .ok members) ∨
      ∃ found rest, foreignersOf properties = found :: rest ∧
        propertiesWithin limit properties = .error (.foreign found) := by
  cases properties with
  | nil => exact Or.inl ⟨[], rfl, .nil, rfl⟩
  | cons property rest =>
      rcases property with ⟨name, node⟩
      rw [depthOfProperties, Nat.max_le] at shallow
      rw [foreignersOf, propertiesWithin]
      rcases toDocumentWithin_cases node shallow.1 with
        ⟨document, none, describes, done⟩ | ⟨found, further, first, failed⟩
      · rw [none, done, List.nil_append]
        rcases propertiesWithin_cases rest shallow.2 with
          ⟨members, later, each, converted⟩ | ⟨found, further, first, failed⟩
        · exact Or.inl ⟨_, later, .cons describes each, by rw [converted]; rfl⟩
        · exact Or.inr ⟨found, further, first, by rw [failed]; rfl⟩
      · exact Or.inr ⟨found, _, by rw [first]; rfl, by rw [failed]⟩

end

mutual

/-- No two documents describe one schema. -/
theorem Describes.unique (node : SchemaNode Foreign) {left right : Json}
    (one : Describes node left) (other : Describes node right) :
    left = right := by
  cases one with
  | primitive type =>
      cases other
      rfl
  | emptyArray =>
      cases other
      rfl
  | @array items document inside =>
      cases other with
      | array further => rw [Describes.unique items inside further]
  | @object properties members each =>
      cases other with
      | object further => rw [DescribesEach.unique properties each further]

theorem DescribesEach.unique (properties : List (Text × SchemaNode Foreign))
    {left right : List (Text × Json)} (one : DescribesEach properties left)
    (other : DescribesEach properties right) : left = right := by
  cases one with
  | nil =>
      cases other
      rfl
  | @cons name node document rest members head tail =>
      cases other with
      | cons further later =>
          rw [Describes.unique node head further,
            DescribesEach.unique rest tail later]

end

mutual

/-- A schema that has a document is one that has nothing foreign to hold. -/
theorem Describes.exists_schema (node : SchemaNode Foreign) {document : Json}
    (describes : Describes node document) :
    ∃ schema : Schema, schema.depth = node.depth ∧
      schema.description = document ∧
      (node.IsWellNamed → schema.IsWellNamed) := by
  cases describes with
  | primitive type => exact ⟨.primitive type, rfl, rfl, fun _ => trivial⟩
  | emptyArray => exact ⟨.array none, rfl, rfl, fun _ => trivial⟩
  | @array items document inside =>
      obtain ⟨schema, depth, same, named⟩ :=
        Describes.exists_schema items inside
      refine ⟨.array (some schema), ?_, by rw [description, same]; rfl, named⟩
      rw [SchemaNode.depth, SchemaNode.depth, depth]
  | @object properties members each =>
      obtain ⟨schemas, depth, same, names, named⟩ :=
        DescribesEach.exists_schemas properties each
      refine ⟨.object schemas, ?_, by rw [description, same]; rfl, ?_⟩
      · rw [SchemaNode.depth, SchemaNode.depth, depth]
      · rw [IsWellNamed, IsWellNamed, names]
        exact fun wellNamed =>
          ⟨wellNamed.1, wellNamed.2.1, named wellNamed.2.2⟩

theorem DescribesEach.exists_schemas
    (properties : List (Text × SchemaNode Foreign))
    {members : List (Text × Json)} (each : DescribesEach properties members) :
    ∃ schemas : List (Text × Schema),
      depthOfProperties schemas = depthOfProperties properties ∧
      descriptions schemas = members ∧
      Ordered.names schemas = Ordered.names properties ∧
      (PropertiesWellNamed properties → PropertiesWellNamed schemas) := by
  cases each with
  | nil => exact ⟨[], rfl, rfl, rfl, fun _ => trivial⟩
  | @cons name node document rest members head tail =>
      obtain ⟨schema, depth, same, named⟩ := Describes.exists_schema node head
      obtain ⟨schemas, depths, sames, names, allNamed⟩ :=
        DescribesEach.exists_schemas rest tail
      refine ⟨(name, schema) :: schemas, ?_, ?_, ?_, ?_⟩
      · rw [depthOfProperties, depthOfProperties, depth, depths]
      · rw [descriptions, same, sames]
      · exact congrArg (List.cons name) names
      · exact fun wellNamed => ⟨named wellNamed.1, allNamed wellNamed.2⟩

end

/-! ## The text of a schema -/

section Tight

open Json Json.Dialect Json.Standard

/-- The text begins and ends outside quotations, and no blank stands outside
them. -/
structure IsTight (text : Text) : Prop where
  closed : Closed text
  tight : ∀ point ∈ unquoted text, ¬point.isBlank

theorem IsTight.append {left right : Text} (leftTight : IsTight left)
    (rightTight : IsTight right) : IsTight (left ++ right) where
  closed := leftTight.closed.append rightTight.closed
  tight := by
    rw [unquoted_append leftTight.closed, List.forall_mem_append]
    exact ⟨leftTight.tight, rightTight.tight⟩

theorem isTight_of_plain {text : Text}
    (plain : ∀ point ∈ text, point ≠ '"' ∧ ¬point.isBlank) : IsTight text := by
  obtain ⟨closed, same⟩ :=
    closed_of_no_quote fun point member => (plain point member).1
  refine ⟨closed, ?_⟩
  rw [same]
  exact fun point member => (plain point member).2

theorem isTight_quote (text : Text) : IsTight (quote true text) := by
  obtain ⟨inside, same, between⟩ :=
    inside_of_spelled (Format.header_recovers.texts text)
  obtain ⟨closed, unquoted⟩ := closed_quoted (characters_of_inside between)
  change quote true text = _ at same
  rw [same]
  refine ⟨closed, ?_⟩
  rw [unquoted]
  decide

/-- A member is tight if its value is. -/
theorem isTight_member (name : Text) {value : Text} (tight : IsTight value) :
    IsTight (quote true name ++ ":" ++ value) :=
  ((isTight_quote name).append (isTight_of_plain (by decide))).append tight

theorem isTight_enclosed {text : Text} (tight : IsTight text)
    {opening closing : Text}
    (opens : ∀ point ∈ opening, point ≠ '"' ∧ ¬point.isBlank)
    (closes : ∀ point ∈ closing, point ≠ '"' ∧ ¬point.isBlank) :
    IsTight (opening ++ text ++ closing) :=
  ((isTight_of_plain opens).append tight).append (isTight_of_plain closes)

/-- An object of a type and one further member is tight if the value of that
member is. -/
theorem isTight_typed (type name : Text) {value : Json}
    (tight : IsTight (value.print .header)) :
    IsTight
      (Json.print .header (.object [("type", .text type), (name, value)])) := by
  rw [print, printMembers, printMembers]
  refine isTight_enclosed ?_ (by decide) (by decide)
  exact ((isTight_member _ (isTight_quote type)).append
    (isTight_of_plain (by decide))).append (isTight_member name tight)

mutual

theorem isTight_description (schema : Schema) :
    IsTight (schema.description.print .header) := by
  cases schema with
  | primitive type =>
      rw [description, print, printMembers]
      exact isTight_enclosed (isTight_member _ (isTight_quote type.name))
        (by decide) (by decide)
  | foreign value => exact value.elim
  | array items =>
      cases items with
      | none =>
          rw [description, print, printMembers]
          exact isTight_enclosed (isTight_member _ (isTight_quote _))
            (by decide) (by decide)
      | some items =>
          refine isTight_typed _ _ ?_
          rw [print, printItems]
          exact isTight_enclosed (isTight_description items) (by decide)
            (by decide)
  | object properties =>
      refine isTight_typed _ _ ?_
      rw [print]
      exact isTight_enclosed (isTight_descriptions properties) (by decide)
        (by decide)

theorem isTight_descriptions (properties : List (Text × Schema)) :
    IsTight (printMembers .header (descriptions properties)) := by
  match properties with
  | [] => exact isTight_of_plain nofun
  | [(name, schema)] =>
      rw [descriptions, descriptions, printMembers]
      exact isTight_member name (isTight_description schema)
  | (name, schema) :: (next, other) :: rest =>
      have later := isTight_descriptions ((next, other) :: rest)
      rw [descriptions] at later
      rw [descriptions, descriptions, printMembers]
      exact ((isTight_member name (isTight_description schema)).append
        (isTight_of_plain (by decide))).append later

end

/-- The text of a schema denotes its document, in which pairs of surrogates
are joined and no name stands twice. -/
theorem denotes_print {schema : Schema} (shallow : schema.depth ≤ walkLimit) :
    Denotes (schema.description.print .header)
      (settled (mapTexts Text.joinPairs schema.description)) := by
  have within : Value.depth schema.description ≤ depthLimit := by
    have twice := depth_description_le schema
    unfold walkLimit at shallow
    unfold depthLimit
    omega
  exact denotes_of_readWithin
    (read_print Format.header_recovers (isExact_description schema) within)

end Tight

/-- The text is the document in print: it denotes the document, up to pairs of
surrogates in its names and names that stand twice, and it is compact and in
visible ASCII. -/
structure Prints (node : SchemaNode Foreign) (document : Json) (text : Text) :
    Prop where
  printed : text = document.print .header
  visible : text.IsVisible
  tight : IsTight text
  denotes : Json.Dialect.Denotes text
    (Json.settled (Json.mapTexts Text.joinPairs document))
  wellNamed : node.IsWellNamed →
    Json.Dialect.Denotes text document ∧ Json.parse text = .ok document

theorem prints_of_describes {node : SchemaNode Foreign} {document : Json}
    (shallow : node.depth ≤ walkLimit) (describes : Describes node document) :
    Prints node document (document.print .header) := by
  obtain ⟨schema, depth, rfl, named⟩ := describes.exists_schema
  rw [← depth] at shallow
  have denotes := denotes_print shallow
  refine ⟨rfl, Json.isVisible_print_header _, isTight_description schema,
    denotes, fun wellNamed => ⟨?_, parse_text shallow (named wellNamed)⟩⟩
  rwa [mapTexts_description shallow (named wellNamed),
    settled_description schema (named wellNamed)] at denotes

/-! ## The ends of a conversion -/

/-- The conversion of a schema that is not nested too deeply and its rendering
end alike. -/
theorem document_cases (kind : Foreign → Text) {node : SchemaNode Foreign}
    (shallow : node.depth ≤ walkLimit) :
    (∃ document, node.foreigners = [] ∧ Describes node document ∧
        node.document kind = .ok document ∧
        node.render kind = .ok (document.print .header)) ∨
      ∃ found rest, node.foreigners = found :: rest ∧
        node.document kind = .error (.ofCondition (.notSchema (kind found))) ∧
        node.render kind = .error (.ofCondition (.notSchema (kind found))) := by
  rw [document, render, toDocument]
  rcases toDocumentWithin_cases node shallow with
    ⟨document, none, describes, done⟩ | ⟨found, rest, first, failed⟩
  · exact Or.inl ⟨document, none, describes, by rw [done], by rw [done]⟩
  · exact Or.inr ⟨found, rest, first, by rw [failed], by rw [failed]⟩

/-- Null in the place of an array's items is nothing foreign there, as it is at
the root or as a property. -/
theorem holds_arrayOf_iff {items : SchemaNode Datum} {found : Datum} :
    (arrayOf items).Holds found ↔
      items ≠ .foreign .null ∧ items.Holds found := by
  have entered {items : SchemaNode Datum} :
      (SchemaNode.array (some items)).Holds found ↔ items.Holds found :=
    ⟨fun | .items inside => inside, .items⟩
  by_cases null : items = .foreign .null
  · subst null
    exact iff_of_false nofun fun holds => holds.1 rfl
  · rw [arrayOf, entered]
    · exact ⟨fun inside => ⟨null, inside⟩, And.right⟩
    · exact null

/-- The conversion of a schema of moderate depth fails exactly if something in
it is no schema, and so does its rendering.  Both name the first such thing on
the way.  Otherwise the document is the one that describes the schema, and the
text is that document in print.  Null in the place of an array's items is no
such thing, but says that there are none. -/
theorem conversion_outcome (kind : Foreign → Text) (node : SchemaNode Foreign)
    (shallow : node.depth ≤ 300) :
    ((∃ fault, node.document kind = .error fault ∧ fault.name = "TypeError") ↔
      ∃ found, node.Holds found) ∧
    ((∃ fault, node.render kind = .error fault ∧ fault.name = "TypeError") ↔
      ∃ found, node.Holds found) ∧
    (∀ found, node.foreigners.head? = some found →
      ∃ fault, node.document kind = .error fault ∧
        node.render kind = .error fault ∧ fault.name = "TypeError" ∧
        fault.message = .ok ("Not a schema node: " ++ kind found)) ∧
    ((¬∃ found, node.Holds found) →
      ∃ document text, (∀ other, Describes node other ↔ other = document) ∧
        node.document kind = .ok document ∧ node.render kind = .ok text ∧
        Prints node document text) ∧
    (∀ (items : SchemaNode Datum) (found : Datum),
      (arrayOf items).Holds found ↔
        items ≠ .foreign .null ∧ items.Holds found) ∧
    Describes (arrayOf (.foreign .null))
      (.object [("type", .text "array")]) := by
  have below : node.depth ≤ walkLimit := Nat.le_trans shallow (by decide)
  rcases document_cases kind below with
    ⟨document, none, describes, converted, rendered⟩ |
      ⟨found, rest, first, converted, rendered⟩
  · have familiar : ¬∃ found, node.Holds found := by
      rw [exists_holds_iff]
      exact fun some => some none
    have only (other : Json) : Describes node other ↔ other = document :=
      ⟨fun further => further.unique node describes,
        fun same => same ▸ describes⟩
    refine ⟨iff_of_false ?_ familiar, iff_of_false ?_ familiar, ?_,
      fun _ => ⟨document, _, only, converted, rendered,
        prints_of_describes below describes⟩,
      fun _ _ => holds_arrayOf_iff, .emptyArray⟩
    · rintro ⟨fault, failed, _⟩
      cases converted.symm.trans failed
    · rintro ⟨fault, failed, _⟩
      cases rendered.symm.trans failed
    · intro found first
      rw [none] at first
      cases first
  · have holds : ∃ found, node.Holds found := by
      rw [exists_holds_iff, first]
      exact List.cons_ne_nil found rest
    refine ⟨iff_of_true ⟨_, converted, rfl⟩ holds,
      iff_of_true ⟨_, rendered, rfl⟩ holds, ?_,
      fun familiar => absurd holds familiar, fun _ _ => holds_arrayOf_iff,
      .emptyArray⟩
    intro other same
    rw [first] at same
    cases same
    exact ⟨_, converted, rendered, rfl, rfl⟩

/-- An array without items, one of an object with null as a property, and a set
behind it. -/
def blemishedNode : SchemaNode Datum :=
  .object [("none", arrayOf (.foreign .null)),
    ("inner", arrayOf (.object [("count", .primitive .number),
      ("void", .foreign .null)])),
    ("behind", .foreign (.foreign .set))]

/-- Of what is foreign in it, the null that stands as a property is named. -/
theorem conversion_outcome_blemished :
    blemishedNode.depth ≤ 300 ∧
      blemishedNode.foreigners = [.null, .foreign .set] ∧
      ∃ fault,
        blemishedNode.document (Value.kindName ForeignKind.name) =
            .error fault ∧
          blemishedNode.render (Value.kindName ForeignKind.name) =
            .error fault ∧
          fault.name = "TypeError" ∧
          fault.message = .ok "Not a schema node: NoneType" := by
  have shallow : blemishedNode.depth ≤ 300 := by decide
  have foreigners : blemishedNode.foreigners = [.null, .foreign .set] := rfl
  obtain ⟨_, _, named, _⟩ :=
    conversion_outcome (Value.kindName ForeignKind.name) blemishedNode shallow
  obtain ⟨fault, converted, rendered, name, message⟩ :=
    named .null (by rw [foreigners]; rfl)
  exact ⟨shallow, foreigners, fault, converted, rendered, name, message⟩

end ResponseService.SchemaNode
