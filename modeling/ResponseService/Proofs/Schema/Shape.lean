import ResponseService.Proofs.Schema.Rendering

/-!
# A description tells documents apart up to their shape

Two documents have the same shape (`SameShape`) if nothing tells them apart
but scalars of one type and the items of an array behind the first one.  The
schema of a document is its shape (`shape`, `infer_eq`), so documents of the
same shape are described alike.  Conversely the document of a schema names the
type of what it describes, and with it the shape (`sameShape_of_description`).

The description is a text in ASCII.  It is read back as the document of the
schema (`parse_description`), and two shapes differ in their descriptions
(`describe_eq_iff_sameShape`), unless there is a pair of surrogates in a name.
-/

namespace ResponseService

namespace Json

/-! ## Shapes -/

mutual

/-- The shape of a document: the types of its scalars, the shape of the first
item of each array, and the shapes of the members of each object. -/
def shape : Json → Schema
  | .null => .primitive .null
  | .boolean _ => .primitive .boolean
  | .integer _ => .primitive .number
  | .float _ => .primitive .number
  | .text _ => .primitive .string
  | .array [] => .array none
  | .array (first :: _) => .array (some (shape first))
  | .object members => .object (shapes members)
  | .foreign value => value.elim

/-- The shapes of members. -/
def shapes : List (Text × Json) → List (Text × Schema)
  | [] => []
  | (name, value) :: rest => (name, shape value) :: shapes rest

end

mutual

theorem inferWithin_eq {limit : Nat} (document : Json)
    (shallow : document.depth ≤ limit) :
    document.inferWithin limit = .ok document.shape := by
  cases document with
  | array items =>
      rw [Value.depth] at shallow
      cases limit with
      | zero => omega
      | succ limit =>
          cases items with
          | nil => rfl
          | cons first rest =>
              rw [Value.depthOfItems] at shallow
              have inner : first.depth ≤ limit := by omega
              rw [Value.inferWithin, Value.inferFirst,
                inferWithin_eq first inner]
              rfl
  | object members =>
      rw [Value.depth] at shallow
      cases limit with
      | zero => omega
      | succ limit =>
          rw [Value.inferWithin,
            inferMembers_eq members (Nat.le_of_succ_le_succ shallow)]
          rfl
  | foreign value => exact value.elim
  | _ => rfl

theorem inferMembers_eq {limit : Nat} (members : List (Text × Json))
    (shallow : Value.depthOfMembers members ≤ limit) :
    Value.inferMembers limit members = .ok (shapes members) := by
  cases members with
  | nil => rfl
  | cons member rest =>
      rcases member with ⟨name, value⟩
      rw [Value.depthOfMembers, Nat.max_le] at shallow
      simp only [Value.inferMembers, inferWithin_eq value shallow.1,
        inferMembers_eq rest shallow.2]
      rfl

end

theorem infer_eq {document : Json} (shallow : document.depth ≤ walkLimit) :
    document.infer = .ok document.shape :=
  inferWithin_eq document shallow

theorem schema_eq {document : Json} (shallow : document.depth ≤ walkLimit) :
    document.schema = .ok document.shape := by
  rw [schema, infer_eq shallow]
  rfl

mutual

theorem depth_shape_le (document : Json) :
    document.shape.depth ≤ document.depth := by
  cases document with
  | array items =>
      cases items with
      | nil => exact Nat.zero_le _
      | cons first rest =>
          have inner := depth_shape_le first
          simp only [shape, SchemaNode.depth, Value.depth, Value.depthOfItems]
          omega
  | object members =>
      exact Nat.succ_le_succ (depthOfProperties_shapes_le members)
  | foreign value => exact value.elim
  | _ => exact Nat.zero_le _

theorem depthOfProperties_shapes_le (members : List (Text × Json)) :
    SchemaNode.depthOfProperties (shapes members) ≤
      Value.depthOfMembers members := by
  cases members with
  | nil => exact Nat.zero_le _
  | cons member rest =>
      have first := depth_shape_le member.2
      have later := depthOfProperties_shapes_le rest
      simp only [shapes, SchemaNode.depthOfProperties, Value.depthOfMembers]
      omega

end

/-- A body that is not nested too deeply is described by its shape. -/
theorem describe_eq {body : Text} {document : Json}
    (parsed : parse body = .ok document)
    (shallow : document.depth ≤ walkLimit) :
    describe body = .ok (document.shape.description.print .header) := by
  have within := (depth_shape_le document).trans shallow
  rw [describe_of_parse parsed, schema_eq shallow]
  exact SchemaNode.text_eq within

/-! ## The names in a shape -/

theorem shapes_eq (members : List (Text × Json)) :
    shapes members = members.map fun member => (member.1, shape member.2) := by
  induction members with
  | nil => rfl
  | cons member rest ih => exact congrArg (List.cons _) ih

theorem names_shapes (members : List (Text × Json)) :
    Ordered.names (shapes members) = Ordered.names members := by
  rw [shapes_eq, Ordered.names, Ordered.names, List.map_map]
  rfl

theorem propertiesWellNamed_shapes {members : List (Text × Json)}
    (wellNamed : ∀ member ∈ members, (shape member.2).IsWellNamed) :
    SchemaNode.PropertiesWellNamed (shapes members) := by
  induction members with
  | nil => trivial
  | cons member rest ih =>
      rw [List.forall_mem_cons] at wellNamed
      exact ⟨wellNamed.1, ih wellNamed.2⟩

theorem isWellNamed_shape {document : Json} (distinct : DistinctNames document)
    (unpaired : ∀ name, HasName document name → name.Unpaired) :
    document.shape.IsWellNamed := by
  induction document using inductionOnParts with
  | array items ih =>
      cases items with
      | nil => trivial
      | cons first rest =>
          have listed : first ∈ first :: rest := List.mem_cons_self
          exact ih first listed (distinct.item listed)
            fun name inside => unpaired name (inside.item listed)
  | object members ih =>
      rw [shape, SchemaNode.IsWellNamed, names_shapes]
      refine ⟨distinct members .self, ?_, ?_⟩
      · intro name named
        exact unpaired name ⟨members, .self, named⟩
      · apply propertiesWellNamed_shapes
        intro member listed
        exact ih member listed (distinct.value listed)
          fun name inside => unpaired name (inside.value listed)
  | _ => trivial

/-! ## Documents of the same shape -/

/-- The value is a number of either kind. -/
def IsNumber : Json → Prop
  | .integer _ | .float _ => True
  | _ => False

mutual

/-- Nothing tells the documents apart but scalars of one type, and items of
arrays behind the first one. -/
inductive SameShape : Json → Json → Prop where
  | null : SameShape .null .null
  | booleans (left right : Bool) : SameShape (.boolean left) (.boolean right)
  | numbers {left right : Json} (leftNumber : IsNumber left)
      (rightNumber : IsNumber right) : SameShape left right
  | texts (left right : Text) : SameShape (.text left) (.text right)
  | emptyArrays : SameShape (.array []) (.array [])
  | arrays {left right : Json} {leftRest rightRest : List Json}
      (first : SameShape left right) :
      SameShape (.array (left :: leftRest)) (.array (right :: rightRest))
  | objects {left right : List (Text × Json)}
      (members : SameMembers left right) :
      SameShape (.object left) (.object right)

/-- The same names in the same order, and values of the same shape. -/
inductive SameMembers : List (Text × Json) → List (Text × Json) → Prop where
  | nil : SameMembers [] []
  | cons {name : Text} {left right : Json}
      {leftRest rightRest : List (Text × Json)}
      (value : SameShape left right) (rest : SameMembers leftRest rightRest) :
      SameMembers ((name, left) :: leftRest) ((name, right) :: rightRest)

end

theorem IsNumber.shape_eq {document : Json} (number : IsNumber document) :
    document.shape = .primitive .number := by
  cases document with
  | integer value => rfl
  | float value => rfl
  | _ => exact number.elim

mutual

theorem SameShape.shape_eq {left right : Json} (same : SameShape left right) :
    left.shape = right.shape := by
  cases same with
  | numbers leftNumber rightNumber =>
      rw [leftNumber.shape_eq, rightNumber.shape_eq]
  | arrays first => rw [shape, shape, first.shape_eq]
  | objects members => rw [shape, shape, members.shapes_eq]
  | _ => rfl

theorem SameMembers.shapes_eq {left right : List (Text × Json)}
    (same : SameMembers left right) : shapes left = shapes right := by
  cases same with
  | nil => rfl
  | cons value rest => rw [shapes, shapes, value.shape_eq, rest.shapes_eq]

end

/-! ## The shape in a description -/

/-- The type of a document. -/
def typeOf : Json → SchemaType
  | .null => .null
  | .boolean _ => .boolean
  | .integer _ => .number
  | .float _ => .number
  | .text _ => .string
  | .array _ => .array
  | .object _ => .object
  | .foreign value => value.elim

theorem description_shape (document : Json) :
    ∃ parts, document.shape.description =
      .object (("type", .text document.typeOf.name) :: parts) := by
  cases document with
  | array items => cases items <;> exact ⟨_, rfl⟩
  | foreign value => exact value.elim
  | _ => exact ⟨_, rfl⟩

theorem typeOf_eq_of_description {left right : Json}
    (same : left.shape.description = right.shape.description) :
    left.typeOf = right.typeOf := by
  rcases description_shape left with ⟨leftParts, leftShown⟩
  rcases description_shape right with ⟨rightParts, rightShown⟩
  rw [leftShown, rightShown] at same
  have names : left.typeOf.name = right.typeOf.name := by
    injection same with members
    injection members with type _
    injection type with _ shown
    injection shown
  have injective : ∀ first second : SchemaType,
      first.name = second.name → first = second := by
    intro first second
    cases first <;> cases second <;> decide
  exact injective _ _ names

mutual

/-- Documents whose schemas have one document have the same shape. -/
theorem sameShape_of_description (left right : Json)
    (same : left.shape.description = right.shape.description) :
    SameShape left right := by
  have type := typeOf_eq_of_description same
  cases left with
  | null =>
      cases right with
      | null => exact .null
      | foreign value => exact value.elim
      | _ => cases type
  | boolean value =>
      cases right with
      | boolean other => exact .booleans value other
      | foreign value => exact value.elim
      | _ => cases type
  | integer value =>
      cases right with
      | integer other => exact .numbers trivial trivial
      | float other => exact .numbers trivial trivial
      | foreign value => exact value.elim
      | _ => cases type
  | float value =>
      cases right with
      | integer other => exact .numbers trivial trivial
      | float other => exact .numbers trivial trivial
      | foreign value => exact value.elim
      | _ => cases type
  | text value =>
      cases right with
      | text other => exact .texts value other
      | foreign value => exact value.elim
      | _ => cases type
  | foreign value => exact value.elim
  | array items =>
      cases right with
      | foreign value => exact value.elim
      | array others =>
          -- Only a description with items is one of an array with items.
          cases items with
          | nil =>
              cases others with
              | nil => exact .emptyArrays
              | cons other rest => cases same
          | cons item rest =>
              cases others with
              | nil => cases same
              | cons other more =>
                  apply SameShape.arrays
                  apply sameShape_of_description item other
                  simpa [shape, SchemaNode.description] using same
      | _ => cases type
  | object members =>
      cases right with
      | foreign value => exact value.elim
      | object others =>
          apply SameShape.objects
          apply sameMembers_of_descriptions members others
          simpa [shape, SchemaNode.description] using same
      | _ => cases type

theorem sameMembers_of_descriptions (left right : List (Text × Json))
    (same : SchemaNode.descriptions (shapes left) =
      SchemaNode.descriptions (shapes right)) :
    SameMembers left right := by
  cases left with
  | nil =>
      cases right with
      | nil => exact .nil
      | cons member rest => cases same
  | cons member rest =>
      cases right with
      | nil => cases same
      | cons other more =>
          rcases member with ⟨name, value⟩
          rcases other with ⟨otherName, otherValue⟩
          simp only [shapes, SchemaNode.descriptions, List.cons.injEq,
            Prod.mk.injEq] at same
          rcases same with ⟨⟨rfl, values⟩, later⟩
          exact .cons (sameShape_of_description value otherValue values)
            (sameMembers_of_descriptions rest more later)

end

/-! ## Descriptions -/

/-- The text of a schema with distinct names is read back as its document, pairs
of surrogates in names apart.  A text without surrogates has no such names, and
so the description of a body like this is always read back. -/
theorem descriptions_read_back :
    (∀ node : Schema, node.depth ≤ walkLimit → node.IsWellNamed →
      ∃ document text, node.document nofun = .ok document ∧
        node.text = .ok text ∧ parse text = .ok document) ∧
    ∀ (body : Text) (document : Json),
      (∀ point ∈ body, point.isSurrogate = false) →
      parse body = .ok document →
        (∀ value, Holds document value → value.Unpaired) ∧
        (document.depth ≤ walkLimit →
          ∃ schema description header,
            document.schema = .ok schema ∧
              schema.document nofun = .ok description ∧
              describe body = .ok header ∧
              parse header = .ok description) := by
  constructor
  · intro node shallow wellNamed
    exact ⟨node.description, node.description.print .header,
      SchemaNode.document_eq shallow, SchemaNode.text_eq shallow,
      SchemaNode.parse_text shallow wellNamed⟩
  · intro body document scalar parsed
    have taken := parse_eq_ok_iff.mp parsed
    have unpaired := unpaired_of_read taken scalar
    refine ⟨unpaired, ?_⟩
    intro shallow
    have within := (depth_shape_le document).trans shallow
    have wellNamed : document.shape.IsWellNamed :=
      isWellNamed_shape (distinctNames_of_read taken)
        fun name inside => unpaired name (Or.inr inside)
    exact ⟨document.shape, document.shape.description, _, schema_eq shallow,
      SchemaNode.document_eq within, describe_eq parsed shallow,
      SchemaNode.parse_text within wellNamed⟩

/-- A schema with a lone half of a pair in a name, before a character that is
escaped as a pair. -/
def emojiSchema : Schema :=
  .object [([CodePoint.ofNat 0xD83D, CodePoint.ofNat 0x1F600],
      .array (some (.object [([CodePoint.ofNat 0x1F600], .array none)]))),
    ([CodePoint.ofNat 0xDE00, CodePoint.ofNat 0xD83D], .primitive .null)]

/-- Its text is read back, and so is the description of this text. -/
theorem descriptions_read_back_emoji :
    ∃ text document, emojiSchema.document nofun = .ok document ∧
      emojiSchema.text = .ok text ∧ parse text = .ok document ∧
      (∀ point ∈ text, point.isSurrogate = false) ∧
      (∀ value, Holds document value → value.Unpaired) ∧
      ∃ schema description header,
        document.schema = .ok schema ∧
          schema.document nofun = .ok description ∧
          describe text = .ok header ∧ parse header = .ok description := by
  have wellNamed : emojiSchema.IsWellNamed := by
    simp only [emojiSchema, SchemaNode.IsWellNamed,
      SchemaNode.PropertiesWellNamed, Ordered.names]
    decide
  have shallow : emojiSchema.depth ≤ walkLimit := by decide
  rcases descriptions_read_back.1 emojiSchema shallow wellNamed with
    ⟨document, text, documented, shown, parsed⟩
  have sameText : text = emojiSchema.description.print .header :=
    Except.ok.inj (shown.symm.trans (SchemaNode.text_eq shallow))
  have sameDocument : document = emojiSchema.description :=
    Except.ok.inj (documented.symm.trans (SchemaNode.document_eq shallow))
  have scalar : ∀ point ∈ text, point.isSurrogate = false := by
    rw [sameText]
    decide +kernel
  have flat : document.depth ≤ walkLimit := by
    rw [sameDocument]
    decide
  rcases descriptions_read_back.2 text document scalar parsed with
    ⟨unpaired, described⟩
  exact ⟨text, document, documented, shown, parsed, scalar, unpaired,
    described flat⟩

/-- Bodies are described alike if their documents have the same shape, and only
then if no name has a pair of surrogates in it. -/
theorem describe_eq_iff_sameShape {leftBody rightBody : Text}
    {left right : Json} (leftParsed : parse leftBody = .ok left)
    (rightParsed : parse rightBody = .ok right)
    (leftShallow : left.depth ≤ walkLimit)
    (rightShallow : right.depth ≤ walkLimit) :
    ∃ leftHeader rightHeader,
      describe leftBody = .ok leftHeader ∧
        describe rightBody = .ok rightHeader ∧
        (SameShape left right → leftHeader = rightHeader) ∧
        ((∀ name, HasName left name ∨ HasName right name → name.Unpaired) →
          leftHeader = rightHeader → SameShape left right) := by
  refine ⟨_, _, describe_eq leftParsed leftShallow,
    describe_eq rightParsed rightShallow, ?_, ?_⟩
  · intro same
    rw [same.shape_eq]
  · intro unpaired same
    have leftNamed : left.shape.IsWellNamed :=
      isWellNamed_shape (distinctNames_of_read (parse_eq_ok_iff.mp leftParsed))
        fun name inside => unpaired name (Or.inl inside)
    have rightNamed : right.shape.IsWellNamed :=
      isWellNamed_shape (distinctNames_of_read (parse_eq_ok_iff.mp rightParsed))
        fun name inside => unpaired name (Or.inr inside)
    apply sameShape_of_description
    exact SchemaNode.description_eq_of_print_eq
      ((depth_shape_le left).trans leftShallow)
      ((depth_shape_le right).trans rightShallow) leftNamed rightNamed same

/-- A document with items and with names that look like those of a schema; one
of them has the halves of a pair in the wrong order. -/
def listing (items : List Json) : Json :=
  .object [("items", .array items), ("type", .object []),
    ([CodePoint.ofNat 0xDE00, CodePoint.ofNat 0xD83D], .null)]

theorem unpaired_of_hasName_listing {items : List Json}
    (plain : ∀ item ∈ items, ∀ name, ¬HasName item name) {name : Text}
    (inside : HasName (listing items) name) : name.Unpaired := by
  have scalar : ¬HasName .null name := by
    rintro ⟨_, ⟨⟩, _⟩
  simp only [listing, hasName_object_iff, hasName_array_iff, Ordered.names,
    List.map_cons, List.map_nil, List.mem_cons, List.not_mem_nil, or_false,
    exists_eq_or_imp, exists_eq_left, scalar, false_and, exists_false]
    at inside
  rcases inside with (rfl | rfl | rfl) | ⟨item, listed, inside⟩
  · decide
  · decide
  · decide
  · exact absurd inside (plain item listed name)

/-- Only the first item of an array is told in a description, and whether there
is one. -/
theorem describe_eq_iff_sameShape_listing :
    parse ((listing [.integer 1, .null]).print .compact) =
        .ok (listing [.integer 1, .null]) ∧
      parse ((listing [.integer (-20)]).print .compact) =
        .ok (listing [.integer (-20)]) ∧
      parse ((listing []).print .compact) = .ok (listing []) ∧
      ∃ header other,
        describe ((listing [.integer 1, .null]).print .compact) = .ok header ∧
          describe ((listing [.integer (-20)]).print .compact) = .ok header ∧
          describe ((listing []).print .compact) = .ok other ∧
          header ≠ other := by
  have scalar (value : Int) : ∀ name, ¬HasName (.integer value) name := by
    rintro name ⟨_, ⟨⟩, _⟩
  have nothing : ∀ name, ¬HasName .null name := by
    rintro name ⟨_, ⟨⟩, _⟩
  have one : IsExact (.integer 1) := by
    simp [IsExact, Decimal.ofNat, Decimal.digits, digitLimit]
  have other : IsExact (.integer (-20)) := by
    simp [IsExact, Decimal.ofNat, Decimal.digits, digitLimit]
  have parsed : parse ((listing [.integer 1, .null]).print .compact) =
      .ok (listing [.integer 1, .null]) :=
    parse_print ⟨⟨one, trivial, trivial⟩, trivial, trivial, trivial⟩
      (by decide) rfl
  have likeParsed : parse ((listing [.integer (-20)]).print .compact) =
      .ok (listing [.integer (-20)]) :=
    parse_print ⟨⟨other, trivial⟩, trivial, trivial, trivial⟩
      (by decide) rfl
  have emptyParsed : parse ((listing []).print .compact) = .ok (listing []) :=
    parse_print ⟨trivial, trivial, trivial, trivial⟩ (by decide) rfl
  rcases describe_eq_iff_sameShape parsed likeParsed (by decide) (by decide)
    with ⟨header, like, described, likeDescribed, alike, _⟩
  rcases describe_eq_iff_sameShape parsed emptyParsed (by decide) (by decide)
    with ⟨_, other, again, otherDescribed, _, apart⟩
  cases described.symm.trans again
  have same : SameShape (listing [.integer 1, .null])
      (listing [.integer (-20)]) :=
    .objects (.cons (.arrays (.numbers trivial trivial))
      (.cons (.objects .nil) (.cons .null .nil)))
  cases alike same
  refine ⟨parsed, likeParsed, emptyParsed, header, other, described,
    likeDescribed, otherDescribed, ?_⟩
  intro equal
  have names : ∀ name, HasName (listing [.integer 1, .null]) name ∨
      HasName (listing []) name → name.Unpaired := by
    rintro name (inside | inside)
    · apply unpaired_of_hasName_listing _ inside
      simp [scalar, nothing]
    · exact unpaired_of_hasName_listing (by simp) inside
  have shapes := (apart names equal).shape_eq
  simp [listing, shape, Json.shapes] at shapes

end Json

end ResponseService
