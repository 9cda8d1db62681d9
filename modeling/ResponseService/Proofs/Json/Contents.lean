import ResponseService.Proofs.Json.Reading
import ResponseService.Proofs.Json.Texts

/-!
# What is in a document that was read

`Within` relates a document to everything that stands in it.  The texts of a
document are its values of this kind (`Holds`) and the names of its members
(`HasName`).

A document that was read stands for a written one, and nothing is in it that is
not in the written one (`Within.of_settled`).  It names no member of an object
twice (`distinctNames_of_read`).  If no surrogate stands in the text that it
was read from, then none of its texts has a high surrogate directly before a
low one, however these were escaped (`unpaired_of_read`).
-/

namespace ResponseService.Json

/-- To show something of all documents, show it of a container whose parts have
it. -/
@[elab_as_elim]
theorem inductionOnParts {motive : Json → Prop}
    (null : motive .null)
    (boolean : ∀ value, motive (.boolean value))
    (integer : ∀ value, motive (.integer value))
    (float : ∀ value, motive (.float value))
    (text : ∀ value, motive (.text value))
    (array : ∀ items, (∀ item ∈ items, motive item) → motive (.array items))
    (object : ∀ members,
      (∀ member ∈ members, motive member.2) → motive (.object members))
    (document : Json) : motive document :=
  match document with
  | .null => null
  | .boolean value => boolean value
  | .integer value => integer value
  | .float value => float value
  | .text value => text value
  | .foreign value => value.elim
  | .array items =>
      array items fun item _ =>
        inductionOnParts null boolean integer float text array object item
  | .object members =>
      object members fun member _ =>
        inductionOnParts null boolean integer float text array object member.2
termination_by sizeOf document
decreasing_by
  · have smaller := List.sizeOf_lt_of_mem ‹_›
    simp only [Value.array.sizeOf_spec]
    omega
  · have smaller := List.sizeOf_lt_of_mem ‹_›
    rcases member with ⟨name, value⟩
    simp only [Prod.mk.sizeOf_spec, Value.object.sizeOf_spec] at smaller ⊢
    omega

/-! ## Parts of documents -/

/-- The second document stands in the first one, at any depth. -/
inductive Within : Json → Json → Prop where
  | self {document : Json} : Within document document
  | item {items : List Json} {item part : Json}
      (listed : item ∈ items) (inside : Within item part) :
      Within (.array items) part
  | value {members : List (Text × Json)} {member : Text × Json} {part : Json}
      (listed : member ∈ members) (inside : Within member.2 part) :
      Within (.object members) part

/-- The text is the name of a member somewhere in the document. -/
def HasName (document : Json) (name : Text) : Prop :=
  ∃ members, Within document (.object members) ∧ name ∈ Ordered.names members

/-- The text stands somewhere in the document, as a value or as a name. -/
def Holds (document : Json) (text : Text) : Prop :=
  Within document (.text text) ∨ HasName document text

/-- No object in the document has two members of one name. -/
def DistinctNames (document : Json) : Prop :=
  ∀ members, Within document (.object members) → (Ordered.names members).Nodup

theorem HasName.item {items : List Json} {item : Json} {name : Text}
    (listed : item ∈ items) (inside : HasName item name) :
    HasName (.array items) name := by
  rcases inside with ⟨members, within, member⟩
  exact ⟨members, .item listed within, member⟩

theorem HasName.value {members : List (Text × Json)} {member : Text × Json}
    {name : Text} (listed : member ∈ members) (inside : HasName member.2 name) :
    HasName (.object members) name := by
  rcases inside with ⟨inner, within, present⟩
  exact ⟨inner, .value listed within, present⟩

theorem hasName_array_iff {items : List Json} {name : Text} :
    HasName (.array items) name ↔ ∃ item ∈ items, HasName item name := by
  constructor
  · rintro ⟨members, within, named⟩
    cases within with
    | item listed inside => exact ⟨_, listed, members, inside, named⟩
  · rintro ⟨item, listed, inside⟩
    exact inside.item listed

theorem hasName_object_iff {members : List (Text × Json)} {name : Text} :
    HasName (.object members) name ↔
      name ∈ Ordered.names members ∨
        ∃ member ∈ members, HasName member.2 name := by
  constructor
  · rintro ⟨inner, within, named⟩
    cases within with
    | self => exact Or.inl named
    | value listed inside =>
        exact Or.inr ⟨_, listed, inner, inside, named⟩
  · rintro (named | ⟨member, listed, inside⟩)
    · exact ⟨members, .self, named⟩
    · exact inside.value listed

theorem DistinctNames.item {items : List Json} {item : Json}
    (distinct : DistinctNames (.array items)) (listed : item ∈ items) :
    DistinctNames item :=
  fun members within => distinct members (.item listed within)

theorem DistinctNames.value {members : List (Text × Json)}
    {member : Text × Json} (distinct : DistinctNames (.object members))
    (listed : member ∈ members) : DistinctNames member.2 :=
  fun inner within => distinct inner (.value listed within)

/-! ## Documents that written documents stand for -/

theorem settledItems_eq (items : List Json) :
    settledItems items = items.map settled := by
  induction items with
  | nil => rfl
  | cons item rest ih => rw [settledItems, ih, List.map_cons]

/-- Everything in the document that a written one stands for is what a part of
the written one stands for. -/
theorem Within.of_settled {tree part : Json} (inside : Within (settled tree) part) :
    ∃ written, Within tree written ∧ settled written = part := by
  induction tree using inductionOnParts generalizing part with
  | array items ih =>
      rw [settled, settledItems_eq] at inside
      cases inside with
      | self =>
          exact ⟨.array items, .self, by rw [settled, settledItems_eq]⟩
      | item listed inside =>
          rcases List.mem_map.mp listed with ⟨item, written, rfl⟩
          rcases ih item written inside with ⟨source, within, same⟩
          exact ⟨source, .item written within, same⟩
  | object members ih =>
      rw [settled_object] at inside
      cases inside with
      | self => exact ⟨.object members, .self, settled_object members⟩
      | value listed inside =>
          rcases List.mem_map.mp listed with ⟨member, counts, rfl⟩
          have written := Ordered.mem_of_mem_ofList counts
          rcases ih member written inside with ⟨source, within, same⟩
          exact ⟨source, .value written within, same⟩
  | _ =>
      cases inside
      exact ⟨_, .self, rfl⟩

theorem depthOfItems_le_iff {items : List Json} {bound : Nat} :
    Value.depthOfItems items ≤ bound ↔
      ∀ item ∈ items, Value.depth item ≤ bound := by
  induction items with
  | nil => simp [Value.depthOfItems]
  | cons item rest ih =>
      rw [Value.depthOfItems, Nat.max_le, ih, List.forall_mem_cons]

theorem depthOfMembers_le_iff {members : List (Text × Json)} {bound : Nat} :
    Value.depthOfMembers members ≤ bound ↔
      ∀ member ∈ members, Value.depth member.2 ≤ bound := by
  induction members with
  | nil => simp [Value.depthOfMembers]
  | cons member rest ih =>
      rw [Value.depthOfMembers, Nat.max_le, ih, List.forall_mem_cons]

/-- A document is no deeper than it is written. -/
theorem depth_settled_le (tree : Json) :
    Value.depth (settled tree) ≤ Value.depth tree := by
  induction tree using inductionOnParts with
  | array items ih =>
      rw [settled, settledItems_eq, Value.depth, Value.depth]
      refine Nat.succ_le_succ (depthOfItems_le_iff.mpr ?_)
      rw [List.forall_mem_map]
      intro item listed
      exact (ih item listed).trans
        (depthOfItems_le_iff.mp (Nat.le_refl _) item listed)
  | object members ih =>
      rw [settled_object, Value.depth, Value.depth]
      refine Nat.succ_le_succ (depthOfMembers_le_iff.mpr ?_)
      intro entry counts
      obtain ⟨member, written, rfl⟩ := List.mem_map.mp counts
      have listed := Ordered.mem_of_mem_ofList written
      exact (ih member listed).trans
        (depthOfMembers_le_iff.mp (Nat.le_refl _) member listed)
  | _ => exact Nat.le_refl _

theorem distinctNames_settled (tree : Json) : DistinctNames (settled tree) := by
  intro members inside
  rcases inside.of_settled with ⟨written, _, same⟩
  cases written with
  | object listed =>
      rw [settled_object, Value.object.injEq] at same
      rw [← same, names_mapEntries_id]
      exact Ordered.nodup_ofList listed
  | foreign value => exact value.elim
  | _ => cases same

/-- The texts of what a written document stands for are texts of the written
document. -/
theorem Holds.of_settled {tree : Json} {text : Text}
    (holds : Holds (settled tree) text) : Holds tree text := by
  rcases holds with value | ⟨members, inside, named⟩
  · rcases value.of_settled with ⟨written, within, same⟩
    cases written with
    | text value =>
        cases same
        exact Or.inl within
    | foreign value => exact value.elim
    | _ => cases same
  · rcases inside.of_settled with ⟨written, within, same⟩
    cases written with
    | object listed =>
        rw [settled_object, Value.object.injEq] at same
        rw [← same, names_mapEntries_id, Ordered.mem_names_ofList] at named
        exact Or.inr ⟨listed, within, named⟩
    | foreign value => exact value.elim
    | _ => cases same

/-! ## The tokens of a part -/

theorem lexemes_subset_laterItems {items : List Json} {item : Json}
    (listed : item ∈ items) : lexemes item ⊆ laterItems items := by
  induction items with
  | nil => cases listed
  | cons first rest ih =>
      intro token present
      rw [laterItems, List.mem_cons, List.mem_append]
      rcases List.mem_cons.mp listed with rfl | behind
      · exact Or.inr (Or.inl present)
      · exact Or.inr (Or.inr (ih behind present))

theorem lexemes_subset_itemLexemes {items : List Json} {item : Json}
    (listed : item ∈ items) : lexemes item ⊆ itemLexemes items := by
  cases items with
  | nil => cases listed
  | cons first rest =>
      intro token present
      rw [itemLexemes, List.mem_append]
      rcases List.mem_cons.mp listed with rfl | behind
      · exact Or.inl present
      · exact Or.inr (lexemes_subset_laterItems behind present)

theorem lexemes_subset_laterMembers {members : List (Text × Json)}
    {member : Text × Json} (listed : member ∈ members) :
    .text member.1 :: lexemes member.2 ⊆ laterMembers members := by
  induction members with
  | nil => cases listed
  | cons first rest ih =>
      rcases first with ⟨name, value⟩
      intro token present
      rw [laterMembers]
      rcases List.mem_cons.mp listed with rfl | behind
      · rcases List.mem_cons.mp present with rfl | inside
        · simp
        · simp [inside]
      · simp [ih behind present]

theorem lexemes_subset_memberLexemes {members : List (Text × Json)}
    {member : Text × Json} (listed : member ∈ members) :
    .text member.1 :: lexemes member.2 ⊆ memberLexemes members := by
  cases members with
  | nil => cases listed
  | cons first rest =>
      rcases first with ⟨name, value⟩
      intro token present
      rw [memberLexemes]
      rcases List.mem_cons.mp listed with rfl | behind
      · rcases List.mem_cons.mp present with rfl | inside
        · simp
        · simp [inside]
      · simp [lexemes_subset_laterMembers behind present]

theorem Within.lexemes_subset {document part : Json}
    (inside : Within document part) : lexemes part ⊆ lexemes document := by
  induction inside with
  | self => exact List.Subset.refl _
  | item listed _ ih =>
      intro token present
      rw [lexemes_array]
      have among := lexemes_subset_itemLexemes listed (ih present)
      simp [among]
  | value listed _ ih =>
      intro token present
      rw [lexemes_object]
      have among := lexemes_subset_memberLexemes listed
        (List.mem_cons_of_mem _ (ih present))
      simp [among]

/-- Every text of a document is one of its tokens. -/
theorem Holds.mem_lexemes {document : Json} {text : Text}
    (holds : Holds document text) : .text text ∈ lexemes document := by
  rcases holds with value | ⟨members, inside, named⟩
  · exact value.lexemes_subset (by simp [lexemes])
  · apply inside.lexemes_subset
    rcases List.mem_map.mp named with ⟨member, listed, rfl⟩
    have among := lexemes_subset_memberLexemes listed List.mem_cons_self
    rw [lexemes_object]
    simp [among]

/-! ## Texts without surrogates -/

theorem UnitsSpelled.escapesSurrogate {units : List TextUnit} {inside : Text}
    (spelled : UnitsSpelled units inside)
    (scalar : ∀ point ∈ inside, point.isSurrogate = false) :
    ∀ unit ∈ units, unit.EscapesSurrogate := by
  induction spelled with
  | nil => simp
  | @cons unit units spelling rest head tail ih =>
      intro other member
      rcases List.mem_cons.mp member with rfl | later
      · cases head with
        | @plain point visible noQuote noBackslash =>
            exact TextUnit.escapesSurrogate_of_scalar (scalar point (by simp))
        | shorthand named => exact nofun
        | numbered digits => exact nofun
      · exact ih (fun point inside => scalar point (by simp [inside])) other
          later

/-- A quotation without surrogates stands for a text without pairs: the escapes
of a pair stand for one character. -/
theorem unpaired_of_spelled {value spelling : Text}
    (spelled : (Token.text value).Spelled spelling)
    (scalar : ∀ point ∈ spelling, point.isSurrogate = false) :
    value.Unpaired := by
  rcases exists_units_of_spelled spelled with ⟨units, inside, rfl, inner, rfl⟩
  rw [joinUnits_of_escaped (inner.escapesSurrogate
    fun point member => scalar point (by simp [member]))]
  exact Text.unpaired_joinPairs _

theorem Lexes.unpaired {text : Text} {tokens : List Token}
    (lexes : Lexes text tokens)
    (scalar : ∀ point ∈ text, point.isSurrogate = false) :
    ∀ value, .text value ∈ tokens → value.Unpaired := by
  induction lexes with
  | nil => simp
  | blank _ _ ih => exact ih fun point member => scalar point (by simp [member])
  | token head _ ih =>
      intro value member
      rcases List.mem_cons.mp member with here | later
      · rw [← here] at head
        exact unpaired_of_spelled head
          fun point inside => scalar point (by simp [inside])
      · exact ih (fun point inside => scalar point (by simp [inside])) value later

/-! ## Documents that were read -/

theorem distinctNames_of_read {text : Text} {document : Json}
    (taken : read text = .ok document) : DistinctNames document := by
  rcases read_eq_ok_iff.mp taken with ⟨tree, _, _, rfl⟩
  exact distinctNames_settled tree

theorem unpaired_of_read {text : Text} {document : Json}
    (taken : read text = .ok document)
    (scalar : ∀ point ∈ text, point.isSurrogate = false) :
    ∀ value, Holds document value → value.Unpaired := by
  intro value holds
  rcases read_eq_ok_iff.mp taken with ⟨tree, lexes, _, rfl⟩
  exact lexes.unpaired scalar value holds.of_settled.mem_lexemes

end ResponseService.Json
