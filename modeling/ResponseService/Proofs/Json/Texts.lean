import ResponseService.Proofs.Json.Grammar

/-!
# The texts and the names of a document

`mapTexts` changes every text of a document, member names among them.  The
tokens of the changed document are the changed tokens (`lexemes_mapTexts`), and
it is nested as deeply as before.

What a written document stands for may be changed instead of the document
itself, as long as no two names of one object become equal
(`settled_mapTexts`).  Objects that are replaced by a later member of the same
name do not count: their names may fall together.
-/

namespace ResponseService.Json

mutual

/-- Change every text of a document, the names of members among them. -/
def mapTexts (change : Text → Text) : Json → Json
  | .text value => .text (change value)
  | .array items => .array (mapItems change items)
  | .object members => .object (mapMembers change members)
  | value => value

/-- Change every text of some items. -/
def mapItems (change : Text → Text) : List Json → List Json
  | [] => []
  | item :: rest => mapTexts change item :: mapItems change rest

/-- Change every text of some members. -/
def mapMembers (change : Text → Text) :
    List (Text × Json) → List (Text × Json)
  | [] => []
  | (name, value) :: rest =>
      (change name, mapTexts change value) :: mapMembers change rest

end

/-- The same token with its text changed. -/
def Token.mapText (change : Text → Text) : Token → Token
  | .text value => .text (change value)
  | token => token

mutual

theorem mapTexts_id (document : Json) : mapTexts id document = document := by
  cases document with
  | array items => rw [mapTexts, mapItems_id items]
  | object members => rw [mapTexts, mapMembers_id members]
  | _ => exact mapTexts.eq_def _ _

theorem mapItems_id (items : List Json) : mapItems id items = items := by
  cases items with
  | nil => rfl
  | cons item rest => rw [mapItems, mapTexts_id item, mapItems_id rest]

theorem mapMembers_id (members : List (Text × Json)) :
    mapMembers id members = members := by
  cases members with
  | nil => rfl
  | cons member rest =>
      rcases member with ⟨name, value⟩
      rw [mapMembers, mapTexts_id value, mapMembers_id rest]
      rfl

end

section Changing

variable (change : Text → Text)

mutual

theorem depth_mapTexts (document : Json) :
    Value.depth (mapTexts change document) = Value.depth document := by
  cases document with
  | array items =>
      rw [mapTexts, Value.depth, Value.depth, depthOfItems_mapItems items]
  | object members =>
      rw [mapTexts, Value.depth, Value.depth, depthOfMembers_mapMembers members]
  | _ => rfl

theorem depthOfItems_mapItems (items : List Json) :
    Value.depthOfItems (mapItems change items) = Value.depthOfItems items := by
  cases items with
  | nil => rfl
  | cons item rest =>
      rw [mapItems, Value.depthOfItems, Value.depthOfItems,
        depth_mapTexts item, depthOfItems_mapItems rest]

theorem depthOfMembers_mapMembers (members : List (Text × Json)) :
    Value.depthOfMembers (mapMembers change members) =
      Value.depthOfMembers members := by
  cases members with
  | nil => rfl
  | cons member rest =>
      rcases member with ⟨name, value⟩
      rw [mapMembers, Value.depthOfMembers, Value.depthOfMembers,
        depth_mapTexts value, depthOfMembers_mapMembers rest]

end

mutual

theorem lexemes_mapTexts (document : Json) :
    lexemes (mapTexts change document) =
      (lexemes document).map (Token.mapText change) := by
  cases document with
  | array items =>
      cases items with
      | nil => rfl
      | cons item rest =>
          rw [mapTexts, mapItems, lexemes, lexemes, lexemes_mapTexts item,
            laterItems_mapItems rest]
          simp [Token.mapText]
  | object members =>
      cases members with
      | nil => rfl
      | cons member rest =>
          rcases member with ⟨name, value⟩
          rw [mapTexts, mapMembers, lexemes, lexemes, lexemes_mapTexts value,
            laterMembers_mapMembers rest]
          simp [Token.mapText]
  | _ => rfl

theorem laterItems_mapItems (items : List Json) :
    laterItems (mapItems change items) =
      (laterItems items).map (Token.mapText change) := by
  cases items with
  | nil => rfl
  | cons item rest =>
      rw [mapItems, laterItems, laterItems, lexemes_mapTexts item,
        laterItems_mapItems rest]
      simp [Token.mapText]

theorem laterMembers_mapMembers (members : List (Text × Json)) :
    laterMembers (mapMembers change members) =
      (laterMembers members).map (Token.mapText change) := by
  cases members with
  | nil => rfl
  | cons member rest =>
      rcases member with ⟨name, value⟩
      rw [mapMembers, laterMembers, laterMembers, lexemes_mapTexts value,
        laterMembers_mapMembers rest]
      simp [Token.mapText]

end

end Changing

/-! ## What a changed document stands for -/

mutual

/-- In no object of the document do two different names become equal. -/
def NamesApart (change : Text → Text) : Json → Prop
  | .array items => ItemsApart change items
  | .object members =>
      Ordered.KeepsApart change (Ordered.names members) ∧
        MembersApart change members
  | _ => True

/-- In no object of the items do two different names become equal. -/
def ItemsApart (change : Text → Text) : List Json → Prop
  | [] => True
  | item :: rest => NamesApart change item ∧ ItemsApart change rest

/-- In no object among the values of the members do two different names become
equal. -/
def MembersApart (change : Text → Text) : List (Text × Json) → Prop
  | [] => True
  | (_, value) :: rest => NamesApart change value ∧ MembersApart change rest

end

section Settling

variable {change : Text → Text}

theorem MembersApart.of_mem {members : List (Text × Json)}
    (apart : MembersApart change members) {entry : Text × Json}
    (member : entry ∈ members) : NamesApart change entry.2 := by
  induction members with
  | nil => cases member
  | cons first rest ih =>
      cases member with
      | head => exact apart.1
      | tail _ later => exact ih apart.2 later

theorem mapMembers_eq (members : List (Text × Json)) :
    mapMembers change members =
      Ordered.mapEntries change (mapTexts change) members := by
  induction members with
  | nil => rfl
  | cons member rest ih =>
      rw [mapMembers, ih]
      rfl

theorem settledMembers_eq (members : List (Text × Json)) :
    settledMembers members = Ordered.mapEntries id settled members := by
  induction members with
  | nil => rfl
  | cons member rest ih =>
      rw [settledMembers, ih]
      rfl

/-- Members of one name count once, whether their values are settled before or
after. -/
theorem settled_object (members : List (Text × Json)) :
    settled (.object members) =
      .object (Ordered.mapEntries id settled (Ordered.ofList members)) := by
  rw [settled, settledMembers_eq, Ordered.ofList_mapEntries]
  exact Ordered.keepsApart_id _

theorem names_mapEntries_id (entries : List (Text × Json)) :
    Ordered.names (Ordered.mapEntries id settled entries) =
      Ordered.names entries := by
  simp [Ordered.names, Ordered.mapEntries]

mutual

/-- What a document stands for may be changed instead of the document, as long
as no names of it fall together. -/
theorem settled_mapTexts (tree : Json)
    (apart : NamesApart change (settled tree)) :
    settled (mapTexts change tree) = mapTexts change (settled tree) := by
  cases tree with
  | array items =>
      rw [mapTexts, settled, settled, mapTexts,
        settledItems_mapItems items apart]
  | object members =>
      rw [settled_object] at apart
      rcases apart with ⟨names, values⟩
      rw [names_mapEntries_id] at names
      have listed : Ordered.KeepsApart change (Ordered.names members) :=
        names.subset fun name => Ordered.mem_names_ofList.mpr
      -- Only the members that count have values with names apart.
      have alike : ∀ entry ∈ Ordered.ofList members,
          settled (mapTexts change entry.2) =
            mapTexts change (settled entry.2) := by
        intro entry counts
        apply settled_mapTexts_of_mem members entry
          (Ordered.mem_of_mem_ofList counts)
        exact values.of_mem (List.mem_map_of_mem counts)
      rw [mapTexts, mapMembers_eq, settled_object,
        Ordered.ofList_mapEntries listed, settled_object, mapTexts,
        mapMembers_eq]
      simp only [Ordered.mapEntries, List.map_map]
      refine congrArg _ (List.map_congr_left fun entry counts => ?_)
      exact Prod.ext rfl (alike entry counts)
  | _ => rfl

theorem settledItems_mapItems (items : List Json)
    (apart : ItemsApart change (settledItems items)) :
    settledItems (mapItems change items) =
      mapItems change (settledItems items) := by
  cases items with
  | nil => rfl
  | cons item rest =>
      rw [mapItems, settledItems, settledItems, mapItems,
        settled_mapTexts item apart.1, settledItems_mapItems rest apart.2]

theorem settled_mapTexts_of_mem (members : List (Text × Json)) :
    ∀ entry ∈ members, NamesApart change (settled entry.2) →
      settled (mapTexts change entry.2) =
        mapTexts change (settled entry.2) := by
  cases members with
  | nil => simp
  | cons first rest =>
      rcases first with ⟨name, value⟩
      intro entry member apart
      rcases List.mem_cons.mp member with here | later
      · subst here
        exact settled_mapTexts value apart
      · exact settled_mapTexts_of_mem rest entry later apart

end

end Settling

end ResponseService.Json
