import ResponseService.Proofs.Response.Buffered
import ResponseService.Proofs.Response.Received

/-!
# Schemas as field values

A field value consists of stretches that begin and end with a visible
character, and may hold blanks in between (`FieldValue`).  No control character
stands in it, and so it cannot end its line and begin another field.

The description of a body is such a value, whatever stands in the names of the
body: outside of quotations it is written in visible characters, and within
them all others are escaped (`isFieldValue_of_describe`).
-/

namespace ResponseService

/-! ## Field values -/

namespace CodePoint

/-- A character that stands in a field value as itself: a visible one of ASCII,
or an octet past ASCII. -/
def IsFieldVisible (point : CodePoint) : Prop :=
  0x21 ≤ point.value ∧ point.value ≤ 0x7E ∨
    0x80 ≤ point.value ∧ point.value ≤ 0xFF

/-- A space or a tab. -/
def IsFieldBlank (point : CodePoint) : Prop :=
  point.value = 0x20 ∨ point.value = 0x09

theorem IsVisible.field {point : CodePoint} (visible : point.IsVisible) :
    point.IsFieldBlank ∨ point.IsFieldVisible := by
  unfold IsVisible at visible
  unfold IsFieldBlank IsFieldVisible
  omega

end CodePoint

/-- One visible character, or several between which anything but a control
character may stand. -/
inductive FieldContent : Text → Prop where
  | single {point : CodePoint} (visible : point.IsFieldVisible) :
      FieldContent [point]
  | stretch {first last : CodePoint} {between : Text}
      (opening : first.IsFieldVisible)
      (more : between ≠ [])
      (allowed : ∀ point ∈ between, point.IsFieldBlank ∨ point.IsFieldVisible)
      (ending : last.IsFieldVisible) :
      FieldContent (first :: (between ++ [last]))

/-- The values that the field of a header may have. -/
inductive FieldValue : Text → Prop where
  | nil : FieldValue []
  | cons {content rest : Text}
      (head : FieldContent content)
      (tail : FieldValue rest) :
      FieldValue (content ++ rest)

theorem FieldContent.fieldValue {content : Text}
    (held : FieldContent content) : FieldValue content := by
  have alone := FieldValue.cons held .nil
  rwa [List.append_nil] at alone

/-- Visible characters and spaces are a field value if no space stands at the
ends. -/
theorem fieldValue_of_isVisible {first last : CodePoint} {between : Text}
    (opening : first.IsFieldVisible) (visible : between.IsVisible)
    (ending : last.IsFieldVisible) :
    FieldValue (first :: (between ++ [last])) := by
  by_cases more : between = []
  · subst more
    have behind := (FieldContent.single ending).fieldValue
    exact .cons (.single opening) behind
  · have stretch := FieldContent.stretch opening more
      (fun point member => (visible point member).field) ending
    exact stretch.fieldValue

/-! ## The text of a schema -/

theorem SchemaNode.exists_members {Foreign : Type} {limit : Nat}
    {node : SchemaNode Foreign} {document : Json}
    (known : node.toDocumentWithin limit = .ok document) :
    ∃ members, document = .object members := by
  cases node with
  | primitive type =>
      cases known
      exact ⟨_, rfl⟩
  | foreign value => cases known
  | array items =>
      cases items with
      | none =>
          cases known
          exact ⟨_, rfl⟩
      | some items =>
          cases limit with
          | zero => cases known
          | succ limit =>
              rw [toDocumentWithin] at known
              cases inner : toDocumentWithin limit items with
              | error error => simp [inner, Except.map] at known
              | ok item =>
                  rw [inner] at known
                  cases known
                  exact ⟨_, rfl⟩
  | object properties =>
      cases limit with
      | zero => cases known
      | succ limit =>
          rw [toDocumentWithin] at known
          cases inner : propertiesWithin limit properties with
          | error error => simp [inner, Except.map] at known
          | ok members =>
              rw [inner] at known
              cases known
              exact ⟨_, rfl⟩

/-- A description stands between braces. -/
theorem exists_inside_of_describe {body schema : Text}
    (described : describe body = .ok schema) :
    ∃ inside : Text,
      schema = CodePoint.ofChar '\x7b' :: (inside ++ [CodePoint.ofChar '\x7d']) := by
  rw [describe] at described
  split at described
  · cases described
  · split at described
    · cases described
    · next node _ =>
        rw [Schema.text, SchemaNode.render] at described
        split at described
        · next document known =>
            cases described
            obtain ⟨members, rfl⟩ := SchemaNode.exists_members known
            exact ⟨Json.printMembers .header members, rfl⟩
        · cases described
        · cases described

/-- What is handed to a sink as the schema of a body is its description. -/
theorem ResponseWriter.described_of_offered {State : Type}
    {writer : ResponseWriter} {sink : Sink State} {state : State}
    {status : Int} {format : ResponseFormat} {body value : Text}
    (offered : value ∈ Delivery.headerValues HeaderName.jsonSchema
      (writer.write sink state status format body).delivery.offered) :
    describe body = .ok value := by
  cases known : schema? format body with
  | error fault =>
      rw [write_of_undescribed known] at offered
      cases offered
  | ok schema =>
      have part : (writer.write sink state status format body).delivery.offered <+:
          writer.emissionsWith status format schema (payload body) :=
        offered_isPrefix_of_schema known
      have member := (part.filterMap _).subset offered
      rw [← Delivery.headerValues, headerValues_emissionsWith] at member
      rcases schema?_eq_ok_iff.mp known with
        ⟨text, _, described, rfl⟩ | ⟨_, rfl⟩
      · rwa [List.mem_singleton.mp member]
      · cases member

/-! ## Legal headers -/

/-- A description consists of visible characters of ASCII and blanks, it is a
field value, and it is sent as it is.  It is what any sink is handed as the
schema of the body. -/
theorem isFieldValue_of_describe {body schema : Text}
    (described : describe body = .ok schema) :
    (∀ point ∈ schema,
      0x21 ≤ point.value ∧ point.value ≤ 0x7E ∨ point.value = 0x20 ∨
        point.value = 0x09) ∧
      FieldValue schema ∧
      Latin1.encode? schema = .ok schema ∧
      ∀ (State : Type) (sink : Sink State) (state : State)
        (writer : ResponseWriter) (status : Int) (format : ResponseFormat),
        ∀ value ∈ Delivery.headerValues HeaderName.jsonSchema
            (writer.write sink state status format body).delivery.offered,
          value = schema := by
  have visible := ResponseWriter.isVisible_of_describe described
  refine ⟨?_, ?_, Text.encode?_of_isLatin1 visible.isAscii.isLatin1, ?_⟩
  · intro point member
    have bounds := visible point member
    unfold CodePoint.IsVisible at bounds
    omega
  · obtain ⟨inside, rfl⟩ := exists_inside_of_describe described
    have inner : Text.IsVisible inside :=
      visible.subset fun point member =>
        List.mem_cons_of_mem _ (List.mem_append_left _ member)
    exact fieldValue_of_isVisible (Or.inl (by decide)) inner
      (Or.inl (by decide))
  · intro State sink state writer status format value offered
    have same := ResponseWriter.described_of_offered offered
    rw [described] at same
    exact (Except.ok.inj same).symm

/-- A name with a line end, what looks like a field behind it, a quote, a
backslash, a letter past ASCII and half a pair of surrogates. -/
def hostileBody : Text :=
  "\x7b\"\\r\\nX-Key: 1\\\"\\\\é\\ud800\": [true]\x7d"

/-- All of it is escaped in the description. -/
def hostileSchema : Text :=
  "\x7b\"type\":\"object\",\"properties\":\x7b" ++
    "\"\\r\\nX-Key: 1\\\"\\\\\\u00e9\\ud800\":" ++
    "\x7b\"type\":\"array\",\"items\":[\x7b\"type\":\"boolean\"\x7d]\x7d\x7d\x7d"

theorem isFieldValue_of_describe_hostile :
    describe hostileBody = .ok hostileSchema ∧ FieldValue hostileSchema := by
  have described : describe hostileBody = .ok hostileSchema := by
    have known : (describe hostileBody).toOption = some hostileSchema := by
      decide +kernel
    cases result : describe hostileBody with
    | error fault =>
        rw [result] at known
        cases known
    | ok schema =>
        rw [result] at known
        rw [Option.some.inj known]
  exact ⟨described, (isFieldValue_of_describe described).2.1⟩

end ResponseService
