import ResponseService.Envelope
import ResponseService.Proofs.Schema.Naming

/-!
# Envelopes and their descriptions

The envelopes of successes and errors are labelled texts behind the version of
the format (`labelled`).  Such a document is printed as a text that is read
back as itself, whatever its texts are (`parse_labelled`), and as itself with
the pairs of surrogates joined if the surrogates are escaped on the way
(`parse_escaped_labelled`).

It is described by its names (`describe_labelled`).  So all successes have one
description, and so have all errors with a message and all errors without one
(`describe_success`, `describe_error`).
-/

namespace ResponseService

namespace Envelope

/-! ## Labelled texts -/

/-- The members of an envelope behind the version. -/
def textMembers (entries : List (Text × Text)) : List (Text × Json) :=
  Ordered.mapEntries id Value.text entries

/-- An envelope with some texts behind their names. -/
def labelled (entries : List (Text × Text)) : Json :=
  .object ((versionName, .integer formatVersion) :: textMembers entries)

/-- The texts of a success. -/
def successEntries (message : Text) : List (Text × Text) :=
  [(messageName, message)]

/-- The texts of an error. -/
def errorEntries (trace : Text) (errorMessage : Option Text) :
    List (Text × Text) :=
  (stackTraceName, trace) ::
    (errorMessage.map (Prod.mk errorMessageName)).toList

theorem success_eq_labelled (message : Text) :
    success message = labelled (successEntries message) := rfl

theorem error_eq_labelled (trace : Text) (errorMessage : Option Text) :
    error trace errorMessage = labelled (errorEntries trace errorMessage) := by
  cases errorMessage <;> rfl

/-- The names are distinct, also from that of the version, and have no pairs of
surrogates in them. -/
structure IsLabelling (names : List Text) : Prop where
  distinct : (versionName :: names).Nodup
  joined : ∀ name ∈ versionName :: names, name.joinPairs = name

theorem isLabelling_success (message : Text) :
    IsLabelling (Ordered.names (successEntries message)) := by
  suffices IsLabelling [messageName] from this
  constructor <;> decide

theorem isLabelling_error (trace : Text) (errorMessage : Option Text) :
    IsLabelling (Ordered.names (errorEntries trace errorMessage)) := by
  cases errorMessage with
  | none =>
      suffices IsLabelling [stackTraceName] from this
      constructor <;> decide
  | some message =>
      suffices IsLabelling [stackTraceName, errorMessageName] from this
      constructor <;> decide

/-! ## Labelled texts are read back -/

theorem names_members (entries : List (Text × Text)) :
    Ordered.names ((versionName, .integer formatVersion) ::
      textMembers entries) = versionName :: Ordered.names entries := by
  simp [Ordered.names, textMembers, Ordered.mapEntries]

theorem membersExact_textMembers (entries : List (Text × Text)) :
    Json.MembersExact (textMembers entries) := by
  induction entries with
  | nil => trivial
  | cons entry rest ih => exact ⟨trivial, ih⟩

theorem depthOfMembers_textMembers (entries : List (Text × Text)) :
    Value.depthOfMembers (textMembers entries) = 0 := by
  induction entries with
  | nil => rfl
  | cons entry rest ih => exact (Nat.zero_max _).trans ih

theorem settledMembers_textMembers (entries : List (Text × Text)) :
    Json.settledMembers (textMembers entries) = textMembers entries := by
  induction entries with
  | nil => rfl
  | cons entry rest ih => exact congrArg (List.cons _) ih

theorem membersApart_textMembers (entries : List (Text × Text)) :
    Json.MembersApart Text.joinPairs (textMembers entries) := by
  induction entries with
  | nil => trivial
  | cons entry rest ih => exact ⟨trivial, ih⟩

variable {entries : List (Text × Text)}

theorem isExact_labelled (entries : List (Text × Text)) :
    Json.IsExact (labelled entries) := by
  refine ⟨?_, membersExact_textMembers entries⟩
  simp [Json.IsExact, Decimal.ofNat, Decimal.digits, formatVersion,
    Json.digitLimit]

theorem depth_labelled (entries : List (Text × Text)) :
    Value.depth (labelled entries) = 1 := by
  rw [labelled, Value.depth, Value.depthOfMembers,
    depthOfMembers_textMembers]
  rfl

theorem settled_labelled (labels : IsLabelling (Ordered.names entries)) :
    Json.settled (labelled entries) = labelled entries := by
  have members : Json.settledMembers
      ((versionName, .integer formatVersion) :: textMembers entries) =
        (versionName, .integer formatVersion) :: textMembers entries :=
    congrArg (List.cons _) (settledMembers_textMembers entries)
  have distinct := labels.distinct
  rw [← names_members] at distinct
  rw [labelled, Json.settled, members, Ordered.ofList_of_nodup distinct]

theorem parse_labelled (labels : IsLabelling (Ordered.names entries)) :
    Json.parse ((labelled entries).print .compact) = .ok (labelled entries) := by
  have shallow : Value.depth (labelled entries) ≤ Json.depthLimit := by
    rw [depth_labelled]
    decide
  rw [Json.parse_eq_ok_iff,
    Json.read_print Json.Format.compact_recovers (isExact_labelled entries)
      shallow,
    Json.mapTexts_id, settled_labelled labels]

theorem mapTexts_labelled (labels : IsLabelling (Ordered.names entries)) :
    Json.mapTexts Text.joinPairs (labelled entries) =
      labelled (Ordered.mapEntries id Text.joinPairs entries) := by
  have version := labels.joined versionName (by simp)
  have texts : Ordered.mapEntries Text.joinPairs (Json.mapTexts Text.joinPairs)
      (textMembers entries) =
        textMembers (Ordered.mapEntries id Text.joinPairs entries) := by
    simp only [textMembers, Ordered.mapEntries, List.map_map]
    refine List.map_congr_left fun entry member => ?_
    have name := labels.joined entry.1
      (List.mem_cons_of_mem _ (List.mem_map_of_mem member))
    exact Prod.ext name rfl
  rw [labelled, Json.mapTexts, Json.mapMembers, Json.mapMembers_eq, texts,
    version]
  rfl

theorem namesApart_labelled (labels : IsLabelling (Ordered.names entries)) :
    Json.NamesApart Text.joinPairs (labelled entries) := by
  refine ⟨?_, trivial, membersApart_textMembers entries⟩
  intro left leftMember right rightMember same
  rw [names_members] at leftMember rightMember
  rwa [labels.joined left leftMember, labels.joined right rightMember] at same

/-- With its surrogates escaped, an envelope is read back with the pairs in its
texts joined. -/
theorem parse_escaped_labelled (labels : IsLabelling (Ordered.names entries)) :
    Json.parse ((labelled entries).print .compact).escapeSurrogates =
      .ok (labelled (Ordered.mapEntries id Text.joinPairs entries)) := by
  have parsed := parse_labelled labels
  rw [Json.parse_eq_ok_iff] at parsed ⊢
  rw [Json.read_escapeSurrogates parsed (namesApart_labelled labels),
    mapTexts_labelled labels]

/-! ## The description of labelled texts -/

/-- The schema of labelled texts. -/
def labelledSchema (names : List Text) : Schema :=
  .object ((versionName, .primitive .number) ::
    names.map fun name => (name, .primitive .string))

/-- The document that describes a scalar. -/
def scalarDescription (type : SchemaType) : Json :=
  .object [("type", .text type.name)]

/-- The document that describes labelled texts. -/
def description (names : List Text) : Json :=
  .object [("type", .text SchemaType.object.name),
    ("properties",
      .object ((versionName, scalarDescription .number) ::
        names.map fun name => (name, scalarDescription .string)))]

theorem inferMembers_textMembers (limit : Nat) (entries : List (Text × Text)) :
    Value.inferMembers limit (textMembers entries) =
      .ok ((Ordered.names entries).map fun name =>
        (name, .primitive .string)) := by
  induction entries with
  | nil => rfl
  | cons entry rest ih =>
      have step : Value.inferMembers limit (textMembers (entry :: rest)) =
          (Value.inferMembers limit (textMembers rest)).map
            fun others => (entry.1, .primitive .string) :: others := rfl
      rw [step, ih]
      rfl

theorem propertiesWithin_strings (limit : Nat) (names : List Text) :
    SchemaNode.propertiesWithin limit
        (names.map fun name =>
          (name, (.primitive .string : SchemaNode Empty))) =
      .ok (names.map fun name => (name, scalarDescription .string)) := by
  induction names with
  | nil => rfl
  | cons name rest ih =>
      simp only [List.map_cons, SchemaNode.propertiesWithin,
        SchemaNode.toDocumentWithin, ih, Except.map]
      rfl

theorem schema_labelled (entries : List (Text × Text)) :
    (labelled entries).schema =
      .ok (labelledSchema (Ordered.names entries)) := by
  have step : (labelled entries).infer =
      ((Value.inferMembers (walkLimit - 1) (textMembers entries)).map
        fun others => (versionName, .primitive .number) :: others).map
          .object := rfl
  rw [Json.schema, step, inferMembers_textMembers]
  rfl

theorem text_labelledSchema (names : List Text) :
    (labelledSchema names).text = .ok ((description names).print .header) := by
  have step : (labelledSchema names).toDocument =
      ((SchemaNode.propertiesWithin (walkLimit - 1) (names.map fun name =>
          (name, (.primitive .string : SchemaNode Empty)))).map
        fun others => (versionName, scalarDescription .number) :: others).map
          fun members => .object [("type", .text SchemaType.object.name),
            ("properties", .object members)] := rfl
  rw [propertiesWithin_strings] at step
  simp only [Schema.text, SchemaNode.render, step, Except.map]
  rfl

/-- Labelled texts are described by their names, whatever the texts are. -/
theorem describe_labelled (labels : IsLabelling (Ordered.names entries)) :
    describe ((labelled entries).print .compact) =
      .ok ((description (Ordered.names entries)).print .header) := by
  rw [describe_of_parse (parse_labelled labels), schema_labelled]
  exact text_labelledSchema _

/-! ## The two envelopes -/

theorem parse_escaped_success (message : Text) :
    Json.parse (successText message).escapeSurrogates =
      .ok (success message.joinPairs) := by
  rw [successText, success_eq_labelled, success_eq_labelled]
  exact parse_escaped_labelled (isLabelling_success message)

theorem parse_escaped_error (trace : Text) (errorMessage : Option Text) :
    Json.parse ((error trace errorMessage).print .compact).escapeSurrogates =
      .ok (error trace.joinPairs (errorMessage.map Text.joinPairs)) := by
  rw [error_eq_labelled,
    parse_escaped_labelled (isLabelling_error trace errorMessage),
    error_eq_labelled]
  cases errorMessage <;> rfl

/-- The schema of every success. -/
def successSchema : Text :=
  "\x7b\"type\":\"object\",\"properties\":\x7b" ++
    "\"version\":\x7b\"type\":\"number\"\x7d," ++
    "\"message\":\x7b\"type\":\"string\"\x7d\x7d\x7d"

/-- The schema of every error, without or with a message. -/
def errorSchema : Option Text → Text
  | none =>
      "\x7b\"type\":\"object\",\"properties\":\x7b" ++
        "\"version\":\x7b\"type\":\"number\"\x7d," ++
        "\"stackTrace\":\x7b\"type\":\"string\"\x7d\x7d\x7d"
  | some _ =>
      "\x7b\"type\":\"object\",\"properties\":\x7b" ++
        "\"version\":\x7b\"type\":\"number\"\x7d," ++
        "\"stackTrace\":\x7b\"type\":\"string\"\x7d," ++
        "\"errorMessage\":\x7b\"type\":\"string\"\x7d\x7d\x7d"

/-- No text of a success has a part in its description. -/
theorem describe_success (message : Text) :
    describe (successText message) = .ok successSchema := by
  have printed : (description [messageName]).print .header = successSchema := by
    decide +kernel
  rw [successText, success_eq_labelled,
    describe_labelled (isLabelling_success message)]
  exact congrArg Except.ok printed

/-- No text of an error has a part in its description. -/
theorem describe_error (trace : Text) (errorMessage : Option Text) :
    describe ((error trace errorMessage).print .compact) =
      .ok (errorSchema errorMessage) := by
  rw [error_eq_labelled,
    describe_labelled (isLabelling_error trace errorMessage)]
  cases errorMessage with
  | none =>
      have printed : (description [stackTraceName]).print .header =
          errorSchema none := by
        decide +kernel
      exact congrArg Except.ok printed
  | some message =>
      have printed :
          (description [stackTraceName, errorMessageName]).print .header =
            errorSchema (some []) := by
        decide +kernel
      exact congrArg Except.ok printed

end Envelope

end ResponseService
