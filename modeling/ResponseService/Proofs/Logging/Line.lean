import ResponseService.Logging.Record
import ResponseService.Proofs.Fault.Trace
import ResponseService.Proofs.Json.Characters
import ResponseService.Proofs.Json.Contents
import ResponseService.Proofs.Schema.Naming

/-!
# Lines of log records

Every record is told on one line, and everything it tells can be read from
that line again (`jsonLine_tells`).  Messages, names and traces may hold any
characters: control characters are escaped wherever they stand, so none of
them ends the line, and the quotations give every text back as it was.

What a line tells of a record is said apart from how it is put together
(`Tells`): four members that every record has, the surfaced fields with a
value other than null in their fixed order, and the trace of the fault if
there is one.  All of this is said of any text in the place of the trace
(`lineWith`).  A record whose fault has no trace has no line.
-/

namespace ResponseService

namespace Logging.Record

/-! ## What a line tells -/

/-- The text is the whole trace but for the end of its last line. -/
def IsTraceText (fault : Fault) (text : Text) : Prop :=
  fault.trace = .ok (text ++ "\n")

/-- A part is told by the text of the field that takes its place; where there
is no such field, by itself. -/
inductive TellsPart (record : Record) (name part : Text) : Text → Prop where
  | field {text : Text}
      (given : Ordered.GivenLast record.fields name (.text text)) :
      TellsPart record name part text
  | part (absent : name ∉ Ordered.names record.fields) :
      TellsPart record name part part

/-- The text that tells of a fault; there is none where there is no fault. -/
inductive TellsFault : Option Fault → Option Text → Prop where
  | none : TellsFault none none
  | some {fault : Fault} {text : Text} (whole : IsTraceText fault text) :
      TellsFault (some fault) (some text)

/-- The fields that a line tells, in their order. -/
def extraNames : List Text :=
  ["status_code", "content_length", "error_code", "path"]

/-- The members that tell of a record and an exception: the parts that every
record has, then those fields whose value is not null, then the exception. -/
inductive Tells (timestamp : Text) (record : Record) (exception : Option Text) :
    List (Text × Json) → Prop where
  | mk {level logger : Text} {extras : List (Text × Json)}
      (levelTold :
        record.TellsPart "levelname" (Level.name record.level) level)
      (loggerTold : record.TellsPart "name" record.logger logger)
      (inOrder : List.Sublist (Ordered.names extras) extraNames)
      (exact : ∀ name value, (name, value) ∈ extras ↔
        name ∈ extraNames ∧ Ordered.GivenLast record.fields name value ∧
          value ≠ .null) :
      Tells timestamp record exception
        (("timestamp", .text timestamp) :: ("level", .text level) ::
          ("logger", .text logger) :: ("message", .text record.message) ::
          (extras ++ exceptionMember exception))

/-- A value that a field of a line may have: null, a boolean, a text or an
integer of at most 4300 digits. -/
inductive IsPlain : Json → Prop where
  | null : IsPlain .null
  | boolean (value : Bool) : IsPlain (.boolean value)
  | text (value : Text) : IsPlain (.text value)
  | integer {value : Int}
      (short : (Decimal.ofNat value.natAbs).length ≤ 4300) :
      IsPlain (.integer value)

/-- The surfaced fields have plain values, and a field that takes the place of
the level's or the logger's name is a text. -/
structure IsTellable (record : Record) : Prop where
  plain : ∀ name ∈ extraNames, ∀ value,
    Ordered.GivenLast record.fields name value → IsPlain value
  named : ∀ name ∈ [levelName, loggerName], ∀ value,
    Ordered.GivenLast record.fields name value → ∃ text, value = .text text

theorem withoutLastEnd_append (text : Text) :
    withoutLastEnd (text ++ "\n") = text := by
  have lineFeed : (CodePoint.ofChar '\n').value = 0x0A := rfl
  simp [withoutLastEnd, Text.ofString, lineFeed]

/-- A trace without its last line end tells of the fault. -/
theorem isTraceText_withoutLastEnd {fault : Fault} {trace : Text}
    (told : fault.trace = .ok trace) :
    IsTraceText fault (withoutLastEnd trace) := by
  obtain ⟨text, rfl⟩ := Fault.endsLine_trace told
  rw [IsTraceText, withoutLastEnd_append, told]

/-- The line of a record has the whole trace of its fault. -/
theorem exists_tellsFault (timestamp : Text) {record : Record} {trace : Text}
    (told : Fault.traceOf record.fault = .ok trace) :
    ∃ exception, TellsFault record.fault exception ∧
      record.jsonLine timestamp = .ok (record.lineWith timestamp exception) := by
  cases present : record.fault with
  | none => exact ⟨none, .none, by rw [jsonLine, faultText, present]; rfl⟩
  | some fault =>
      rw [present] at told
      refine ⟨some (withoutLastEnd trace), .some (isTraceText_withoutLastEnd told),
        ?_⟩
      rw [jsonLine, faultText, present]
      change (fault.trace.map _).map _ = _
      rw [show fault.trace = .ok trace from told]
      rfl

/-- A record has no line where its fault has no trace. -/
theorem jsonLine_eq_error_iff {timestamp : Text} {record : Record}
    {mishap : Mishap} :
    record.jsonLine timestamp = .error mishap ↔
      Fault.traceOf record.fault = .error mishap := by
  rw [jsonLine, faultText]
  cases record.fault with
  | none => exact iff_of_false nofun nofun
  | some fault =>
      change (fault.trace.map _).map _ = _ ↔ fault.trace = _
      cases fault.trace <;> simp [Except.map]

/-! ## Fields -/

variable {record : Record}

theorem exists_tellsPart (tellable : record.IsTellable) {name : Text}
    (replaces : name ∈ [levelName, loggerName]) (part : Text) :
    ∃ text, record.TellsPart name part text ∧
      record.fieldOr name part = .text text := by
  cases found : Ordered.lookup (Ordered.ofList record.fields) name with
  | none =>
      have absent := Ordered.lookup_eq_none_iff.mp found
      rw [Ordered.mem_names_ofList] at absent
      exact ⟨part, .part absent, by rw [fieldOr, found]; rfl⟩
  | some value =>
      have given := Ordered.lookup_ofList_eq_some_iff.mp found
      obtain ⟨text, rfl⟩ := tellable.named name replaces value given
      exact ⟨text, .field given, by rw [fieldOr, found]; rfl⟩

theorem field?_eq_some_iff {name : Text} {entry : Text × Json} :
    record.field? name = some entry ↔
      entry.1 = name ∧ Ordered.GivenLast record.fields name entry.2 ∧
        entry.2 ≠ .null := by
  rcases entry with ⟨entryName, value⟩
  rw [← Ordered.lookup_ofList_eq_some_iff, field?]
  cases Ordered.lookup (Ordered.ofList record.fields) name with
  | none => simp
  | some given => cases given <;> grind

theorem mem_filterMap_field?_iff {listed : List Text} {name : Text}
    {value : Json} :
    (name, value) ∈ listed.filterMap record.field? ↔
      name ∈ listed ∧ Ordered.GivenLast record.fields name value ∧
        value ≠ .null := by
  simp only [List.mem_filterMap, field?_eq_some_iff]
  constructor
  · rintro ⟨_, member, rfl, told⟩
    exact ⟨member, told⟩
  · rintro ⟨member, told⟩
    exact ⟨name, member, rfl, told⟩

theorem names_filterMap_field?_sublist (record : Record)
    (listed : List Text) :
    List.Sublist (Ordered.names (listed.filterMap record.field?)) listed := by
  induction listed with
  | nil => exact .slnil
  | cons name rest ih =>
      cases told : record.field? name with
      | none =>
          rw [List.filterMap_cons_none told]
          exact ih.cons name
      | some entry =>
          have named := (field?_eq_some_iff.mp told).1
          rw [List.filterMap_cons_some told, Ordered.names, List.map_cons,
            named]
          exact ih.cons_cons name

/-! ## Lines that are read back -/

theorem IsPlain.isExact {value : Json} (plain : IsPlain value) :
    Json.IsExact value := by
  cases plain with
  | integer short => exact short
  | _ => trivial

theorem IsPlain.depth_eq {value : Json} (plain : IsPlain value) :
    Value.depth value = 0 := by
  cases plain <;> rfl

theorem IsPlain.settled_eq {value : Json} (plain : IsPlain value) :
    Json.settled value = value := by
  cases plain <;> rfl

/-- A line of plain members with different names is read back. -/
theorem parse_line {members : List (Text × Json)}
    (plain : ∀ member ∈ members, IsPlain member.2)
    (distinct : (Ordered.names members).Nodup) :
    Json.parse (Json.print .line (.object members)) =
      .ok (.object members) := by
  have exact : Json.IsExact (.object members) :=
    Json.membersExact_iff.mpr fun member listed =>
      (plain member listed).isExact
  have shallow : Value.depth (.object members) ≤ Json.depthLimit := by
    have inside : Value.depthOfMembers members ≤ 0 :=
      Json.depthOfMembers_le_iff.mpr fun member listed =>
        Nat.le_of_eq (plain member listed).depth_eq
    rw [Value.depth]
    exact (Nat.succ_le_succ inside).trans (by decide)
  have settled : Ordered.mapEntries id Json.settled members = members := by
    have same : ∀ member ∈ members,
        (id member.1, Json.settled member.2) = id member :=
      fun member listed => Prod.ext rfl (plain member listed).settled_eq
    rw [Ordered.mapEntries, List.map_congr_left same, List.map_id]
  rw [Json.parse_eq_ok_iff, Json.read_print Json.Format.line_recovers exact
    shallow, Json.mapTexts_id, Json.settled_object,
    Ordered.ofList_of_nodup distinct, settled]

section Telling

variable {timestamp : Text} {exception : Option Text}
  {members : List (Text × Json)}

theorem Tells.isPlain (tells : record.Tells timestamp exception members)
    (tellable : record.IsTellable) :
    ∀ member ∈ members, IsPlain member.2 := by
  cases tells with
  | mk levelTold loggerTold inOrder exact =>
      simp only [List.forall_mem_cons, List.forall_mem_append]
      refine ⟨.text _, .text _, .text _, .text _, ?_, ?_⟩
      · rintro ⟨name, value⟩ listed
        obtain ⟨surfaces, given, _⟩ := (exact name value).mp listed
        exact tellable.plain name surfaces value given
      · cases exception with
        | none => exact List.forall_mem_nil _
        | some text => exact List.forall_mem_singleton.mpr (.text _)

/-- No two members of a line have one name. -/
theorem Tells.distinct (tells : record.Tells timestamp exception members) :
    (Ordered.names members).Nodup := by
  cases tells with
  | mk levelTold loggerTold inOrder exact =>
      have last : List.Sublist (Ordered.names (exceptionMember exception))
          ["exception"] := by
        cases exception with
        | none => exact List.nil_sublist _
        | some text => exact List.Sublist.refl _
      have later := inOrder.append last
      rw [Ordered.names, Ordered.names, ← List.map_append] at later
      have all := (((later.cons_cons (Text.ofString "message")).cons_cons
        (Text.ofString "logger")).cons_cons (Text.ofString "level")).cons_cons
          (Text.ofString "timestamp")
      exact all.nodup (by decide)

end Telling

/-- The members of a line tell of the record. -/
theorem exists_members (timestamp : Text) (tellable : record.IsTellable)
    (exception : Option Text) :
    ∃ members, record.Tells timestamp exception members ∧
      record.lineWith timestamp exception =
        Json.print .line (.object members) := by
  obtain ⟨level, levelTold, levelPart⟩ := exists_tellsPart tellable
    (show levelName ∈ [levelName, loggerName] by simp)
    (Level.name record.level)
  obtain ⟨logger, loggerTold, loggerPart⟩ := exists_tellsPart tellable
    (show loggerName ∈ [levelName, loggerName] by simp) record.logger
  have inOrder := names_filterMap_field?_sublist record surfaced
  refine ⟨_, .mk levelTold loggerTold inOrder
    fun name value => mem_filterMap_field?_iff, ?_⟩
  rw [lineWith, document, commonMembers, levelPart, loggerPart,
    List.append_assoc]
  rfl

/-- Whatever text stands in the place of the trace, the line of a record holds
no control characters, so no line feeds, and is read back as an object that
tells all of the record: the time, the names of level and logger, the message,
the surfaced fields that are not null with their values, and that text.  The
record's own line has the whole trace of its fault, if it has a fault.  There
is no such line exactly if the fault has no trace. -/
theorem jsonLine_tells (timestamp : Text) {record : Record}
    (tellable : record.IsTellable) :
    (∀ exception,
      (∀ point ∈ record.lineWith timestamp exception, 0x20 ≤ point.value) ∧
      ∃ members, record.Tells timestamp exception members ∧
        Json.parse (record.lineWith timestamp exception) =
          .ok (.object members)) ∧
    (∀ trace, Fault.traceOf record.fault = .ok trace →
      ∃ exception, TellsFault record.fault exception ∧
        record.jsonLine timestamp =
          .ok (record.lineWith timestamp exception)) ∧
    ∀ mishap, record.jsonLine timestamp = .error mishap ↔
      Fault.traceOf record.fault = .error mishap := by
  refine ⟨fun exception => ⟨?_, ?_⟩, fun _ => exists_tellsFault timestamp,
    fun _ => jsonLine_eq_error_iff⟩
  · exact Json.uncontrolled_print _ (by decide) (by decide)
  · obtain ⟨members, tells, same⟩ :=
      exists_members timestamp tellable exception
    refine ⟨members, tells, ?_⟩
    rw [same]
    exact parse_line (tells.isPlain tellable) tells.distinct

/-- A message of two lines with quotes, fields that are empty in different
ways, another name of the level, and a fault. -/
def crowdedRecord : Record where
  level := Level.error
  logger := "a\"b"
  message := "first\nsecond \"quoted\" \\"
  fields := [("path", .text []), ("status_code", .integer 0),
    ("content_length", .boolean false), ("error_code", .null),
    ("levelname", .text "LOUD"), ("other", .array [])]
  fault :=
    some (.ofCondition (.system (.builtIn "ValueError" [.text "x\ny"])))

theorem isTellable_crowdedRecord : crowdedRecord.IsTellable := by
  have plain : ∀ field ∈ crowdedRecord.fields, field.1 ∈ extraNames →
      IsPlain field.2 := by
    simp only [crowdedRecord, List.forall_mem_cons]
    have short : (Decimal.ofNat (0 : Int).natAbs).length ≤ 4300 := by
      simp [Decimal.ofNat, Decimal.digits]
    exact ⟨fun _ => .text _, fun _ => .integer short,
      fun _ => .boolean _, fun _ => .null, fun _ => .text _,
      fun listed => absurd listed (by decide), List.forall_mem_nil _⟩
  have named : ∀ field ∈ crowdedRecord.fields,
      field.1 ∈ [levelName, loggerName] → ∃ text, field.2 = .text text := by
    simp only [crowdedRecord, List.forall_mem_cons]
    exact ⟨fun _ => ⟨_, rfl⟩, fun listed => absurd listed (by decide),
      fun listed => absurd listed (by decide),
      fun listed => absurd listed (by decide), fun _ => ⟨_, rfl⟩,
      fun listed => absurd listed (by decide), List.forall_mem_nil _⟩
  exact ⟨fun name surfaces value given => plain _ given.mem surfaces,
    fun name replaces value given => named _ given.mem replaces⟩

theorem jsonLine_tells_crowdedRecord :
    crowdedRecord.IsTellable ∧
    ∃ exception members line, TellsFault crowdedRecord.fault exception ∧
      crowdedRecord.Tells "now" exception members ∧
      crowdedRecord.jsonLine "now" = .ok line ∧
      Json.parse line = .ok (.object members) := by
  obtain ⟨lines, traced, -⟩ := jsonLine_tells "now" isTellable_crowdedRecord
  obtain ⟨exception, tells, line⟩ := traced _ rfl
  obtain ⟨members, told, parsed⟩ := (lines exception).2
  exact ⟨isTellable_crowdedRecord, exception, members, _, tells, told, line,
    parsed⟩

end Logging.Record

end ResponseService
