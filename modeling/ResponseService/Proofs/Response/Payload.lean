import Mathlib.Algebra.GroupWithZero.Nat
import Mathlib.Tactic.SplitIfs
import ResponseService.Proofs.Number.Decimal
import ResponseService.Proofs.Response.Received
import ResponseService.Proofs.Text.Ascii
import ResponseService.Proofs.Text.Decoding

/-!
# The octets of a body

Every body can be sent.  Its surrogates are written out as the six letters of
their escapes (`WrittenOut`), which leaves a text of scalar values, and the
payload is the one spelling of that text in UTF-8: the octets of a string, and
the only octets that are decoded to it (`payload_spells`).

Each code point adds octets of its own, so the payload of two bodies in a row
is one payload behind the other, and its length is a sum over the code points
(`length_payload`).  This sum is what a call announces.
-/

namespace ResponseService

/-! ## Written out surrogates -/

/-- A hexadecimal digit with small letters. -/
def SmallHexDigit (point : CodePoint) (digit : Nat) : Prop :=
  (Text.ofString "0123456789abcdef")[digit]? = some point

/-- The second text is the first one with each surrogate written as a
backslash, the letter `u` and its four hexadecimal digits. -/
inductive WrittenOut : Text → Text → Prop where
  | nil : WrittenOut [] []
  | scalar {point : CodePoint} {rest written : Text}
      (outside : point.value < 0xD800 ∨ 0xDFFF < point.value)
      (tail : WrittenOut rest written) :
      WrittenOut (point :: rest) (point :: written)
  | surrogate {point first second third fourth : CodePoint}
      {one two three four : Nat} {rest written : Text}
      (inside : 0xD800 ≤ point.value ∧ point.value ≤ 0xDFFF)
      (valued : ((one * 16 + two) * 16 + three) * 16 + four = point.value)
      (firstDigit : SmallHexDigit first one)
      (secondDigit : SmallHexDigit second two)
      (thirdDigit : SmallHexDigit third three)
      (fourthDigit : SmallHexDigit fourth four)
      (tail : WrittenOut rest written) :
      WrittenOut (point :: rest)
        ('\\' :: 'u' :: first :: second :: third :: fourth :: written)

theorem smallHexDigit_of_lt :
    ∀ digit < 16, SmallHexDigit
      (CodePoint.ofNat (if digit < 10 then 0x30 + digit else 0x57 + digit))
      digit := by
  unfold SmallHexDigit
  decide

theorem writtenOut_escapeSurrogates (text : Text) :
    WrittenOut text text.escapeSurrogates := by
  induction text with
  | nil => exact .nil
  | cons point rest ih =>
      cases half : point.isSurrogate with
      | false =>
          have outside := CodePoint.isSurrogate_eq_false_iff.mp half
          rw [Text.escapeSurrogates_cons_of_scalar rest half]
          exact .scalar (by omega) ih
      | true =>
          have inside := CodePoint.isSurrogate_iff.mp half
          have digit (number : Nat) :=
            smallHexDigit_of_lt (number % 16) (Nat.mod_lt _ (by decide))
          rw [Text.escapeSurrogates_cons_of_surrogate rest half]
          exact .surrogate (by omega) (by omega)
            (digit (point.value / 16 / 16 / 16)) (digit (point.value / 16 / 16))
            (digit (point.value / 16)) (digit point.value) ih

/-- Only surrogates are changed. -/
theorem escapeSurrogates_eq_self_iff {text : Text} :
    text.escapeSurrogates = text ↔
      ∀ point ∈ text, point.isSurrogate = false := by
  constructor
  · intro same
    rw [← same]
    exact text.escapeSurrogates_scalar
  · exact Text.escapeSurrogates_of_scalar

/-! ## Lengths -/

/-- How many octets are sent for a code point. -/
def CodePoint.sentLength (point : CodePoint) : Nat :=
  if point.value < 0x80 then 1
  else if point.value < 0x800 then 2
  else if 0xD800 ≤ point.value ∧ point.value ≤ 0xDFFF then 6
  else if point.value < 0x10000 then 3
  else 4

theorem payload_append (body further : Text) :
    payload (body ++ further) = payload body ++ payload further := by
  rw [payload, payload, payload, Text.escapeSurrogates_append,
    Utf8.encode_append]

theorem length_encode_of_ascii {text : Text}
    (ascii : ∀ point ∈ text, point.value < 0x80) :
    (Utf8.encode text).length = text.length := by
  induction text with
  | nil => rfl
  | cons point rest ih =>
      obtain ⟨here, later⟩ := List.forall_mem_cons.mp ascii
      have one : (Utf8.encodeNumber point.value).length = 1 := by
        rw [Utf8.encodeNumber, if_pos here, List.length_singleton]
      have tail := ih later
      rw [Utf8.encode] at tail
      rw [Utf8.encode, List.flatMap_cons, List.length_append, one, tail,
        List.length_cons, Nat.add_comm]

theorem length_payload_singleton (point : CodePoint) :
    (payload [point]).length = point.sentLength := by
  cases half : point.isSurrogate with
  | true =>
      have inside := CodePoint.isSurrogate_iff.mp half
      have ascii : ∀ letter ∈ Text.unicodeEscape point.value,
          letter.value < 0x80 := fun letter member =>
        (Text.isVisible_unicodeEscape point.value).isAscii letter member
      rw [payload, Text.escapeSurrogates_cons_of_surrogate [] half,
        Text.escapeSurrogates_nil, List.append_nil, length_encode_of_ascii ascii,
        CodePoint.sentLength, if_neg (by omega), if_neg (by omega),
        if_pos (by omega)]
      rfl
  | false =>
      have outside := CodePoint.isSurrogate_eq_false_iff.mp half
      have same : payload [point] = Utf8.encodeNumber point.value := by
        rw [payload, Text.escapeSurrogates_cons_of_scalar [] half]
        exact List.append_nil _
      have whole : ¬(0xD800 ≤ point.value ∧ point.value ≤ 0xDFFF) := by omega
      rw [same, Utf8.encodeNumber, CodePoint.sentLength, if_neg whole]
      split_ifs <;> rfl

/-- The length of a payload is the sum of what is sent for each code point. -/
theorem length_payload (body : Text) :
    (payload body).length = (body.map CodePoint.sentLength).sum := by
  induction body with
  | nil => rfl
  | cons point rest ih =>
      have apart := payload_append [point] rest
      rw [List.singleton_append] at apart
      rw [apart, List.length_append, length_payload_singleton, ih,
        List.map_cons, List.sum_cons]

/-- The lengths on both sides of every border. -/
example :
    [0x7F, 0x80, 0x7FF, 0x800, 0xD7FF, 0xD800, 0xDFFF, 0xE000, 0xFFFF,
      0x10000].map (fun number => (payload [CodePoint.ofNat number]).length) =
        [1, 2, 2, 3, 3, 6, 6, 3, 3, 4] := by
  decide

/-! ## What is handed over -/

/-- Whatever is handed over as a body is these octets and whatever is announced
as its length is this text; a call without a fault hands over each once. -/
structure WriteReport.Sends {State : Type} (report : WriteReport State)
    (octets : List UInt8) (length : Text) : Prop where
  bodies_subset : Delivery.bodies report.delivery.offered ⊆ [octets]
  lengths_subset :
    Delivery.headerValues HeaderName.contentLength report.delivery.offered ⊆
      [length]
  complete : report.fault = none →
    Delivery.bodies report.delivery.accepted = [octets] ∧
      Delivery.headerValues HeaderName.contentLength report.delivery.accepted =
        [length]

namespace ResponseWriter

variable (writer : ResponseWriter) (status : Int) (format : ResponseFormat)

theorem headerValues_contentLength (schema : Option Text)
    (octets : List UInt8) :
    Delivery.headerValues HeaderName.contentLength
        (writer.emissionsWith status format schema octets) =
      [Decimal.ofNat octets.length] := by
  have others : ∀ name ∈ [HeaderName.contentType, HeaderName.allowOrigin,
      HeaderName.exposeHeaders, HeaderName.allowCredentials,
      HeaderName.version, HeaderName.commitId, HeaderName.jsonSchema],
      name ≠ HeaderName.contentLength := by decide
  simp only [List.forall_mem_cons, List.not_mem_nil, false_implies,
    implies_true, and_true] at others
  cases enabled : writer.cors.enabled <;> cases schema <;>
    simp [Delivery.headerValues, emissionsWith, headers, CorsPolicy.headers,
      ServiceIdentity.headers, schemaHeader, enabled, others]

variable {State : Type} (sink : Sink State) (state : State)

/-- What a call hands over of a body is the payload with its length. -/
theorem sends_payload (body : Text) :
    (writer.write sink state status format body).Sends (payload body)
      (Decimal.ofNat (payload body).length) := by
  cases known : schema? format body with
  | error fault =>
      rw [write_of_undescribed known]
      exact ⟨List.nil_subset _, List.nil_subset _, nofun⟩
  | ok schema =>
      have part :
          (writer.write sink state status format body).delivery.offered <+:
            writer.emissionsWith status format schema (payload body) :=
        offered_isPrefix_of_schema known
      refine ⟨?_, ?_, ?_⟩
      · rw [← bodies_emissionsWith writer status format schema]
        exact (part.filterMap _).subset
      · rw [← headerValues_contentLength writer status format schema]
        exact (part.filterMap _).subset
      · intro complete
        obtain ⟨sent, knownToo, accepted⟩ := accepted_of_no_fault complete
        rw [accepted]
        exact ⟨bodies_emissionsWith writer status format sent _,
          headerValues_contentLength writer status format sent _⟩

end ResponseWriter

/-- The payload of every body is the one UTF-8 spelling of the body with its
surrogates written out.  Bodies in a row have payloads in a row.  A call
announces the sum of what is sent for each code point, and no body makes it
fail where the sink refuses nothing and no description is asked for. -/
theorem payload_spells (body : Text) :
    (∃ sent, WrittenOut body sent ∧
      (sent = body ↔ ∀ point ∈ body, point.isSurrogate = false) ∧
      (∃ string : String, Text.ofString string = sent ∧
        string.toUTF8.data.toList = payload body) ∧
      ∀ octets, Utf8.decode octets = .ok sent ↔ octets = payload body) ∧
    (∀ further, payload (body ++ further) = payload body ++ payload further) ∧
    (∀ {State : Type} (writer : ResponseWriter) (sink : Sink State)
      (state : State) (status : Int) (format : ResponseFormat),
      (writer.write sink state status format body).Sends (payload body)
        (Nat.repr (body.map CodePoint.sentLength).sum)) ∧
    ∀ (writer : ResponseWriter) (buffer : ResponseBuffer) (status : Int)
      (isJson : Bool),
      (writer.write ResponseBuffer.sink buffer status ⟨isJson, false⟩
        body).fault = none := by
  have scalar := body.escapeSurrogates_scalar
  refine ⟨⟨body.escapeSurrogates, writtenOut_escapeSurrogates body,
    escapeSurrogates_eq_self_iff, ?_, ?_⟩, payload_append body, ?_, ?_⟩
  · exact Utf8.exists_string scalar
  · intro octets
    rw [Utf8.decode_eq_ok_iff, payload, eq_comm]
    exact and_iff_right scalar
  · intro State writer sink state status format
    rw [← length_payload, ← Decimal.ofNat_eq_repr]
    exact writer.sends_payload status format sink state body
  · intro writer buffer status isJson
    have unasked : ¬ResponseFormat.Asks ⟨isJson, false⟩ :=
      fun asks => nomatch asks.2
    exact ResponseWriter.no_fault_of_accepting ResponseBuffer.sink_isAccepting
      (ResponseWriter.schema?_of_not_asks unasked body)

end ResponseService
