import ResponseService.Proofs.Response.Buffered

/-!
# What a buffer hands over

A buffer is filled in steps, and at each of them it may be asked for the
response.  What it answers is told by the emissions before the request
(`AnswerTo`): there is none without a status and an end, there is none with a
header value that is not Latin-1, and otherwise the response has the last
status, all octets and every header once, in the place of its first setting
and with its last value (`Response.HandsOver`).  A request leaves the buffer as
it is, so the answers to a whole run of steps are told one by one
(`BufferStep.answers_by_history`).
-/

namespace ResponseService

open Delivery

/-! ## Answers -/

/-- A status and the end were emitted. -/
def IsWritten (emissions : List Emission) : Prop :=
  (∃ status, .status status ∈ emissions) ∧ .flush ∈ emissions

/-- The length of the body, where the status admits a body and no header of
these names gives it, in small letters or others. -/
def computedLength (names : List Text) (status : Int) (body : List UInt8) :
    Headers :=
  if (∀ name ∈ names, name.map CodePoint.smallAscii ≠ "content-length") ∧
      200 ≤ status ∧ status ≠ 204 ∧ status ≠ 304 then
    [("content-length", Decimal.ofNat body.length)]
  else []

/-- The response is what was emitted: the last status, all octets, and the
header fields in the order in which their names were first set, each with its
name in small letters and its last value, before the length of the body. -/
structure Response.HandsOver (response : Response) (emissions : List Emission) :
    Prop where
  status_eq : (statuses emissions).getLast? = some response.status
  body_eq : response.body = octets emissions
  headers_eq : ∃ sent : Headers,
    List.Forall₂
        (fun name field =>
          field.1 = name.map CodePoint.smallAscii ∧
            Ordered.GivenLast (fields emissions) name field.2)
        (Ordered.names (fields emissions)).reverse.dedup.reverse sent ∧
      response.headers = sent ++
        computedLength (Ordered.names (fields emissions)) response.status
          response.body

/-- A header has a value with a code point beyond Latin-1. -/
def HasUnencodable (emissions : List Emission) : Prop :=
  ∃ name value, Ordered.GivenLast (fields emissions) name value ∧
    ∃ point ∈ value, 0xFF < point.value

/-- What a buffer has to answer after some emissions. -/
structure AnswerTo (emissions : List Emission)
    (answer : Except Condition Response) : Prop where
  notWritten_iff : answer = .error .notWritten ↔ ¬IsWritten emissions
  unencodable_iff :
    (∃ stretch, answer = .error (.unencodable stretch)) ↔
      IsWritten emissions ∧ HasUnencodable emissions
  response_iff :
    (∃ response, answer = .ok response) ↔
      IsWritten emissions ∧ ¬HasUnencodable emissions
  handsOver : ∀ response, answer = .ok response → response.HandsOver emissions

namespace ResponseBuffer

variable {emissions : List Emission}

theorem toResponse_of_not_written (unwritten : ¬IsWritten emissions) :
    (after emissions).toResponse = .error .notWritten := by
  rw [after_eq, toResponse]
  split
  · next _ _ status last finished =>
      refine absurd ⟨⟨status, ?_⟩, of_decide_eq_true finished⟩ unwritten
      exact mem_statuses.mp (List.mem_of_getLast? last)
  · rfl

/-- A buffer that is written turns into a response if its headers can be
sent. -/
theorem toResponse_of_written (written : IsWritten emissions) :
    ∃ status, (statuses emissions).getLast? = some status ∧
      (after emissions).toResponse =
        match sentHeaders (Ordered.ofList (fields emissions)) with
        | .error stretch => .error (.unencodable stretch)
        | .ok headers =>
            .ok ⟨status, headers ++ addedLength status headers (octets emissions),
              octets emissions⟩ := by
  obtain ⟨⟨status, set⟩, finished⟩ := written
  have anySet : statuses emissions ≠ [] :=
    List.ne_nil_of_mem (mem_statuses.mpr set)
  have last := List.getLast?_eq_some_getLast anySet
  have held : after emissions =
      ⟨some ((statuses emissions).getLast anySet),
        Ordered.ofList (fields emissions), octets emissions, true⟩ := by
    rw [after_eq, last, decide_eq_true finished]
  refine ⟨_, last, ?_⟩
  rw [held]
  rfl

section Ascii

variable (ascii : ∀ name ∈ Ordered.names (fields emissions), name.IsAscii)
include ascii

theorem ascii_of_mem {field : Text × Text}
    (member : field ∈ Ordered.ofList (fields emissions)) :
    field.1.IsAscii :=
  ascii _ (Ordered.mem_names_ofList.mp (List.mem_map_of_mem member))

/-- Headers of ASCII names can be sent unless a value is not Latin-1. -/
theorem sendable_iff :
    Sendable ((Ordered.ofList (fields emissions)).map lowered) ↔
      ¬HasUnencodable emissions := by
  rw [Sendable, List.forall_mem_map]
  constructor
  · rintro sendable ⟨name, value, given, point, member, beyond⟩
    have encodable := (sendable _ (Ordered.mem_ofList_iff.mpr given)).2 point member
    omega
  · rintro encodable ⟨name, value⟩ member
    refine ⟨?_, fun point among => ?_⟩
    · have small := ascii_of_mem ascii member
      rw [lowered, Text.lower_of_isAscii small]
      exact (Text.isAscii_smallAscii small).isLatin1
    · by_contra beyond
      exact encodable ⟨name, value, Ordered.mem_ofList_iff.mp member, point, among,
        by omega⟩

theorem names_sent :
    Ordered.names ((Ordered.ofList (fields emissions)).map lowered) =
      (Ordered.names (Ordered.ofList (fields emissions))).map
        (List.map CodePoint.smallAscii) := by
  rw [Ordered.names, Ordered.names, List.map_map, List.map_map]
  apply List.map_congr_left
  intro field member
  exact Text.lower_of_isAscii (ascii_of_mem ascii member)

theorem addedLength_eq (status : Int) (body : List UInt8) :
    addedLength status ((Ordered.ofList (fields emissions)).map lowered) body =
      computedLength (Ordered.names (fields emissions)) status body := by
  have unset :
      lengthName ∉ Ordered.names
          ((Ordered.ofList (fields emissions)).map lowered) ↔
        ∀ name ∈ Ordered.names (fields emissions),
          name.map CodePoint.smallAscii ≠ lengthName := by
    rw [names_sent ascii, List.mem_map, not_exists]
    simp only [not_and, Ordered.mem_names_ofList, ne_eq]
  have named : lengthName = "content-length" := rfl
  rw [addedLength, computedLength, ← named]
  congr 1
  rw [← unset]
  simp [admitsBody, and_comm, and_assoc]

theorem handsOver_of_sent {status : Int}
    (last : (statuses emissions).getLast? = some status) :
    Response.HandsOver
      ⟨status, (Ordered.ofList (fields emissions)).map lowered ++
          addedLength status ((Ordered.ofList (fields emissions)).map lowered)
            (octets emissions),
        octets emissions⟩ emissions where
  status_eq := last
  body_eq := rfl
  headers_eq := by
    refine ⟨_, ?_, congrArg _ (addedLength_eq ascii status _)⟩
    rw [← Ordered.names_ofList, Ordered.names, List.forall₂_map_left_iff,
      List.forall₂_map_right_iff, List.forall₂_same]
    intro field member
    exact ⟨Text.lower_of_isAscii (ascii_of_mem ascii member),
      Ordered.mem_ofList_iff.mp member⟩

/-- A buffer answers what it has to answer after the emissions. -/
theorem answerTo_toResponse :
    AnswerTo emissions (after emissions).toResponse := by
  by_cases written : IsWritten emissions
  · obtain ⟨status, last, answer⟩ := toResponse_of_written written
    by_cases unencodable : HasUnencodable emissions
    · have unsendable := (sendable_iff ascii).not_left.mpr unencodable
      obtain ⟨stretch, failed⟩ := sentHeaders_of_not_sendable unsendable
      rw [failed] at answer
      constructor <;> simp [answer, written, unencodable]
    · have sent := sentHeaders_of_sendable
        ((sendable_iff ascii).mpr unencodable)
      rw [sent] at answer
      have handsOver := handsOver_of_sent ascii last
      constructor <;> simp [answer, written, unencodable, handsOver]
  · have answer := toResponse_of_not_written written
    constructor <;> simp [answer, written]

end Ascii

end ResponseBuffer

/-! ## Steps -/

/-- What may be done with a buffer. -/
inductive BufferStep where
  | emit (emission : Emission)
  /-- Ask for the response. -/
  | respond
  deriving DecidableEq

namespace BufferStep

open ResponseBuffer

/-- The buffer after a step, and the answer if the response was asked for. -/
def perform (buffer : ResponseBuffer) :
    BufferStep → ResponseBuffer × Option (Except Condition Response)
  | .emit emission => (buffer.add emission, none)
  | .respond => (buffer, some buffer.toResponse)

/-- The buffer after some steps. -/
def bufferAfter (buffer : ResponseBuffer) (steps : List BufferStep) :
    ResponseBuffer :=
  steps.foldl (fun reached step => (perform reached step).1) buffer

/-- The answers to the requests among some steps, in their order. -/
def answers (buffer : ResponseBuffer) :
    List BufferStep → List (Except Condition Response)
  | [] => []
  | step :: rest =>
      (perform buffer step).2.toList ++ answers (perform buffer step).1 rest

/-- What is emitted in some steps. -/
def emissions (steps : List BufferStep) : List Emission :=
  steps.filterMap fun
    | .emit emission => some emission
    | .respond => none

theorem mem_emissions {steps : List BufferStep} {emission : Emission} :
    emission ∈ emissions steps ↔ .emit emission ∈ steps := by
  rw [emissions, List.mem_filterMap]
  constructor
  · rintro ⟨_ | _, member, same⟩ <;> cases same
    exact member
  · exact fun member => ⟨_, member, rfl⟩

/-- Every request is answered by the emissions before it, and leaves the buffer
as it is. -/
structure AnsweredByHistory (steps : List BufferStep) : Prop where
  answers_length : (answers .empty steps).length = steps.count .respond
  answered : ∀ earlier later, steps = earlier ++ .respond :: later →
    ∃ answer, (answers .empty steps)[earlier.count .respond]? = some answer ∧
      AnswerTo (emissions earlier) answer
  unchanged : ∀ earlier later, steps = earlier ++ .respond :: later →
    bufferAfter .empty (earlier ++ [.respond]) = bufferAfter .empty earlier

/-- Only what is emitted changes a buffer. -/
theorem bufferAfter_eq (buffer : ResponseBuffer) (steps : List BufferStep) :
    bufferAfter buffer steps = (emissions steps).foldl add buffer := by
  induction steps generalizing buffer with
  | nil => rfl
  | cons step rest ih =>
      cases step with
      | emit emission => exact ih (buffer.add emission)
      | respond => exact ih buffer

theorem answers_append (buffer : ResponseBuffer)
    (earlier later : List BufferStep) :
    answers buffer (earlier ++ later) =
      answers buffer earlier ++ answers (bufferAfter buffer earlier) later := by
  induction earlier generalizing buffer with
  | nil => rfl
  | cons step rest ih =>
      rw [List.cons_append, answers, answers, ih, List.append_assoc]
      rfl

theorem length_answers (buffer : ResponseBuffer) (steps : List BufferStep) :
    (answers buffer steps).length = steps.count .respond := by
  induction steps generalizing buffer with
  | nil => rfl
  | cons step rest ih =>
      rw [answers, List.length_append, ih, List.count_cons, Nat.add_comm]
      cases step <;> rfl

/-- A request for a response is answered by the buffer as it is then. -/
theorem answers_getElem? (buffer : ResponseBuffer)
    (earlier later : List BufferStep) :
    (answers buffer (earlier ++ .respond :: later))[earlier.count .respond]? =
      some (bufferAfter buffer earlier).toResponse := by
  have number := length_answers buffer earlier
  rw [answers_append, List.getElem?_append_right (Nat.le_of_eq number), number,
    Nat.sub_self]
  rfl

/-- A buffer hands over exactly what is set, whenever it is asked. -/
theorem answers_by_history (steps : List BufferStep)
    (ascii : ∀ name value, .emit (.header name value) ∈ steps → name.IsAscii) :
    AnsweredByHistory steps where
  answers_length := length_answers .empty steps
  answered := by
    rintro earlier later rfl
    refine ⟨_, answers_getElem? .empty earlier later, ?_⟩
    rw [bufferAfter_eq]
    apply answerTo_toResponse
    intro name member
    obtain ⟨⟨_, value⟩, set, rfl⟩ := List.mem_map.mp member
    have among := mem_emissions.mp (mem_fields.mp set)
    exact ascii _ value (List.mem_append_left _ among)
  unchanged := by
    rintro earlier later rfl
    rw [bufferAfter, List.foldl_append]
    rfl

/-- A buffer that is asked too early, then with a value that cannot be sent, and
then twice more while the body grows.  Two names differ in their case alone. -/
def recased : List BufferStep :=
  [.emit (.header "X-Note" "\u0100"), .respond, .emit (.status 500),
    .emit (.header "x-note" "small"), .emit .flush, .respond,
    .emit (.header "X-Note" "large"), .emit (.body [1, 2]),
    .emit (.status 200), .respond, .emit (.header "Content-LENGTH" "7"),
    .emit (.body [3]), .respond]

theorem answers_by_history_recased :
    AnsweredByHistory recased ∧
      (answers .empty recased).map Except.toOption =
        [none, none,
          some ⟨200, [("x-note", "large"), ("x-note", "small"),
            ("content-length", "2")], [1, 2]⟩,
          some ⟨200, [("x-note", "large"), ("x-note", "small"),
            ("content-length", "7")], [1, 2, 3]⟩] := by
  refine ⟨answers_by_history recased ?_, by decide +kernel⟩
  intro name value member
  simp only [recased, List.mem_cons, emit.injEq, Emission.header.injEq,
    reduceCtorEq, List.not_mem_nil, or_self, or_false, false_or] at member
  rcases member with ⟨rfl, _⟩ | ⟨rfl, _⟩ | ⟨rfl, _⟩ | ⟨rfl, _⟩ <;> decide

end BufferStep

end ResponseService
