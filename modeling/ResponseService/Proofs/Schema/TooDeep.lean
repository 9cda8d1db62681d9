import ResponseService.Proofs.Json.TooDeep
import ResponseService.Proofs.Schema.Failures
import ResponseService.Proofs.Schema.Shape

/-!
# Texts that are nested too deeply

A text has no document for want of room exactly if a beginning of it is free of
errors and has more brackets open than there may be
(`Json.exists_tellsDepth_iff`).  It does not matter where in the document the
brackets stand, nor what follows that beginning.  A writer that needs the
description of such a body hands nothing over (`depth_failures`).

A text that never has too many brackets open does not fail for its depth, and
neither do the schema of its document and the text of that schema.
-/

namespace ResponseService

/-- The fault says that a document is nested too deeply, at no position, and is
raised from the end of the recursion. -/
structure Fault.TellsDepth (fault : Fault) : Prop where
  name : fault.name = "SchemaInferenceError"
  message : fault.message =
    .ok "Cannot infer JSON schema: document is nested too deeply"
  position : ∃ error, fault.condition = .service error ∧
    error.kind = .schemaInference none
  cause : ∃ cause, fault.cause = some cause ∧ cause.name = "RecursionError"

/-- The fault has to do with depth, by its name, its message or its cause. -/
def Fault.ShowsDepth (fault : Fault) : Prop :=
  fault.name = "RecursionError" ∨
    fault.message =
      .ok "Cannot infer JSON schema: document is nested too deeply" ∨
    ∃ cause, fault.cause = some cause ∧ cause.name = "RecursionError"

theorem Fault.tellsDepth_nestedText (bracket : Json.Bracket) :
    (Fault.ofSchemaProblem .nestedTooDeeply (.nestedText bracket)).TellsDepth :=
  ⟨rfl, rfl, ⟨_, rfl, rfl⟩, _, rfl, rfl⟩

theorem Fault.TellsDepth.showsDepth {fault : Fault} (tells : fault.TellsDepth) :
    fault.ShowsDepth :=
  Or.inr (Or.inl tells.message)

namespace Json

/-- The words for a problem of a text are not about its depth. -/
theorem message_ne_nestedTooDeeply (problem : Problem) :
    (ServiceError.schemaInference problem.message none).message ≠
      ServiceError.nestedTooDeeply.message := by
  cases problem <;> decide

/-- Only a container without room makes a fault that has to do with depth. -/
theorem exists_tooDeep_of_showsDepth {text : Text} {error : ReadError}
    (shows : (Fault.ofReadError text error).ShowsDepth) :
    ∃ bracket, error = .tooDeep bracket := by
  have noSyntax : Text.ofString "JSONDecodeError" ≠ "RecursionError" := by decide
  have noService :
      Text.ofString "SchemaInferenceError" ≠ "RecursionError" := by decide
  have noValue : Text.ofString "ValueError" ≠ "RecursionError" := by decide
  cases error with
  | tooDeep bracket => exact ⟨bracket, rfl⟩
  | malformed problem position =>
      rcases shows with name | message | ⟨cause, same, name⟩
      · exact absurd name noService
      · exact absurd (Except.ok.inj message) (message_ne_nestedTooDeeply problem)
      · cases same
        exact absurd name noSyntax
  | oversized digits =>
      rcases shows with name | message | ⟨cause, same, name⟩
      · exact absurd name noValue
      · -- The two messages begin with different letters.
        have first := congrArg List.head? (Except.ok.inj message)
        cases first
      · cases same

theorem parse_eq_error_iff {text : Text} {fault : Fault} :
    parse text = .error fault ↔
      ∃ error, read text = .error error ∧ fault = .ofReadError text error := by
  rw [parse]
  cases read text <;> simp [eq_comm]

/-- A text fails for its depth exactly if a beginning of it is free of errors
and has more brackets open than there may be. -/
theorem exists_tellsDepth_iff {text : Text} :
    (∃ fault, fault.TellsDepth ∧ parse text = .error fault) ↔
      ∃ before rest, text = before ++ rest ∧ Dialect.Begins before ∧
        depthLimit < nesting before := by
  rw [← exists_tooDeep_iff, ← read]
  constructor
  · rintro ⟨fault, tells, failed⟩
    obtain ⟨error, refused, rfl⟩ := parse_eq_error_iff.mp failed
    obtain ⟨bracket, rfl⟩ := exists_tooDeep_of_showsDepth tells.showsDepth
    exact ⟨bracket, refused⟩
  · rintro ⟨bracket, refused⟩
    exact ⟨_, Fault.tellsDepth_nestedText bracket,
      parse_eq_error_iff.mpr ⟨_, refused, rfl⟩⟩

theorem nesting_le_append (before rest : Text) :
    nesting before ≤ nesting (before ++ rest) := by
  rw [nesting, nesting, Nesting.after_append]
  exact Nesting.most_le_after _ rest

/-- A text with few brackets open does not fail for its depth. -/
theorem not_showsDepth_of_parse {text : Text}
    (shallow : nesting text ≤ depthLimit) {fault : Fault}
    (failed : parse text = .error fault) : ¬fault.ShowsDepth := by
  intro shows
  obtain ⟨error, refused, rfl⟩ := parse_eq_error_iff.mp failed
  obtain ⟨bracket, rfl⟩ := exists_tooDeep_of_showsDepth shows
  obtain ⟨before, rest, rfl, -, many⟩ :=
    exists_tellsDepth_iff.mp ⟨_, Fault.tellsDepth_nestedText bracket, failed⟩
  exact absurd (many.trans_le (nesting_le_append before rest))
    (Nat.not_lt.mpr shallow)

/-- The document of a text with few brackets open has a schema, and the schema
a text. -/
theorem exists_schema_text {text : Text} {document : Json}
    (shallow : nesting text ≤ walkLimit) (parsed : parse text = .ok document) :
    ∃ schema header, document.schema = .ok schema ∧
      schema.text = .ok header := by
  obtain ⟨tree, lexes, -, rfl⟩ := read_eq_ok_iff.mp (parse_eq_ok_iff.mp parsed)
  rw [nesting_eq_depth lexes] at shallow
  have within := (depth_settled_le tree).trans shallow
  exact ⟨_, _, schema_eq within,
    SchemaNode.text_eq ((depth_shape_le _).trans within)⟩

end Json

/-- Whatever follows a beginning that is free of errors and has 1500 brackets
open at the same time, the text fails for its depth, and a call of the writer
that needs the description hands nothing over.  Where no more than 300 are ever
open, nothing fails for depth. -/
theorem depth_failures :
    (∀ before rest, Json.Dialect.Begins before → 1500 ≤ Json.nesting before →
      ∃ fault, fault.TellsDepth ∧
        Json.parse (before ++ rest) = .error fault ∧
        ∀ {State : Type} (sink : Sink State) (writer : ResponseWriter) state
            status,
          writer.write sink state status ⟨true, true⟩ (before ++ rest) =
            ⟨.nothing state, [], some fault⟩) ∧
    ∀ text, Json.nesting text ≤ 300 →
      (∀ fault, Json.parse text = .error fault → ¬fault.ShowsDepth) ∧
      ∀ document, Json.parse text = .ok document →
        ∃ schema header, document.schema = .ok schema ∧
          schema.text = .ok header := by
  constructor
  · intro before rest begins many
    have deep : Json.depthLimit < Json.nesting before :=
      Nat.lt_of_lt_of_le (by decide) many
    obtain ⟨fault, tells, failed⟩ :=
      Json.exists_tellsDepth_iff.mpr ⟨before, rest, rfl, begins, deep⟩
    refine ⟨fault, tells, failed, fun sink writer state status => ?_⟩
    have undescribed : describe (before ++ rest) = .error fault := by
      rw [describe, failed]
    exact ResponseWriter.write_of_describe_error undescribed
  · intro text shallow
    exact ⟨fun _ => Json.not_showsDepth_of_parse (shallow.trans (by decide)),
      fun _ => Json.exists_schema_text (shallow.trans (by decide))⟩

/-- So many brackets that open arrays. -/
def openings (count : Nat) : Text := List.replicate count '['

/-- The brackets that close them. -/
def closings (count : Nat) : Text := List.replicate count ']'

theorem exists_writes_openings (count : Nat) :
    ∃ document,
      Json.Dialect.Writes (openings (count + 1) ++ closings (count + 1))
        document := by
  have nothing : Json.Dialect.Blanks [] := nofun
  induction count with
  | zero => exact ⟨_, .array (.none nothing)⟩
  | succ count ih =>
      obtain ⟨item, written⟩ := ih
      have whole := Json.Dialect.Writes.array
        (.some nothing written (.done nothing))
      refine ⟨.array [item], ?_⟩
      rw [closings, List.replicate_succ', openings, List.replicate_succ]
      simpa [Json.Dialect.mark, openings, closings] using whole

/-- The brackets stand in the second item of an array. -/
theorem begins_openings (count : Nat) :
    Json.Dialect.Begins ("[true, " ++ openings (count + 1)) := by
  have nothing : Json.Dialect.Blanks [] := nofun
  have space : Json.Dialect.Blanks " " := by
    unfold Json.Dialect.Blanks
    decide
  obtain ⟨item, written⟩ := exists_writes_openings count
  have whole := Json.Dialect.Writes.array
    (.some nothing .yes (.comma nothing space written (.done nothing)))
  refine ⟨closings (count + 1) ++ "]", .array [.boolean true, item], [], _, [],
    ?_, nothing, nothing, whole⟩
  simp [Json.Dialect.mark, Text.ofString]

open Json.Nesting in
theorem after_openings {opened most : Nat} (reached : opened ≤ most)
    (count : Nat) :
    (between opened most).after (openings count) =
      between (opened + count) (max most (opened + count)) := by
  induction count generalizing opened most with
  | zero => simp [openings, Json.Nesting.after, reached]
  | succ count ih =>
      have first : (between opened most).after (openings (count + 1)) =
          (between (opened + 1) (max most (opened + 1))).after
            (openings count) := rfl
      rw [first, ih (Nat.le_max_right _ _)]
      congr 1 <;> omega

theorem nesting_openings (count : Nat) :
    Json.nesting ("[true, " ++ openings count) = count + 1 := by
  have first : Json.Nesting.after (Json.Nesting.between 0 0) "[true, " =
      Json.Nesting.between 1 1 := rfl
  have whole : Json.Nesting.after (Json.Nesting.between 0 0)
      ("[true, " ++ openings count) =
        Json.Nesting.between (1 + count) (max 1 (1 + count)) := by
    rw [Json.Nesting.after_append, first, after_openings (Nat.le_refl 1)]
  calc
    Json.nesting ("[true, " ++ openings count) =
        (Json.Nesting.after (Json.Nesting.between 0 0)
          ("[true, " ++ openings count)).most := rfl
    _ = max 1 (1 + count) := by rw [whole]; rfl
    _ = count + 1 := by omega

theorem depth_failures_laterItem :
    (Json.Dialect.Begins ("[true, " ++ openings 1499) ∧
      1500 ≤ Json.nesting ("[true, " ++ openings 1499) ∧
      ∃ fault, fault.TellsDepth ∧
        ResponseWriter.write ⟨.disabled, ⟨"1.0", "abc"⟩⟩ ResponseBuffer.sink
            .empty 200 ⟨true, true⟩ ("[true, " ++ openings 1499 ++ "]x\"") =
          ⟨.nothing .empty, [], some fault⟩) ∧
    Json.nesting "[true, [x" ≤ 300 ∧
      ∀ fault, Json.parse "[true, [x" = .error fault → ¬fault.ShowsDepth := by
  obtain ⟨deep, shallow⟩ := depth_failures
  have many : 1500 ≤ Json.nesting ("[true, " ++ openings 1499) :=
    Nat.le_of_eq (nesting_openings 1499).symm
  have few : Json.nesting "[true, [x" ≤ 300 := by decide
  obtain ⟨fault, tells, -, written⟩ :=
    deep _ "]x\"" (begins_openings 1498) many
  exact ⟨⟨begins_openings 1498, many, fault, tells, written ..⟩, few,
    (shallow _ few).1⟩

end ResponseService
