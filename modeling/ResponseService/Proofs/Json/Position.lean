import ResponseService.Proofs.Json.Completion
import ResponseService.Proofs.Schema.Naming

/-!
# Where an error is reported

`Located` says where reading can end with a problem: at a byte order mark,
behind tokens that the machine has taken, or within a quotation that begins
behind such tokens and is broken there.  Every problem of a text is located in
this way (`located_of_readWithin`).  Up to that place the text can therefore be
continued to a document, and if it is what follows a complete document that is
wrong, it is one already.

The message of an error counts lines and columns.  They denote the same place
as the position (`exists_lines`).
-/

namespace ResponseService.Json

/-! ## Broken quotations -/

/-- So many code points of the text can be continued to the inside of a
quotation. -/
def BeginsUnits (text : Text) (length : Nat) : Prop :=
  ∃ units inside rest more, text = inside ++ rest ∧ inside.length = length ∧
    UnitsSpelled units (inside ++ more)

theorem beginsUnits_zero (text : Text) : BeginsUnits text 0 :=
  ⟨[], [], text, [], rfl, rfl, .nil⟩

/-- A unit at the front takes its place in the quotation. -/
theorem TextUnit.Spelled.beginsUnits {unit : TextUnit} {spelling text : Text}
    (spelled : unit.Spelled spelling) {length : Nat}
    (begins : BeginsUnits text length) :
    BeginsUnits (spelling ++ text) (spelling.length + length) := by
  obtain ⟨units, inside, rest, more, rfl, rfl, later⟩ := begins
  refine ⟨unit :: units, spelling ++ inside, rest, more, ?_, ?_, ?_⟩
  · rw [List.append_assoc]
  · rw [List.length_append]
  · rw [List.append_assoc]
    exact .cons spelled later

/-- A backslash can be continued to an escape. -/
theorem beginsUnits_backslash (rest : Text) :
    BeginsUnits (CodePoint.ofChar '\\' :: rest) 1 := by
  have escape : (TextUnit.escaped (CodePoint.ofNat 0x0A)).Spelled ['\\', 'n'] :=
    .shorthand rfl
  have spelled := UnitsSpelled.cons escape .nil
  exact ⟨_, ['\\'], rest, ['n'], rfl, rfl, spelled⟩

theorem Scanned.eq_error_of_cons {unit : TextUnit} {scanned : Scanned}
    {broken : Problem × Nat} (failed : scanned.cons unit = .error broken) :
    scanned = .error broken := by
  cases scanned with
  | ok reached => cases failed
  | error problem => exact failed

/-- A quotation is broken at its opening, or at a place up to which it can be
continued. -/
theorem beginsUnits_of_scanText {opening position place : Nat} {text : Text}
    {problem : Problem}
    (failed : scanText opening position text = .error (problem, place)) :
    problem ≠ .extraData ∧
      (place = opening ∨
        ∃ length, place = position + length ∧ BeginsUnits text length) := by
  -- A unit that has been read moves the place of the problem along.
  have behind {position : Nat} {unit : TextUnit} {spelling rest : Text}
      (spelled : unit.Spelled spelling)
      (later : problem ≠ .extraData ∧
        (place = opening ∨
          ∃ length, place = position + spelling.length + length ∧
            BeginsUnits rest length)) :
      problem ≠ .extraData ∧
        (place = opening ∨
          ∃ length, place = position + length ∧
            BeginsUnits (spelling ++ rest) length) := by
    obtain ⟨other, same | ⟨length, same, begins⟩⟩ := later
    · exact ⟨other, Or.inl same⟩
    · refine ⟨other, Or.inr ⟨spelling.length + length, ?_, ?_⟩⟩
      · rw [same, Nat.add_assoc]
      · exact spelled.beginsUnits begins
  have slash {point : CodePoint} (backslash : point.value = 0x5C) :
      point = CodePoint.ofChar '\\' := CodePoint.eq_of_value_eq backslash
  fun_induction scanText opening position text with
  | case1 position =>
      cases failed
      exact ⟨by decide, Or.inl rfl⟩
  | case2 position point rest quote => cases failed
  | case3 position point _ backslash =>
      cases failed
      exact ⟨by decide, Or.inl rfl⟩
  | case4 position point _ backslash letter u first second third fourth
      following tail number digits ih =>
      have sign : letter = CodePoint.ofChar 'u' := CodePoint.eq_of_value_eq u
      rw [slash backslash, sign]
      exact behind (.numbered digits) (ih (Scanned.eq_error_of_cons failed))
  | case5 position point _ backslash =>
      cases failed
      rw [slash backslash]
      exact ⟨by decide, Or.inr ⟨1, rfl, beginsUnits_backslash _⟩⟩
  | case6 position point _ backslash =>
      cases failed
      rw [slash backslash]
      exact ⟨by decide, Or.inr ⟨1, rfl, beginsUnits_backslash _⟩⟩
  | case7 position point _ backslash letter rest _ value named ih =>
      rw [slash backslash]
      exact behind (.shorthand named) (ih (Scanned.eq_error_of_cons failed))
  | case8 position point _ backslash letter rest _ unnamed =>
      cases failed
      exact ⟨by decide, Or.inr ⟨0, rfl, beginsUnits_zero _⟩⟩
  | case9 position point rest noQuote noBackslash control =>
      cases failed
      exact ⟨by decide, Or.inr ⟨0, rfl, beginsUnits_zero _⟩⟩
  | case10 position point rest noQuote noBackslash visible ih =>
      exact behind (.plain (Nat.not_lt.mp visible) noQuote noBackslash)
        (ih (Scanned.eq_error_of_cons failed))

theorem scanText_of_front_brokenText {position place : Nat} {point : CodePoint}
    {rest : Text} {problem : Problem}
    (met : front position point rest = .obstacle (.brokenText problem place)) :
    point = quoteMark ∧
      scanText position (position + 1) rest = .error (problem, place) := by
  unfold front at met
  split at met
  · cases met
  · split at met
    · next quote =>
        split at met
        · cases met
        · next scanned =>
            cases met
            exact ⟨CodePoint.eq_of_value_eq quote, scanned⟩
    · split at met
      · cases met
      · split at met
        · split at met
          · cases met
          · next refused =>
              -- The value of a number is refused only for its digits.
              cases met
              unfold NumberSpelling.value at refused
              split at refused
              · split at refused <;> cases refused
              · cases refused
        · cases met

/-! ## Where the machine stops -/

/-- The end of the tokens is refused where it is, or where the quotation that
is met there is broken. -/
theorem eq_of_finish_malformed {state : State} {ending : Ending}
    {problem : Problem} {position : Nat}
    (failed : finish state ending = .error (.malformed problem position)) :
    problem = state.problem ∧ position = ending.position ∨
      ending.obstacle = some (.brokenText problem position) ∧
        state.takesText = true := by
  rcases ending with ⟨place, _ | obstacle⟩
  · cases state <;> cases failed <;> exact Or.inl ⟨rfl, rfl⟩
  · cases obstacle with
    | unknown =>
        cases failed
        exact Or.inl ⟨rfl, rfl⟩
    | brokenText broken brokenPlace =>
        simp only [finish] at failed
        split at failed <;> cases failed
        · next takes => exact Or.inr ⟨rfl, takes⟩
        · exact Or.inl ⟨rfl, rfl⟩
    | oversized digits =>
        simp only [finish] at failed
        split at failed <;> cases failed
        exact Or.inl ⟨rfl, rfl⟩

theorem exists_complete_of_extraData {state : State}
    (extra : state.problem = .extraData) :
    ∃ document, state = .complete document := by
  cases state with
  | complete document => exact ⟨document, rfl⟩
  | _ => cases extra

/-- What stands before a token spells the tokens before it. -/
theorem exists_lexes_before {fuel position : Nat} {text : Text}
    {before after : List Placed} {placed : Placed}
    (cut : (tokensWithin fuel position text).1 = before ++ placed :: after) :
    ∃ front rest, text = front ++ rest ∧
      Lexes front (before.map Placed.token) ∧
      placed.position = position + front.length := by
  induction fuel generalizing position text before with
  | zero => cases text <;> simp [tokensWithin] at cut
  | succ fuel ih =>
      cases text with
      | nil => simp [tokensWithin] at cut
      | cons point rest =>
          by_cases blank : isBlank point = true
          · simp only [tokensWithin, blank, if_true] at cut
            obtain ⟨front, behind, rfl, lexes, place⟩ := ih cut
            refine ⟨point :: front, behind, rfl, .blank blank lexes, ?_⟩
            rw [place, List.length_cons]
            omega
          · have solid : isBlank point = false := Bool.not_eq_true _ ▸ blank
            cases known : front position point rest with
            | obstacle obstacle =>
                simp [tokensWithin, solid, known] at cut
            | token token length behind =>
                simp only [tokensWithin, solid, Bool.false_eq_true, if_false,
                  known] at cut
                cases before with
                | nil =>
                    rw [List.nil_append, List.cons.injEq] at cut
                    rw [← cut.1]
                    exact ⟨[], point :: rest, rfl, .nil, rfl⟩
                | cons first before =>
                    rw [List.cons_append, List.cons.injEq] at cut
                    obtain ⟨spelling, spelled, split, rfl⟩ :=
                      spelled_of_front known
                    obtain ⟨front, further, rfl, lexes, place⟩ := ih cut.2
                    refine ⟨spelling ++ front, further, ?_, ?_, ?_⟩
                    · rw [split, List.append_assoc]
                    · rw [List.map_cons, ← cut.1]
                      exact .token spelled lexes
                    · rw [place, List.length_append]
                      omega

/-! ## The place of a problem -/

/-- Where reading can end with a problem. -/
inductive Located (limit : Nat) : Text → Problem → Nat → Prop where
  /-- A byte order mark stands at the very beginning. -/
  | byteOrderMark {text : Text} : Located limit text .byteOrderMark 0
  /-- The machine cannot go on behind what it has taken. -/
  | stopped {before rest : Text} {tokens : List Token} {state : State}
      {problem : Problem}
      (lexes : Lexes before tokens)
      (run : advanceAll limit (.value []) tokens = some state)
      (complete : problem = .extraData → ∃ document, state = .complete document) :
      Located limit (before ++ rest) problem before.length
  /-- A quotation is broken that the machine would take. -/
  | quoted {before rest : Text} {tokens : List Token} {state : State}
      {problem : Problem} {length : Nat}
      (lexes : Lexes before tokens)
      (run : advanceAll limit (.value []) tokens = some state)
      (due : state.takesText = true)
      (begins : BeginsUnits rest length)
      (other : problem ≠ .extraData) :
      Located limit (before ++ quoteMark :: rest) problem
        (before.length + 1 + length)

/-- Every problem of a text is located. -/
theorem located_of_readWithin {limit : Nat} {text : Text} {problem : Problem}
    {position : Nat}
    (failed : readWithin limit text = .error (.malformed problem position)) :
    Located limit text problem position := by
  unfold readWithin at failed
  split at failed
  · cases failed
    exact .byteOrderMark
  · cases taken : run limit (.value []) (tokens text).1 with
    | error error =>
        simp only [taken, Except.error.injEq] at failed
        subst failed
        obtain ⟨earlier, refused, later, state, cut, reached, refusal⟩ :=
          exists_refused_of_run taken
        rcases eq_of_step_error refusal with same | ⟨_, same⟩ <;> cases same
        obtain ⟨before, rest, rfl, lexes, place⟩ := exists_lexes_before cut
        rw [place, Nat.zero_add]
        exact .stopped lexes (run_eq_ok_iff.mp reached)
          exists_complete_of_extraData
    | ok state =>
        simp only [taken] at failed
        rw [run_eq_ok_iff] at taken
        obtain ⟨before, after, split, lexes, place, stops⟩ :=
          exists_lexes_of_tokens text
        rcases eq_of_finish_malformed failed with
          ⟨rfl, rfl⟩ | ⟨obstacle, due⟩
        · rw [place, split]
          exact .stopped lexes taken exists_complete_of_extraData
        · generalize (tokens text).2 = ending at obstacle place stops
          cases stops with
          | complete => cases obstacle
          | met solid met =>
              cases obstacle
              cases place
              obtain ⟨rfl, scanned⟩ := scanText_of_front_brokenText met
              obtain ⟨other, same | ⟨length, same, begins⟩⟩ :=
                beginsUnits_of_scanText scanned
              · rw [split, same]
                exact .stopped lexes taken fun extra => absurd extra other
              · rw [split, same]
                exact .quoted lexes taken due begins other

theorem exists_advance_text {state : State} (due : state.takesText = true)
    (text : Text) :
    ∃ next, ∀ limit, advance limit state (.text text) = some next := by
  cases state with
  | value outer => exact ⟨_, fun _ => rfl⟩
  | firstItem outer => exact ⟨_, fun _ => rfl⟩
  | firstName outer => exact ⟨_, fun _ => rfl⟩
  | name members outer => exact ⟨_, fun _ => rfl⟩
  | _ => cases due

section Located

variable {limit : Nat} {text : Text} {problem : Problem} {position : Nat}

theorem Located.position_le (located : Located limit text problem position) :
    position ≤ text.length := by
  cases located with
  | byteOrderMark => exact Nat.zero_le _
  | stopped lexes run complete => simp
  | quoted lexes run due begins other =>
      obtain ⟨_, inside, rest, _, rfl, rfl, _⟩ := begins
      simp only [List.length_append, List.length_cons]
      omega

/-- Up to the place of its problem a text can be continued to a document, and
the document is nested no deeper than the text. -/
theorem Located.exists_continuation
    (located : Located limit text problem position) :
    ∃ continuation,
      (∃ document,
        readWithin limit (text.take position ++ continuation) =
          .ok document) ∧
        nesting (text.take position ++ continuation) ≤ nesting text := by
  cases located with
  | byteOrderMark =>
      have word (room : Nat) : readWithin room "null" = .ok .null :=
        readWithin_of_complete (.single null_spelled) rfl
      exact ⟨"null", ⟨.null, word limit⟩,
        (nesting_le_of_readWithin (word 0)).trans (Nat.zero_le _)⟩
  | @stopped before rest tokens state _ lexes run complete =>
      rw [List.take_left]
      exact exists_completion lexes run (advanceAll_nesting lexes run rest)
  | @quoted before rest tokens state _ length lexes run due begins other =>
      obtain ⟨units, inside, behind, more, rfl, rfl, spelled⟩ := begins
      obtain ⟨next, taken⟩ := exists_advance_text due (joinUnits units)
      -- The quotation is closed, and then the document is completed.
      have quoted := lexes.append (.single (.quoted spelled))
      have goesOn (room : Nat)
          (run : advanceAll room (.value []) tokens = some state) :
          advanceAll room (.value []) (tokens ++ [.text (joinUnits units)]) =
            some next := by
        rw [advanceAll_append run, advanceAll_cons (taken room),
          advanceAll_nil]
      obtain ⟨continuation, read, shallow⟩ :=
        exists_completion quoted (goesOn _ run)
          (goesOn _ (advanceAll_nesting lexes run
            (quoteMark :: (inside ++ behind))))
      have front :
          (before ++ quoteMark :: (inside ++ behind)).take
              (before.length + 1 + inside.length) =
            before ++ quoteMark :: inside := by
        have apart : before ++ quoteMark :: (inside ++ behind) =
            (before ++ quoteMark :: inside) ++ behind := by simp
        rw [apart]
        apply List.take_left'
        simp only [List.length_append, List.length_cons]
        omega
      refine ⟨more ++ quoteMark :: continuation, ?_⟩
      rw [front]
      have same : before ++ quoteMark :: inside ++
            (more ++ quoteMark :: continuation) =
          before ++ quoteMark :: (inside ++ more ++ [quoteMark]) ++
            continuation := by simp
      rw [same]
      exact ⟨read, shallow⟩

/-- What stands before extra data is a document. -/
theorem Located.exists_document
    (located : Located limit text .extraData position) :
    ∃ document, readWithin limit (text.take position) = .ok document := by
  cases located with
  | stopped lexes run complete =>
      obtain ⟨document, rfl⟩ := complete rfl
      rw [List.take_left]
      exact ⟨document, readWithin_of_complete lexes run⟩
  | quoted lexes run due begins other => exact absurd rfl other

end Located

/-! ## Lines and columns -/

/-- The code point that ends a line. -/
def lineFeed : CodePoint := '\n'

/-- Whole lines, each with its end. -/
def ofLines (lines : List Text) : Text := lines.flatMap (· ++ [lineFeed])

theorem ofLines_append_singleton (lines : List Text) (line : Text) :
    ofLines (lines ++ [line]) = ofLines lines ++ (line ++ [lineFeed]) := by
  simp [ofLines]

/-- The line of this number, counted from one, begins at this position: so many
whole lines stand before it. -/
inductive LineBegins : Text → Nat → Nat → Prop where
  | mk {lines : List Text} {rest : Text}
      (whole : ∀ line ∈ lines, lineFeed ∉ line) :
      LineBegins (ofLines lines ++ rest) (lines.length + 1)
        (ofLines lines).length

/-- A text consists of whole lines and of what stands on the line behind them,
and its end has the line and the column that these tell. -/
theorem exists_lines (text : Text) :
    ∃ lines current, text = ofLines lines ++ current ∧
      (∀ line ∈ lines, lineFeed ∉ line) ∧ lineFeed ∉ current ∧
      text.foldl Place.advance ⟨1, 1⟩ =
        ⟨lines.length + 1, current.length + 1⟩ := by
  induction text using List.reverseRecOn with
  | nil => exact ⟨[], [], rfl, nofun, nofun, rfl⟩
  | append_singleton text point ih =>
      obtain ⟨lines, current, rfl, whole, onLine, place⟩ := ih
      rw [List.foldl_append, place, List.foldl_cons, List.foldl_nil,
        Place.advance]
      by_cases ends : point.value = 0x0A
      · have same : point = lineFeed := CodePoint.eq_of_value_eq ends
        refine ⟨lines ++ [current], [], ?_, ?_, nofun, ?_⟩
        · rw [ofLines_append_singleton, same]
          simp
        · rw [List.forall_mem_append]
          exact ⟨whole, by simpa using onLine⟩
        · simp [ends]
      · have other : lineFeed ≠ point := fun same =>
          ends (congrArg CodePoint.value same).symm
        refine ⟨lines, current ++ [point], ?_, whole, ?_, ?_⟩
        · rw [List.append_assoc]
        · simp [onLine, other]
        · simp [ends]

/-- The place of a position lies on the line that begins before it, as many
columns behind the first as there are code points between. -/
theorem exists_lineBegins {text : Text} {position : Nat}
    (within : position ≤ text.length) :
    ∃ start, LineBegins text (Place.ofPosition text position).line start ∧
      1 ≤ (Place.ofPosition text position).column ∧
      position = start + ((Place.ofPosition text position).column - 1) ∧
      lineFeed ∉ (text.take position).drop start := by
  obtain ⟨lines, current, split, whole, onLine, place⟩ :=
    exists_lines (text.take position)
  have length := congrArg List.length split
  rw [List.length_take, Nat.min_eq_left within, List.length_append] at length
  rw [Place.ofPosition, place]
  refine ⟨(ofLines lines).length, ?_, by simp, by simpa using length, ?_⟩
  · have front := List.take_append_drop position text
    rw [split, List.append_assoc] at front
    rw [← front]
    exact .mk whole
  · rw [split, List.drop_left]
    exact onLine

/-! ## Errors of texts -/

theorem message_eq_extraData {problem : Problem}
    (same : problem.message = "Extra data") : problem = .extraData := by
  cases problem <;> first | rfl | exact absurd same (by decide)

/-- A text that is no JSON is reported with a position.  What stands before it
can be continued to a document that is nested no deeper than the text, and is a
document itself if there is too much behind it.  The line and the column in the
message denote the same place. -/
theorem reported_position {text : Text} {fault cause : Fault}
    {error : SyntaxError} (failed : parse text = .error fault)
    (raised : fault.cause = some cause)
    (malformed : cause.condition = .malformed error) :
    ∃ position : Nat,
      fault.condition =
          .service (.schemaInference error.problem.message (some position)) ∧
        position ≤ text.length ∧
        (∃ continuation,
          (∃ document,
            parse (text.take position ++ continuation) = .ok document) ∧
            nesting (text.take position ++ continuation) ≤ nesting text) ∧
        (error.problem.message = "Extra data" →
          ∃ document, parse (text.take position) = .ok document) ∧
        ∃ line column start,
          cause.message = .ok
              (error.problem.message ++ ": line " ++ Decimal.ofNat line ++
                " column " ++ Decimal.ofNat column ++ " (char " ++
                Decimal.ofNat position ++ ")") ∧
            LineBegins text line start ∧ 1 ≤ column ∧
            position = start + (column - 1) ∧
            lineFeed ∉ (text.take position).drop start := by
  rw [parse] at failed
  cases read : Json.read text with
  | ok document => simp [read] at failed
  | error reason =>
      simp only [read, Except.error.injEq] at failed
      subst failed
      cases reason with
      | tooDeep bracket =>
          cases raised
          cases malformed
      | oversized digits => cases raised
      | malformed problem position =>
          cases raised
          cases malformed
          have located := located_of_readWithin read
          obtain ⟨start, begins, column, place, onLine⟩ :=
            exists_lineBegins located.position_le
          refine ⟨position, rfl, located.position_le, ?_, ?_, _, _, start, rfl,
            begins, column, place, onLine⟩
          · obtain ⟨continuation, ⟨document, read⟩, shallow⟩ :=
              located.exists_continuation
            exact ⟨continuation, ⟨document, parse_eq_ok_iff.mpr read⟩, shallow⟩
          · intro extra
            cases message_eq_extraData extra
            obtain ⟨document, read⟩ := located.exists_document
            exact ⟨document, parse_eq_ok_iff.mpr read⟩

/-- An escape that does not exist, on the second line of a text that is left
open. -/
def unknownEscapeText : Text := "[[1],\n\"a\\q"

/-- The error is reported at the backslash, in the third column of the second
line, and what stands before the backslash can be continued. -/
theorem reported_position_unknownEscape :
    parse unknownEscapeText =
        .error (.causedBy
          (.service (.schemaInference "Invalid \\escape" (some 8)))
          (.ofCondition (.malformed ⟨.unknownEscape, 8, ⟨2, 3⟩⟩))) ∧
      ∃ continuation,
        (∃ document, parse ("[[1],\n\"a" ++ continuation) = .ok document) ∧
          nesting ("[[1],\n\"a" ++ continuation) ≤ 2 := by
  have read : Json.read unknownEscapeText =
      .error (.malformed .unknownEscape 8) := by
    have met :
        (match Json.read unknownEscapeText with
          | .error reason => decide (reason = .malformed .unknownEscape 8)
          | .ok _ => false) = true := by
      decide +kernel
    cases result : Json.read unknownEscapeText with
    | error reason =>
        rw [result] at met
        rw [of_decide_eq_true met]
    | ok document =>
        rw [result] at met
        cases met
  have place : Place.ofPosition unknownEscapeText 8 = ⟨2, 3⟩ := by decide
  have failed : parse unknownEscapeText =
      .error (.causedBy
        (.service (.schemaInference "Invalid \\escape" (some 8)))
        (.ofCondition (.malformed ⟨.unknownEscape, 8, ⟨2, 3⟩⟩))) := by
    rw [parse, read]
    simp only [Fault.ofReadError, Fault.ofSchemaProblem, SyntaxError.ofText,
      place]
    rfl
  refine ⟨failed, ?_⟩
  obtain ⟨position, reported, _, continued, _⟩ :=
    reported_position failed rfl rfl
  have here : position = 8 := by
    simp only [Fault.causedBy, Fault.ofCondition, Fault.bare,
      Condition.service.injEq, ServiceError.schemaInference,
      ServiceError.general, ServiceError.mk.injEq,
      ServiceError.Kind.schemaInference.injEq, Option.some.injEq] at reported
    omega
  subst here
  exact continued

end ResponseService.Json
