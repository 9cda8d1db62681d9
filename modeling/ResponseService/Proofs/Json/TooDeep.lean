import ResponseService.Proofs.Json.Completion
import ResponseService.Proofs.Json.Denotation
import ResponseService.Proofs.Json.Oversized

/-!
# Where the room for containers runs out

Reading ends for want of room exactly where a bracket opens a container while
as many are open as may be, and everything before the bracket is in order
(`readWithin_eq_tooDeep_iff`).  Nothing behind the bracket counts.

A beginning of a text is free of errors if it can be continued to a text of the
dialect (`Dialect.Begins`).  In these terms, which do not refer to the reader,
reading ends for want of room exactly if a beginning that is free of errors has
too many brackets open at the same time (`exists_tooDeep_iff`).
-/

namespace ResponseService.Json

/-- The text can be continued to one that denotes a document. -/
def Dialect.Begins (text : Text) : Prop :=
  ∃ continuation document, Dialect.Denotes (text ++ continuation) document

/-- The token that opens a container. -/
def Bracket.opening : Bracket → Token
  | .array => .openArray
  | .object => .openObject

/-! ## Splitting a text at a bracket -/

/-- What spells a token among others is cut out by the tokens before it. -/
theorem exists_spelling {before after : List Token} {token : Token}
    {text : Text} (lexes : Lexes text (before ++ token :: after)) :
    ∃ left spelling right, text = left ++ (spelling ++ right) ∧
      Lexes left before ∧ token.Spelled spelling ∧ Lexes right after := by
  induction before generalizing text with
  | nil =>
      obtain ⟨left, spelling, right, split, blanks, spelled, tail⟩ :=
        Dialect.exists_first lexes
      exact ⟨left, spelling, right, split, Dialect.lexes_of_blanks blanks,
        spelled, tail⟩
  | cons first before ih =>
      obtain ⟨blanks, front, behind, rfl, blank, head, tail⟩ :=
        Dialect.exists_first lexes
      obtain ⟨left, spelling, right, rfl, tokens, spelled, rest⟩ := ih tail
      refine ⟨blanks ++ (front ++ left), spelling, right, by simp, ?_, spelled,
        rest⟩
      exact blank.lexes (.token head tokens)

theorem not_inScalar_of_punctuation? {point : CodePoint} {mark : Token}
    (known : punctuation? point = some mark) : ¬InScalar point := by
  have value := punctuation?_value known
  simp only [List.mem_cons, List.not_mem_nil, or_false] at value
  unfold InScalar BeginsScalar
  omega

/-- A token with a punctuation mark in its spelling, outside quotations, is that
mark. -/
theorem eq_of_spelled_mark {token mark : Token} {left more : Text}
    {point : CodePoint} (spelled : token.Spelled (left ++ point :: more))
    (known : punctuation? point = some mark) {opened most : Nat}
    (outside : (Nesting.after (.between opened most) left).quoted = false) :
    left = [] ∧ token = mark := by
  have noQuote : punctuation? quoteMark = none := rfl
  have listed : point ∈ left ++ point :: more := by simp
  generalize whole : left ++ point :: more = spelling at spelled listed
  cases spelled with
  | mark other =>
      cases left with
      | nil =>
          cases whole
          exact ⟨rfl, Option.some.inj (other.symm.trans known)⟩
      | cons first left => simp at whole
  | @quoted units inside between =>
      cases left with
      | nil =>
          cases whole
          rw [noQuote] at known
          cases known
      | cons first left =>
          rw [List.cons_append, List.cons.injEq] at whole
          obtain ⟨rfl, behind⟩ := whole
          rcases List.append_eq_append_iff.mp behind with
            ⟨rest, same, _⟩ | ⟨rest, _, same⟩
          · have quoted :
                (Nesting.after (.within opened most) left).quoted = true :=
              Nesting.quoted_of_units between same
            exact absurd (quoted.symm.trans outside) (by decide)
          · cases rest with
            | nil =>
                cases same
                rw [noQuote] at known
                cases known
            | cons other rest => simp at same
  | word named =>
      exact absurd (inScalar_of_word named point listed)
        (not_inScalar_of_punctuation? known)
  | number wellFormed valued =>
      exact absurd (inScalar_of_number wellFormed point listed)
        (not_inScalar_of_punctuation? known)

open Nesting in
/-- A punctuation mark outside quotations is a token of its own. -/
theorem exists_lexes_at_mark {text left right : Text} {tokens : List Token}
    {point : CodePoint} {mark : Token} (lexes : Lexes text tokens)
    (split : text = left ++ point :: right)
    (known : punctuation? point = some mark) {opened most : Nat}
    (outside : ((between opened most).after left).quoted = false) :
    ∃ before after, tokens = before ++ mark :: after ∧ Lexes left before := by
  induction lexes generalizing left opened most with
  | nil => simp at split
  | @blank first rest tokens blank tail ih =>
      cases left with
      | nil =>
          rw [List.nil_append, List.cons.injEq] at split
          rw [split.1, (isBlank_eq_false_of_punctuation? known).1] at blank
          cases blank
      | cons other left =>
          rw [List.cons_append, List.cons.injEq] at split
          obtain ⟨rfl, rfl⟩ := split
          have skipped : (between opened most).after (first :: left) =
              (between opened most).after left := by
            rw [← List.singleton_append, after_append,
              after_lexes (.blank blank .nil)]
            rfl
          rw [skipped] at outside
          obtain ⟨before, after, same, front⟩ := ih rfl outside
          exact ⟨before, after, same, .blank blank front⟩
  | @token token spelling rest tokens head tail ih =>
      rcases List.append_eq_append_iff.mp split with
        ⟨more, rfl, behind⟩ | ⟨more, same, behind⟩
      · obtain ⟨now, ever, taken⟩ := exists_take_between opened most token
        rw [after_append, after_spelled head, taken] at outside
        obtain ⟨before, after, rfl, front⟩ := ih behind outside
        exact ⟨token :: before, after, rfl, .token head front⟩
      · cases more with
        | nil =>
            rw [List.append_nil] at same
            obtain ⟨before, after, rfl, front⟩ :=
              ih (show rest = [] ++ point :: right from behind.symm)
                (show ((between 0 0).after []).quoted = false from rfl)
            have whole := Lexes.token head front
            rw [List.append_nil, same] at whole
            exact ⟨token :: before, after, rfl, whole⟩
        | cons other more =>
            rw [List.cons_append, List.cons.injEq] at behind
            obtain ⟨rfl, rfl⟩ := behind
            rw [same] at head
            obtain ⟨rfl, rfl⟩ := eq_of_spelled_mark head known outside
            exact ⟨[], tokens, rfl, .nil⟩

/-! ## A bracket without room -/

theorem punctuation?_of_spelled_opening {bracket : Bracket} {spelling : Text}
    (spelled : bracket.opening.Spelled spelling) :
    ∃ point, spelling = [point] ∧
      punctuation? point = some bracket.opening := by
  generalize same : bracket.opening = token at spelled
  cases spelled with
  | mark known => exact ⟨_, rfl, known⟩
  | _ => cases bracket <;> cases same

/-- A bracket opens a container for which there is no room, and everything
before it is in order. -/
inductive MeetsTooDeep (limit : Nat) : Text → Bracket → Prop where
  | mk {before rest : Text} {tokens : List Token} {state : State}
      {point : CodePoint} {bracket : Bracket}
      (lexes : Lexes before tokens)
      (run : advanceAll limit (.value []) tokens = some state)
      (due : state.takesNumber = true)
      (full : limit ≤ state.opened)
      (opens : punctuation? point = some bracket.opening) :
      MeetsTooDeep limit (before ++ point :: rest) bracket

theorem enter_eq_error_iff {limit : Nat} {bracket wanted : Bracket}
    {outer : List Frame} :
    enter limit bracket outer = .error (.tooDeep wanted) ↔
      bracket = wanted ∧ limit ≤ outer.length := by
  by_cases room : outer.length < limit
  · cases bracket <;> simp [enter, room]
  · simp [enter, room, Nat.not_lt.mp room]

theorem stepValue_eq_tooDeep_iff {limit : Nat} {outer : List Frame}
    {placed : Placed} {bracket : Bracket} :
    stepValue limit outer placed = .error (.tooDeep bracket) ↔
      placed.token = bracket.opening ∧ limit ≤ outer.length := by
  rcases placed with ⟨position, token⟩
  cases token <;> simp [stepValue, enter_eq_error_iff] <;>
    cases bracket <;> simp [Bracket.opening]

/-- Where a value is due, an opening bracket is refused exactly if there is no
room. -/
theorem step_eq_tooDeep_iff {limit : Nat} {state : State} {placed : Placed}
    {bracket : Bracket} :
    step limit state placed = .error (.tooDeep bracket) ↔
      placed.token = bracket.opening ∧ state.takesNumber = true ∧
        limit ≤ state.opened := by
  rcases placed with ⟨position, token⟩
  cases state with
  | value outer =>
      simp [step, stepValue_eq_tooDeep_iff, State.takesNumber, State.opened]
  | firstItem outer =>
      by_cases close : token = .closeArray
      · subst close
        cases bracket <;> simp [step, Bracket.opening]
      · simp [step, stepValue_eq_tooDeep_iff, State.takesNumber, State.opened]
  | _ => cases token <;> simp [step, State.takesNumber]

theorem finish_ne_tooDeep {state : State} {ending : Ending}
    {bracket : Bracket} : finish state ending ≠ .error (.tooDeep bracket) := by
  rcases ending with ⟨position, _ | obstacle⟩
  · cases state <;> simp [finish]
  · cases obstacle <;> simp [finish] <;> split <;> simp

theorem meetsTooDeep_of_readWithin {limit : Nat} {text : Text}
    {bracket : Bracket}
    (failed : readWithin limit text = .error (.tooDeep bracket)) :
    MeetsTooDeep limit text bracket := by
  unfold readWithin at failed
  split at failed
  · cases failed
  · cases taken : run limit (.value []) (tokens text).1 with
    | ok state =>
        rw [taken] at failed
        exact absurd failed finish_ne_tooDeep
    | error problem =>
        rw [taken] at failed
        cases failed
        obtain ⟨before, refused, after, state, split, reached, refusal⟩ :=
          exists_refused_of_run taken
        obtain ⟨opens, due, full⟩ := step_eq_tooDeep_iff.mp refusal
        obtain ⟨front, behind, rfl, lexes, -, -⟩ := exists_lexes_of_tokens text
        rw [split, List.map_append, List.map_cons] at lexes
        obtain ⟨left, spelling, right, rfl, leftLexes, spelled, -⟩ :=
          exists_spelling lexes
        rw [opens] at spelled
        obtain ⟨point, rfl, known⟩ := punctuation?_of_spelled_opening spelled
        have meets :
            MeetsTooDeep limit (left ++ point :: (right ++ behind)) bracket :=
          .mk leftLexes (run_eq_ok_iff.mp reached) due full known
        simpa using meets

theorem advance_opening {limit : Nat} {state : State}
    (due : state.takesNumber = true) (room : state.opened < limit)
    (bracket : Bracket) :
    ∃ next, advance limit state bracket.opening = some next := by
  have value {outer : List Frame} (room : outer.length < limit) :
      ∃ next, advance limit (.value outer) bracket.opening = some next := by
    cases bracket with
    | array => exact ⟨_, advance_value_openArray room⟩
    | object => exact ⟨_, advance_value_openObject room⟩
  cases state with
  | value outer => exact value room
  | firstItem outer =>
      have more : bracket.opening ≠ .closeArray := by
        cases bracket <;> exact nofun
      rw [advance_firstItem limit outer more]
      exact value room
  | _ => cases due

open Nesting in
/-- The count of the brackets and the machine agree on what is open. -/
theorem exists_between_of_advanceAll {limit : Nat} {state last : State}
    {tokens : List Token} (most : Nat)
    (run : advanceAll limit state tokens = some last) :
    ∃ now, tokens.foldl take (between state.opened most) =
      between last.opened now := by
  induction tokens generalizing state most with
  | nil =>
      cases run
      exact ⟨most, rfl⟩
  | cons token rest ih =>
      obtain ⟨next, taken, later⟩ := advanceAll_cons_eq_some run
      obtain ⟨now, same, -⟩ := take_of_advance most taken
      rw [List.foldl_cons, same]
      exact ih now later

open Nesting in
/-- With as much room as the brackets of the text tell, an opening bracket is
taken where a value is due. -/
theorem exists_advanceAll_opening {limit : Nat} {before : Text}
    {tokens : List Token} {state : State} {point : CodePoint}
    {bracket : Bracket} (lexes : Lexes before tokens)
    (run : advanceAll limit (.value []) tokens = some state)
    (due : state.takesNumber = true)
    (opens : punctuation? point = some bracket.opening) :
    state.opened < nesting (before ++ [point]) ∧
      ∃ next, advanceAll (nesting (before ++ [point])) (.value [])
        (tokens ++ [bracket.opening]) = some next := by
  obtain ⟨now, counted⟩ := exists_between_of_advanceAll 0 run
  have most : nesting (before ++ [point]) = max now (state.opened + 1) := by
    have whole : (between 0 0).after (before ++ [point]) =
        (between state.opened now).take bracket.opening := by
      rw [after_append, after_lexes lexes, ← after_spelled (.mark opens)]
      exact congrArg (fun state => state.after [point]) counted
    calc
      nesting (before ++ [point]) =
          ((between 0 0).after (before ++ [point])).most := rfl
      _ = ((between state.opened now).take bracket.opening).most := by
        rw [whole]
      _ = max now (state.opened + 1) := by cases bracket <;> rfl
  have room : state.opened < nesting (before ++ [point]) := by omega
  obtain ⟨next, taken⟩ := advance_opening due room bracket
  refine ⟨room, next, ?_⟩
  rw [advanceAll_append (advanceAll_nesting lexes run [point]),
    advanceAll_cons taken, advanceAll_nil]

theorem not_isScalar_opening (bracket : Bracket) :
    ¬bracket.opening.IsScalar := by
  cases bracket <;> exact id

/-- What is taken, and an opening bracket where a value is due, is cut from the
front of every text that begins with it. -/
theorem exists_tokens_opening {limit : Nat} {before : Text}
    {expected : List Token} {state : State} {point : CodePoint}
    {bracket : Bracket} (lexes : Lexes before expected)
    (taken : advanceAll limit (.value []) expected = some state)
    (due : state.takesNumber = true)
    (opens : punctuation? point = some bracket.opening) (rest : Text) :
    ∃ front refused more, front.map Placed.token = expected ∧
      refused.token = bracket.opening ∧
      (tokens (before ++ point :: rest)).1 = front ++ refused :: more := by
  obtain ⟨-, next, further⟩ := exists_advanceAll_opening lexes taken due opens
  have spelled : Lexes (before ++ [point]) (expected ++ [bracket.opening]) :=
    lexes.append (.single (.mark opens))
  have ends : EndsLast (expected ++ [bracket.opening]) rest := by
    intro token last scalar
    rw [List.getLast?_concat, Option.mem_some_iff] at last
    exact absurd (last ▸ scalar) (not_isScalar_opening bracket)
  obtain ⟨placed, remaining, -, same, cut⟩ :=
    tokensWithin_append spelled (separated_of_advanceAll further) ends
      (Nat.le_refl _) 0
  obtain ⟨front, last, rfl, frontTokens, lastToken⟩ :=
    List.map_eq_append_iff.mp same
  obtain ⟨refused, others, rfl, opening, nothing⟩ :=
    List.map_eq_cons_iff.mp lastToken
  obtain rfl := List.map_eq_nil_iff.mp nothing
  rw [← List.append_cons, ← List.append_cons] at cut
  exact ⟨front, refused, _, frontTokens, opening, congrArg Prod.fst cut⟩

theorem readWithin_of_meetsTooDeep {limit : Nat} {text : Text}
    {bracket : Bracket} (meets : MeetsTooDeep limit text bracket) :
    readWithin limit text = .error (.tooDeep bracket) := by
  obtain @⟨before, rest, expected, state, point, bracket, lexes, taken, due,
    full, opens⟩ := meets
  obtain ⟨front, refused, more, rfl, opening, cut⟩ :=
    exists_tokens_opening lexes taken due opens rest
  have refusal : step limit state refused = .error (.tooDeep bracket) :=
    step_eq_tooDeep_iff.mpr ⟨opening, due, full⟩
  have failed := run_of_refused (run_eq_ok_iff.mpr taken) refusal more
  have noMark : (before ++ point :: rest).head?.any
      (fun first => decide (first.value = 0xFEFF)) = false := by
    refine lexes.no_byteOrderMark_append (fun other => ?_) rest
    simp [punctuation?, other] at opens
  rw [readWithin, if_neg (ne_true_of_eq_false noMark), cut, failed]

/-- Reading ends for want of room exactly where a bracket opens a container
while as many are open as may be, and everything before it is in order. -/
theorem readWithin_eq_tooDeep_iff {limit : Nat} {text : Text}
    {bracket : Bracket} :
    readWithin limit text = .error (.tooDeep bracket) ↔
      MeetsTooDeep limit text bracket :=
  ⟨meetsTooDeep_of_readWithin, readWithin_of_meetsTooDeep⟩

/-! ## Counting to the bracket -/

namespace Nesting

/-- Somewhere in a text the count passes every number that it passes. -/
theorem exists_passing {limit : Nat} {state : Nesting} {text : Text}
    (few : state.most ≤ limit) (many : limit < (state.after text).most) :
    ∃ left point right, text = left ++ point :: right ∧
      (state.after left).most ≤ limit ∧
      limit < ((state.after left).step point).most := by
  induction text generalizing state with
  | nil => exact absurd many (Nat.not_lt.mpr few)
  | cons first text ih =>
      by_cases here : limit < (state.step first).most
      · exact ⟨[], first, text, rfl, few, here⟩
      · obtain ⟨left, point, right, rfl, before, passes⟩ :=
          ih (Nat.not_lt.mp here) many
        exact ⟨first :: left, point, right, rfl, before, passes⟩

/-- Only an opening bracket outside quotations raises the count. -/
theorem opening_of_lt_step {state : Nesting} {point : CodePoint}
    (raised : state.most < (state.step point).most) :
    state.quoted = false ∧
      (∃ bracket : Bracket, punctuation? point = some bracket.opening) ∧
      (state.step point).most = max state.most (state.opened + 1) := by
  have outside : state.escaped = false ∧ state.quoted = false ∧
      (point.value = 0x5B ∨ point.value = 0x7B) := by
    unfold step at raised
    split_ifs at raised with escaped quoted _ _ _ opens
    all_goals first
      | exact absurd raised (Nat.lt_irrefl _)
      | exact ⟨by simpa using escaped, by simpa using quoted, opens⟩
  obtain ⟨escaped, quoted, opens⟩ := outside
  refine ⟨quoted, ?_, ?_⟩
  · rcases opens with square | curly
    · exact ⟨.array, by simp [punctuation?, square, Bracket.opening]⟩
    · exact ⟨.object, by simp [punctuation?, curly, Bracket.opening]⟩
  · have noQuote : point.value ≠ 0x22 := by omega
    simp [step, escaped, quoted, noQuote, opens]

end Nesting

/-- A run over several parts stops between them. -/
theorem exists_advanceAll_of_append {limit : Nat} {state last : State}
    {tokens more : List Token}
    (run : advanceAll limit state (tokens ++ more) = some last) :
    ∃ next, advanceAll limit state tokens = some next ∧
      advanceAll limit next more = some last := by
  induction tokens generalizing state with
  | nil => exact ⟨state, rfl, run⟩
  | cons token rest ih =>
      obtain ⟨between, taken, later⟩ := advanceAll_cons_eq_some run
      obtain ⟨next, reached, behind⟩ := ih later
      exact ⟨next, by rw [advanceAll_cons taken, reached], behind⟩

theorem takesNumber_of_advance_opening {limit : Nat} {state next : State}
    {bracket : Bracket}
    (taken : advance limit state bracket.opening = some next) :
    state.takesNumber = true := by
  cases state with
  | value outer => rfl
  | firstItem outer => rfl
  | _ => cases bracket <;> cases taken

open Nesting in
/-- Where a beginning that is free of errors has too many brackets open, one of
them has no room. -/
theorem exists_meetsTooDeep_of_begins {limit : Nat} {before : Text}
    (begins : Dialect.Begins before) (many : limit < nesting before)
    (rest : Text) : ∃ bracket, MeetsTooDeep limit (before ++ rest) bracket := by
  obtain ⟨continuation, document, denotes⟩ := begins
  obtain ⟨tree, lexes, -⟩ := Dialect.denotes_iff.mp denotes
  have none : (between 0 0).most ≤ limit := Nat.zero_le limit
  obtain ⟨left, point, right, rfl, few, passes⟩ := exists_passing none many
  obtain ⟨outside, ⟨bracket, opens⟩, raised⟩ :=
    opening_of_lt_step (few.trans_lt passes)
  obtain ⟨tokens, after, split, front⟩ :=
    exists_lexes_at_mark lexes (List.append_assoc _ _ _) opens outside
  have whole := advanceAll_lexemes tree [] (Nat.le_refl _) []
  rw [List.append_nil, split, advanceAll_nil] at whole
  obtain ⟨state, run, behind⟩ := exists_advanceAll_of_append whole
  obtain ⟨next, taken, -⟩ := advanceAll_cons_eq_some behind
  obtain ⟨now, counted⟩ := exists_between_of_advanceAll 0 run
  -- Up to the bracket the count and the machine agree, and the count is small.
  rw [after_lexes front] at few passes raised
  have narrow : advanceAll limit (.value []) tokens = some state :=
    advanceAll_of_most_le 0 run few
  have full : limit ≤ state.opened := by
    change tokens.foldl take (between 0 0) = between state.opened now at counted
    rw [counted] at few passes raised
    rw [raised] at passes
    simp only [between] at few passes
    omega
  have due := takesNumber_of_advance_opening taken
  rw [List.append_assoc, List.cons_append]
  exact ⟨bracket, .mk front narrow due full opens⟩

open Nesting in
/-- Before a bracket that has no room, and with it, the text is free of
errors. -/
theorem exists_begins_of_meetsTooDeep {limit : Nat} {text : Text}
    {bracket : Bracket} (meets : MeetsTooDeep limit text bracket) :
    ∃ before rest, text = before ++ rest ∧ Dialect.Begins before ∧
      limit < nesting before := by
  obtain @⟨before, rest, tokens, state, point, bracket, lexes, run, due, full,
    opens⟩ := meets
  obtain ⟨room, next, further⟩ := exists_advanceAll_opening lexes run due opens
  refine ⟨before ++ [point], rest, by simp, ?_, full.trans_lt room⟩
  obtain ⟨continuation, ⟨document, read⟩, -⟩ :=
    exists_completion (lexes.append (.single (.mark opens))) further further
  exact ⟨continuation, document, Dialect.denotes_of_readWithin read⟩

/-- Reading ends for want of room exactly if a beginning of the text is free of
errors and has more brackets open than there may be. -/
theorem exists_tooDeep_iff {limit : Nat} {text : Text} :
    (∃ bracket, readWithin limit text = .error (.tooDeep bracket)) ↔
      ∃ before rest, text = before ++ rest ∧ Dialect.Begins before ∧
        limit < nesting before := by
  simp only [readWithin_eq_tooDeep_iff]
  constructor
  · rintro ⟨bracket, meets⟩
    exact exists_begins_of_meetsTooDeep meets
  · rintro ⟨before, rest, rfl, begins, many⟩
    exact exists_meetsTooDeep_of_begins begins many rest

end ResponseService.Json
