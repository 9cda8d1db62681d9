import ResponseService.Proofs.Json.Grammar

/-!
# The machine that reads documents

Whether the machine takes a token does not depend on where the token stands
(`step_eq_ok_iff`), so a run without errors is a run over bare tokens
(`advanceAll`).

Over the tokens of a document such a run delivers what the document stands for
(`advanceAll_lexemes`).  Conversely every run that completes a document has
taken the tokens of some written document (`everything_read`).  Both speak of
arbitrary open containers and arbitrary further tokens, which is what lets the
inductions go through.
-/

namespace ResponseService.Json

/-- The state behind a token, if the machine takes it. -/
def advance (limit : Nat) (state : State) (token : Token) : Option State :=
  (step limit state ⟨0, token⟩).toOption

/-- The state behind some tokens, if the machine takes them all. -/
def advanceAll (limit : Nat) (state : State) : List Token → Option State
  | [] => some state
  | token :: rest =>
      (advance limit state token).bind fun next => advanceAll limit next rest

@[simp]
theorem advanceAll_nil (limit : Nat) (state : State) :
    advanceAll limit state [] = some state := rfl

theorem advanceAll_cons {limit : Nat} {state next : State} {token : Token}
    (taken : advance limit state token = some next) (rest : List Token) :
    advanceAll limit state (token :: rest) = advanceAll limit next rest := by
  simp [advanceAll, taken]

theorem advanceAll_cons_eq_some {limit : Nat} {state last : State}
    {token : Token} {rest : List Token}
    (run : advanceAll limit state (token :: rest) = some last) :
    ∃ next, advance limit state token = some next ∧
      advanceAll limit next rest = some last := by
  simpa [advanceAll, Option.bind_eq_some_iff] using run

/-- Where a token stands matters only if it is not taken. -/
theorem step_eq_ok_iff {limit : Nat} {state next : State} {placed : Placed} :
    step limit state placed = .ok next ↔
      advance limit state placed.token = some next := by
  rcases placed with ⟨position, token⟩
  have value (outer : List Frame) :
      stepValue limit outer ⟨position, token⟩ = .ok next ↔
        (stepValue limit outer ⟨0, token⟩).toOption = some next := by
    cases token <;> simp [stepValue, Except.toOption] <;>
      (split <;> simp_all)
  cases state <;> cases token <;>
    simp [advance, step, Except.toOption, value]

/-- A run without errors is a run over the bare tokens. -/
theorem run_eq_ok_iff {limit : Nat} {state last : State}
    {placed : List Placed} :
    run limit state placed = .ok last ↔
      advanceAll limit state (placed.map Placed.token) = some last := by
  induction placed generalizing state with
  | nil => simp [run, pure, Except.pure]
  | cons first rest ih =>
      cases taken : step limit state first with
      | error problem =>
          have refused : advance limit state first.token = none := by
            rw [Option.eq_none_iff_forall_ne_some]
            intro next advanced
            rw [step_eq_ok_iff.mpr advanced] at taken
            cases taken
          simp [run, List.foldlM_cons, taken, refused, advanceAll, bind,
            Except.bind]
      | ok next =>
          have advanced := step_eq_ok_iff.mp taken
          rw [List.map_cons, advanceAll_cons advanced, ← ih]
          simp [run, List.foldlM_cons, taken, bind, Except.bind]

/-! ## Refusals -/

/-- A container is refused only for the room that it needs. -/
theorem eq_of_enter_error {limit : Nat} {bracket : Bracket}
    {outer : List Frame} {error : ReadError}
    (refused : enter limit bracket outer = .error error) :
    error = .tooDeep bracket := by
  unfold enter at refused
  split at refused
  · cases bracket <;> cases refused
  · cases refused
    rfl

theorem eq_of_stepValue_error {limit : Nat} {outer : List Frame}
    {placed : Placed} {error : ReadError}
    (refused : stepValue limit outer placed = .error error) :
    error = .malformed .missingValue placed.position ∨
      ∃ bracket, error = .tooDeep bracket := by
  rw [stepValue] at refused
  split at refused
  · exact Or.inr ⟨.array, eq_of_enter_error refused⟩
  · exact Or.inr ⟨.object, eq_of_enter_error refused⟩
  · cases refused
  · cases refused
  · cases refused
    exact Or.inl rfl

/-- A token is refused where it stands, as the problem of the state, or for
the room that it needs. -/
theorem eq_of_step_error {limit : Nat} {state : State} {placed : Placed}
    {error : ReadError} (refused : step limit state placed = .error error) :
    error = .malformed state.problem placed.position ∨
      ∃ bracket, error = .tooDeep bracket := by
  cases state with
  | value outer => exact eq_of_stepValue_error refused
  | firstItem outer =>
      rw [step] at refused
      split at refused
      · cases refused
      · exact eq_of_stepValue_error refused
  | complete document =>
      cases refused
      exact Or.inl rfl
  | _ =>
      rw [step] at refused
      split at refused <;> cases refused
      exact Or.inl rfl

/-- A run fails at one token, and takes those before it. -/
theorem exists_refused_of_run {limit : Nat} {state : State}
    {placed : List Placed} {error : ReadError}
    (failed : run limit state placed = .error error) :
    ∃ before refused after reached, placed = before ++ refused :: after ∧
      run limit state before = .ok reached ∧
      step limit reached refused = .error error := by
  induction placed generalizing state with
  | nil => cases failed
  | cons first rest ih =>
      rw [run, List.foldlM_cons] at failed
      cases taken : step limit state first with
      | error problem =>
          rw [taken] at failed
          cases failed
          exact ⟨[], first, rest, state, rfl, rfl, taken⟩
      | ok next =>
          rw [taken] at failed
          obtain ⟨before, refused, after, reached, rfl, later, refusal⟩ :=
            ih failed
          refine ⟨first :: before, refused, after, reached, rfl, ?_, refusal⟩
          rw [run, List.foldlM_cons, taken]
          exact later

/-- A token that is refused behind those that are taken ends the run. -/
theorem run_of_refused {limit : Nat} {state reached : State}
    {before : List Placed} {refused : Placed} {error : ReadError}
    (taken : run limit state before = .ok reached)
    (refusal : step limit reached refused = .error error)
    (after : List Placed) :
    run limit state (before ++ refused :: after) = .error error := by
  rw [run] at taken
  rw [run, List.foldlM_append, taken]
  simp only [List.foldlM_cons, refusal, bind, Except.bind]

/-! ## Single steps -/

section Steps

variable (limit : Nat) (outer : List Frame)

theorem advance_value_openArray {limit : Nat} {outer : List Frame}
    (room : outer.length < limit) :
    advance limit (.value outer) .openArray = some (.firstItem outer) := by
  simp [advance, step, stepValue, enter, room, Except.toOption]

theorem advance_value_openObject {limit : Nat} {outer : List Frame}
    (room : outer.length < limit) :
    advance limit (.value outer) .openObject = some (.firstName outer) := by
  simp [advance, step, stepValue, enter, room, Except.toOption]

/-- A container is opened only where there is room for it. -/
theorem room_of_advance_openArray {limit : Nat} {outer : List Frame}
    {next : State}
    (taken : advance limit (.value outer) .openArray = some next) :
    outer.length < limit ∧ next = .firstItem outer := by
  by_cases room : outer.length < limit
  · rw [advance_value_openArray room, Option.some.injEq] at taken
    exact ⟨room, taken.symm⟩
  · simp [advance, step, stepValue, enter, room, Except.toOption] at taken

theorem room_of_advance_openObject {limit : Nat} {outer : List Frame}
    {next : State}
    (taken : advance limit (.value outer) .openObject = some next) :
    outer.length < limit ∧ next = .firstName outer := by
  by_cases room : outer.length < limit
  · rw [advance_value_openObject room, Option.some.injEq] at taken
    exact ⟨room, taken.symm⟩
  · simp [advance, step, stepValue, enter, room, Except.toOption] at taken

theorem advance_firstItem_closeArray :
    advance limit (.firstItem outer) .closeArray =
      some (deliver (.array []) outer) := rfl

theorem advance_firstItem {token : Token} (more : token ≠ .closeArray) :
    advance limit (.firstItem outer) token =
      advance limit (.value (.item [] :: outer)) token := by
  cases token <;> first | rfl | exact absurd rfl more

theorem advanceAll_firstItem {token : Token} (more : token ≠ .closeArray)
    (rest : List Token) :
    advanceAll limit (.firstItem outer) (token :: rest) =
      advanceAll limit (.value (.item [] :: outer)) (token :: rest) := by
  rw [advanceAll, advanceAll, advance_firstItem limit outer more]

theorem advance_afterItem_comma (items : List Json) :
    advance limit (.afterItem items outer) .comma =
      some (.value (.item items :: outer)) := rfl

theorem advance_afterItem_closeArray (items : List Json) :
    advance limit (.afterItem items outer) .closeArray =
      some (deliver (.array items.reverse) outer) := rfl

theorem advance_firstName_closeObject :
    advance limit (.firstName outer) .closeObject =
      some (deliver (.object []) outer) := rfl

theorem advance_firstName_text (name : Text) :
    advance limit (.firstName outer) (.text name) =
      some (.colon [] name outer) := rfl

theorem advance_name_text (members : List (Text × Json)) (name : Text) :
    advance limit (.name members outer) (.text name) =
      some (.colon members name outer) := rfl

theorem advance_colon (members : List (Text × Json)) (name : Text) :
    advance limit (.colon members name outer) .colon =
      some (.value (.member members name :: outer)) := rfl

theorem advance_afterMember_comma (members : List (Text × Json)) :
    advance limit (.afterMember members outer) .comma =
      some (.name members outer) := rfl

theorem advance_afterMember_closeObject (members : List (Text × Json)) :
    advance limit (.afterMember members outer) .closeObject =
      some (deliver (.object members) outer) := rfl

end Steps

/-! ## Runs over the tokens of a document -/

/-- No document begins with a closing bracket. -/
theorem advanceAll_firstItem_lexemes (limit : Nat) (outer : List Frame)
    (item : Json) (more : List Token) :
    advanceAll limit (.firstItem outer) (lexemes item ++ more) =
      advanceAll limit (.value (.item [] :: outer)) (lexemes item ++ more) := by
  have open_ {token : Token} {rest : List Token}
      (head : lexemes item = token :: rest) (solid : token ≠ .closeArray) :
      advanceAll limit (.firstItem outer) (lexemes item ++ more) =
        advanceAll limit (.value (.item [] :: outer)) (lexemes item ++ more) := by
    rw [head, List.cons_append]
    exact advanceAll_firstItem limit outer solid _
  cases item with
  | null => exact open_ (lexemes.eq_def _) (by simp)
  | boolean value => exact open_ (lexemes.eq_def _) (by simp)
  | integer value => exact open_ (lexemes.eq_def _) (by simp)
  | float value => exact open_ (lexemes.eq_def _) (by simp)
  | text value => exact open_ (lexemes.eq_def _) (by simp)
  | array items =>
      cases items <;> exact open_ (lexemes.eq_def _) (by simp)
  | object members =>
      cases members <;> exact open_ (lexemes.eq_def _) (by simp)
  | foreign value => exact value.elim

mutual

/-- Where a value is due, the tokens of a document deliver what it stands
for. -/
theorem advanceAll_lexemes {limit : Nat} (tree : Json) (outer : List Frame)
    (shallow : Value.depth tree + outer.length ≤ limit) (more : List Token) :
    advanceAll limit (.value outer) (lexemes tree ++ more) =
      advanceAll limit (deliver (settled tree) outer) more := by
  cases tree with
  | null => rfl
  | boolean value => rfl
  | integer value => rfl
  | float value => rfl
  | text value => rfl
  | foreign value => exact value.elim
  | array items =>
      rw [Value.depth] at shallow
      have room : outer.length < limit := by omega
      cases items with
      | nil =>
          rw [lexemes, List.cons_append,
            advanceAll_cons (advance_value_openArray room)]
          exact advanceAll_cons
            (advance_firstItem_closeArray limit outer) more
      | cons item rest =>
          rw [Value.depthOfItems] at shallow
          have first := advanceAll_lexemes item (.item [] :: outer)
            (show Value.depth item + (outer.length + 1) ≤ limit by omega)
            (laterItems rest ++ .closeArray :: more)
          have later := advanceAll_laterItems rest
            (show Value.depthOfItems rest + 1 + outer.length ≤ limit by omega)
            [settled item] more
          rw [lexemes, List.cons_append,
            advanceAll_cons (advance_value_openArray room), List.append_assoc,
            List.append_assoc, advanceAll_firstItem_lexemes]
          exact first.trans later
  | object members =>
      rw [Value.depth] at shallow
      have room : outer.length < limit := by omega
      cases members with
      | nil =>
          rw [lexemes, List.cons_append,
            advanceAll_cons (advance_value_openObject room)]
          exact advanceAll_cons
            (advance_firstName_closeObject limit outer) more
      | cons member rest =>
          rcases member with ⟨name, value⟩
          rw [Value.depthOfMembers] at shallow
          have first := advanceAll_lexemes value (.member [] name :: outer)
            (show Value.depth value + (outer.length + 1) ≤ limit by omega)
            (laterMembers rest ++ .closeObject :: more)
          have later := advanceAll_laterMembers rest
            (show Value.depthOfMembers rest + 1 + outer.length ≤ limit by omega)
            (Ordered.set [] name (settled value)) more
          rw [lexemes]
          simp only [List.cons_append, List.append_assoc]
          rw [advanceAll_cons (advance_value_openObject room),
            advanceAll_cons (advance_firstName_text limit outer name),
            advanceAll_cons (advance_colon limit outer [] name)]
          exact first.trans later

/-- The tokens of further items and of the closing bracket deliver the
array. -/
theorem advanceAll_laterItems {limit : Nat} (rest : List Json)
    {outer : List Frame}
    (shallow : Value.depthOfItems rest + 1 + outer.length ≤ limit)
    (before : List Json) (more : List Token) :
    advanceAll limit (.afterItem before outer)
        (laterItems rest ++ .closeArray :: more) =
      advanceAll limit
        (deliver (.array (before.reverse ++ settledItems rest)) outer) more := by
  cases rest with
  | nil =>
      rw [laterItems, List.nil_append, settledItems, List.append_nil]
      exact advanceAll_cons
        (advance_afterItem_closeArray limit outer before) more
  | cons item rest =>
      rw [Value.depthOfItems] at shallow
      have first := advanceAll_lexemes item (.item before :: outer)
        (show Value.depth item + (outer.length + 1) ≤ limit by omega)
        (laterItems rest ++ .closeArray :: more)
      have later := advanceAll_laterItems rest
        (show Value.depthOfItems rest + 1 + outer.length ≤ limit by omega)
        (settled item :: before) more
      rw [laterItems, List.cons_append, List.append_assoc,
        advanceAll_cons (advance_afterItem_comma limit outer before), first]
      rw [settledItems]
      rw [List.reverse_cons, List.append_assoc] at later
      exact later

/-- The tokens of further members and of the closing bracket deliver the
object. -/
theorem advanceAll_laterMembers {limit : Nat} (rest : List (Text × Json))
    {outer : List Frame}
    (shallow : Value.depthOfMembers rest + 1 + outer.length ≤ limit)
    (before : List (Text × Json)) (more : List Token) :
    advanceAll limit (.afterMember before outer)
        (laterMembers rest ++ .closeObject :: more) =
      advanceAll limit
        (deliver (.object (Ordered.setAll before (settledMembers rest))) outer)
        more := by
  cases rest with
  | nil =>
      rw [laterMembers, List.nil_append, settledMembers]
      exact advanceAll_cons
        (advance_afterMember_closeObject limit outer before) more
  | cons member rest =>
      rcases member with ⟨name, value⟩
      rw [Value.depthOfMembers] at shallow
      have first := advanceAll_lexemes value (.member before name :: outer)
        (show Value.depth value + (outer.length + 1) ≤ limit by omega)
        (laterMembers rest ++ .closeObject :: more)
      have later := advanceAll_laterMembers rest
        (show Value.depthOfMembers rest + 1 + outer.length ≤ limit by omega)
        (Ordered.set before name (settled value)) more
      rw [laterMembers]
      simp only [List.cons_append, List.append_assoc]
      rw [advanceAll_cons (advance_afterMember_comma limit outer before),
        advanceAll_cons (advance_name_text limit outer before name),
        advanceAll_cons (advance_colon limit outer before name), first]
      exact later

end

/-! ## Runs that complete a document -/

/-- The token is not a scalar token with a text or a container in it. -/
def Token.IsAtomic : Token → Prop
  | .scalar (.text _) | .scalar (.array _) | .scalar (.object _) => False
  | _ => True

/-- A run over at most `size` tokens that completes a document and begins where
a value is due begins with the tokens of a written document. -/
def ValuesRead (limit size : Nat) : Prop :=
  ∀ (tokens : List Token) (outer : List Frame) (document : Json),
    tokens.length ≤ size → (∀ token ∈ tokens, token.IsAtomic) →
    outer.length ≤ limit →
    advanceAll limit (.value outer) tokens = some (.complete document) →
    ∃ tree more,
      tokens = lexemes tree ++ more ∧
        Value.depth tree + outer.length ≤ limit ∧
        advanceAll limit (deliver (settled tree) outer) more =
          some (.complete document)

/-- Such a run that begins behind an item begins with the tokens of further
items and a closing bracket. -/
def ItemsRead (limit size : Nat) : Prop :=
  ∀ (tokens : List Token) (before : List Json) (outer : List Frame)
    (document : Json),
    tokens.length ≤ size → (∀ token ∈ tokens, token.IsAtomic) →
    outer.length < limit →
    advanceAll limit (.afterItem before outer) tokens =
      some (.complete document) →
    ∃ rest more,
      tokens = laterItems rest ++ .closeArray :: more ∧
        Value.depthOfItems rest + 1 + outer.length ≤ limit ∧
        advanceAll limit
            (deliver (.array (before.reverse ++ settledItems rest)) outer)
            more =
          some (.complete document)

/-- Such a run that begins behind a member begins with the tokens of further
members and a closing bracket. -/
def MembersRead (limit size : Nat) : Prop :=
  ∀ (tokens : List Token) (before : List (Text × Json)) (outer : List Frame)
    (document : Json),
    tokens.length ≤ size → (∀ token ∈ tokens, token.IsAtomic) →
    outer.length < limit →
    advanceAll limit (.afterMember before outer) tokens =
      some (.complete document) →
    ∃ rest more,
      tokens = laterMembers rest ++ .closeObject :: more ∧
        Value.depthOfMembers rest + 1 + outer.length ≤ limit ∧
        advanceAll limit
            (deliver
              (.object (Ordered.setAll before (settledMembers rest))) outer)
            more =
          some (.complete document)

theorem item_of_advanceAll {limit size : Nat}
    (values : ValuesRead limit size) (items : ItemsRead limit size)
    {tokens : List Token} {before : List Json} {outer : List Frame}
    {document : Json} (short : tokens.length ≤ size)
    (atomic : ∀ token ∈ tokens, token.IsAtomic) (room : outer.length < limit)
    (run : advanceAll limit (.value (.item before :: outer)) tokens =
      some (.complete document)) :
    ∃ item rest more,
      tokens = lexemes item ++ (laterItems rest ++ .closeArray :: more) ∧
        Value.depthOfItems (item :: rest) + 1 + outer.length ≤ limit ∧
        advanceAll limit
            (deliver
              (.array (before.reverse ++ settledItems (item :: rest))) outer)
            more =
          some (.complete document) := by
  obtain ⟨item, behind, rfl, itemDepth, itemRun⟩ :=
    values tokens (.item before :: outer) document short atomic room run
  have behindShort : behind.length ≤ size := by
    rw [List.length_append] at short
    omega
  obtain ⟨rest, more, rfl, restDepth, restRun⟩ :=
    items behind (settled item :: before) outer document behindShort
      (fun token member => atomic token (by simp [member])) room itemRun
  refine ⟨item, rest, more, rfl, ?_, ?_⟩
  · rw [List.length_cons] at itemDepth
    rw [Value.depthOfItems]
    omega
  · rw [List.reverse_cons, List.append_assoc] at restRun
    rw [settledItems]
    exact restRun

theorem member_of_advanceAll {limit size : Nat}
    (values : ValuesRead limit size) (members : MembersRead limit size)
    {tokens : List Token} {before : List (Text × Json)} {name : Text}
    {outer : List Frame} {document : Json} (short : tokens.length ≤ size)
    (atomic : ∀ token ∈ tokens, token.IsAtomic) (room : outer.length < limit)
    (run : advanceAll limit (.value (.member before name :: outer)) tokens =
      some (.complete document)) :
    ∃ value rest more,
      tokens = lexemes value ++ (laterMembers rest ++ .closeObject :: more) ∧
        Value.depthOfMembers ((name, value) :: rest) + 1 + outer.length ≤
          limit ∧
        advanceAll limit
            (deliver
              (.object
                (Ordered.setAll before
                  (settledMembers ((name, value) :: rest))))
              outer)
            more =
          some (.complete document) := by
  obtain ⟨value, behind, rfl, valueDepth, valueRun⟩ :=
    values tokens (.member before name :: outer) document short atomic room run
  have behindShort : behind.length ≤ size := by
    rw [List.length_append] at short
    omega
  obtain ⟨rest, more, rfl, restDepth, restRun⟩ :=
    members behind (Ordered.set before name (settled value)) outer document
      behindShort (fun token member => atomic token (by simp [member])) room
      valueRun
  refine ⟨value, rest, more, rfl, ?_, ?_⟩
  · rw [List.length_cons] at valueDepth
    rw [Value.depthOfMembers]
    omega
  · rw [settledMembers]
    exact restRun

theorem colon_of_advanceAll {limit : Nat} {members : List (Text × Json)}
    {name : Text} {outer : List Frame} {tokens : List Token} {document : Json}
    (run : advanceAll limit (.colon members name outer) tokens =
      some (.complete document)) :
    ∃ rest, tokens = .colon :: rest ∧
      advanceAll limit (.value (.member members name :: outer)) rest =
        some (.complete document) := by
  cases tokens with
  | nil => cases run
  | cons token rest =>
      rcases advanceAll_cons_eq_some run with ⟨next, taken, behind⟩
      cases token with
      | colon =>
          cases taken
          exact ⟨rest, rfl, behind⟩
      | _ => cases taken

theorem itemsRead_succ {limit size : Nat} (values : ValuesRead limit size)
    (items : ItemsRead limit size) : ItemsRead limit (size + 1) := by
  intro tokens before outer document short atomic room run
  cases tokens with
  | nil => cases run
  | cons token behind =>
      have behindShort : behind.length ≤ size := Nat.le_of_succ_le_succ short
      have behindAtomic : ∀ token ∈ behind, token.IsAtomic :=
        fun other member => atomic other (by simp [member])
      rcases advanceAll_cons_eq_some run with ⟨next, taken, run⟩
      cases token with
      | closeArray =>
          cases taken
          refine ⟨[], behind, rfl, ?_, ?_⟩
          · rw [Value.depthOfItems]
            omega
          · rw [settledItems, List.append_nil]
            exact run
      | comma =>
          cases taken
          obtain ⟨item, rest, more, rfl, shallow, run⟩ :=
            item_of_advanceAll values items behindShort behindAtomic room run
          refine ⟨item :: rest, more, ?_, shallow, run⟩
          rw [laterItems, List.cons_append, List.append_assoc]
      | _ => cases taken

theorem membersRead_succ {limit size : Nat} (values : ValuesRead limit size)
    (members : MembersRead limit size) : MembersRead limit (size + 1) := by
  intro tokens before outer document short atomic room run
  cases tokens with
  | nil => cases run
  | cons token behind =>
      rcases advanceAll_cons_eq_some run with ⟨next, taken, run⟩
      cases token with
      | closeObject =>
          cases taken
          refine ⟨[], behind, rfl, ?_, run⟩
          rw [Value.depthOfMembers]
          omega
      | comma =>
          cases taken
          cases behind with
          | nil => cases run
          | cons token behind =>
              rcases advanceAll_cons_eq_some run with ⟨next, taken, run⟩
              cases token with
              | text name =>
                  cases taken
                  rcases colon_of_advanceAll run with ⟨behind, rfl, run⟩
                  have behindShort : behind.length ≤ size := by
                    simp only [List.length_cons] at short
                    omega
                  obtain ⟨value, rest, more, rfl, shallow, run⟩ :=
                    member_of_advanceAll values members behindShort
                      (fun other member => atomic other (by simp [member]))
                      room run
                  refine ⟨(name, value) :: rest, more, ?_, shallow, run⟩
                  rw [laterMembers]
                  simp only [List.cons_append, List.append_assoc]
              | _ => cases taken
      | _ => cases taken

theorem valuesRead_array {limit size : Nat} (values : ValuesRead limit size)
    (items : ItemsRead limit size) {tokens : List Token} {outer : List Frame}
    {document : Json} (short : tokens.length ≤ size)
    (atomic : ∀ token ∈ tokens, token.IsAtomic) (room : outer.length < limit)
    (run : advanceAll limit (.firstItem outer) tokens =
      some (.complete document)) :
    ∃ items more,
      .openArray :: tokens = lexemes (.array items) ++ more ∧
        Value.depth (.array items : Json) + outer.length ≤ limit ∧
        advanceAll limit (deliver (settled (.array items)) outer) more =
          some (.complete document) := by
  cases tokens with
  | nil => cases run
  | cons token behind =>
      by_cases close : token = .closeArray
      · subst close
        rw [advanceAll_cons (advance_firstItem_closeArray limit outer)] at run
        refine ⟨[], behind, rfl, ?_, run⟩
        rw [Value.depth, Value.depthOfItems]
        omega
      · rw [advanceAll_firstItem limit outer close] at run
        rcases item_of_advanceAll values items short atomic room run with
          ⟨item, rest, more, split, shallow, run⟩
        refine ⟨item :: rest, more, ?_, ?_, ?_⟩
        · rw [split, lexemes]
          simp only [List.cons_append, List.append_assoc, List.nil_append]
        · rw [Value.depth]
          exact shallow
        · exact run

theorem valuesRead_object {limit size : Nat} (values : ValuesRead limit size)
    (members : MembersRead limit size) {tokens : List Token}
    {outer : List Frame} {document : Json} (short : tokens.length ≤ size)
    (atomic : ∀ token ∈ tokens, token.IsAtomic) (room : outer.length < limit)
    (run : advanceAll limit (.firstName outer) tokens =
      some (.complete document)) :
    ∃ members more,
      .openObject :: tokens = lexemes (.object members) ++ more ∧
        Value.depth (.object members : Json) + outer.length ≤ limit ∧
        advanceAll limit (deliver (settled (.object members)) outer) more =
          some (.complete document) := by
  cases tokens with
  | nil => cases run
  | cons token behind =>
      rcases advanceAll_cons_eq_some run with ⟨next, taken, run⟩
      cases token with
      | closeObject =>
          cases taken
          refine ⟨[], behind, rfl, ?_, run⟩
          rw [Value.depth, Value.depthOfMembers]
          omega
      | text name =>
          cases taken
          rcases colon_of_advanceAll run with ⟨behind, rfl, run⟩
          have behindShort : behind.length ≤ size := by
            simp only [List.length_cons] at short
            omega
          obtain ⟨value, rest, more, rfl, shallow, run⟩ :=
            member_of_advanceAll values members behindShort
              (fun other member => atomic other (by simp [member])) room run
          refine ⟨(name, value) :: rest, more, ?_, ?_, ?_⟩
          · rw [lexemes]
            simp only [List.cons_append, List.append_assoc, List.nil_append]
          · rw [Value.depth]
            exact shallow
          · exact run
      | _ => cases taken

theorem Token.IsAtomic.lexemes_eq {value : Json}
    (atomic : (Token.scalar value).IsAtomic) :
    lexemes value = [.scalar value] ∧ settled value = value ∧
      Value.depth value = 0 := by
  cases value with
  | text value => exact atomic.elim
  | array items => exact atomic.elim
  | object members => exact atomic.elim
  | foreign value => exact value.elim
  | _ => exact ⟨lexemes.eq_def _, settled.eq_def _, Value.depth.eq_def _⟩

theorem valuesRead_succ {limit size : Nat} (values : ValuesRead limit size)
    (items : ItemsRead limit size) (members : MembersRead limit size) :
    ValuesRead limit (size + 1) := by
  intro tokens outer document short atomic within run
  cases tokens with
  | nil => cases run
  | cons token behind =>
      have behindShort : behind.length ≤ size := Nat.le_of_succ_le_succ short
      have behindAtomic : ∀ token ∈ behind, token.IsAtomic :=
        fun other member => atomic other (by simp [member])
      rcases advanceAll_cons_eq_some run with ⟨next, taken, run⟩
      cases token with
      | openArray =>
          rcases room_of_advance_openArray taken with ⟨room, rfl⟩
          obtain ⟨tree, more, split⟩ :=
            valuesRead_array values items behindShort behindAtomic room run
          exact ⟨.array tree, more, split⟩
      | openObject =>
          rcases room_of_advance_openObject taken with ⟨room, rfl⟩
          obtain ⟨tree, more, split⟩ :=
            valuesRead_object values members behindShort behindAtomic room run
          exact ⟨.object tree, more, split⟩
      | text value =>
          cases taken
          refine ⟨.text value, behind, rfl, ?_, run⟩
          simpa [Value.depth] using within
      | scalar value =>
          cases taken
          rcases (atomic (.scalar value) (by simp)).lexemes_eq with
            ⟨tokens, same, flat⟩
          refine ⟨value, behind, ?_, ?_, ?_⟩
          · rw [tokens, List.singleton_append]
          · rw [flat, Nat.zero_add]
            exact within
          · rw [same]
            exact run
      | _ => cases taken

/-- Every size of run is read, by induction on the size. -/
theorem everything_read (limit size : Nat) :
    ValuesRead limit size ∧ ItemsRead limit size ∧ MembersRead limit size := by
  induction size with
  | zero =>
      refine ⟨?_, ?_, ?_⟩
      · intro tokens outer document short _ _ run
        rw [List.eq_nil_of_length_eq_zero (Nat.le_zero.mp short)] at run
        cases run
      · intro tokens before outer document short _ _ run
        rw [List.eq_nil_of_length_eq_zero (Nat.le_zero.mp short)] at run
        cases run
      · intro tokens before outer document short _ _ run
        rw [List.eq_nil_of_length_eq_zero (Nat.le_zero.mp short)] at run
        cases run
  | succ size ih =>
      rcases ih with ⟨values, items, members⟩
      exact ⟨valuesRead_succ values items members,
        itemsRead_succ values items, membersRead_succ values members⟩

/-- A document that is complete takes no further token. -/
theorem nil_of_advanceAll_complete {limit : Nat} {document last : Json}
    {tokens : List Token}
    (run : advanceAll limit (.complete document) tokens =
      some (.complete last)) :
    tokens = [] ∧ document = last := by
  cases tokens with
  | nil =>
      cases run
      exact ⟨rfl, rfl⟩
  | cons token rest =>
      rcases advanceAll_cons_eq_some run with ⟨next, taken, _⟩
      cases taken

/-- The machine completes exactly the documents that written documents stand
for, over exactly their tokens. -/
theorem advanceAll_eq_complete_iff {limit : Nat} {tokens : List Token}
    (atomic : ∀ token ∈ tokens, token.IsAtomic) {document : Json} :
    advanceAll limit (.value []) tokens = some (.complete document) ↔
      ∃ tree, tokens = lexemes tree ∧ Value.depth tree ≤ limit ∧
        settled tree = document := by
  constructor
  · intro run
    obtain ⟨tree, more, split, shallow, rest⟩ :=
      (everything_read limit tokens.length).1 tokens [] document
        (Nat.le_refl _) atomic (Nat.zero_le _) run
    rcases nil_of_advanceAll_complete rest with ⟨rfl, same⟩
    exact ⟨tree, by simpa using split, shallow, same⟩
  · rintro ⟨tree, rfl, shallow, rfl⟩
    have run := advanceAll_lexemes tree [] shallow []
    rw [List.append_nil] at run
    exact run

end ResponseService.Json
