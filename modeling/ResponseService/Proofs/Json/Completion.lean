import ResponseService.Proofs.Json.Nesting
import ResponseService.Proofs.Json.Printing

/-!
# What has been read can be completed

In every state of the machine there are tokens that complete the document
(`advanceAll_completion`): what is still due is a value, a member or nothing,
and then the open containers are closed.  So a text that spells what the
machine takes can be continued to a document
(`exists_readWithin_of_completion`).

The continuation opens no container.  A run needs no more room than the
brackets of its text tell (`advanceAll_nesting`), and so the document is nested
no deeper than the text from which its beginning was taken.
-/

namespace ResponseService.Json

/-! ## Completing a document -/

/-- The tokens that close the containers around a value. -/
def closing : List Frame → List Token
  | [] => []
  | .item _ :: outer => .closeArray :: closing outer
  | .member _ _ :: outer => .closeObject :: closing outer

/-- Tokens that complete a document which has been read up to a state. -/
def State.completion : State → List Token
  | .value outer => .scalar .null :: closing outer
  | .firstItem outer | .afterItem _ outer => .closeArray :: closing outer
  | .firstName outer | .afterMember _ outer => .closeObject :: closing outer
  | .name _ outer =>
      .text [] :: .colon :: .scalar .null :: .closeObject :: closing outer
  | .colon _ _ outer =>
      .colon :: .scalar .null :: .closeObject :: closing outer
  | .complete _ => []

/-- A value is complete once the containers around it are closed. -/
theorem advanceAll_closing (limit : Nat) (outer : List Frame) (value : Json) :
    ∃ document,
      advanceAll limit (deliver value outer) (closing outer) =
        some (.complete document) := by
  induction outer generalizing value with
  | nil => exact ⟨value, rfl⟩
  | cons frame outer ih =>
      cases frame with
      | item before => exact ih (.array (value :: before).reverse)
      | member before name => exact ih (.object (Ordered.set before name value))

/-- No state is a dead end. -/
theorem advanceAll_completion (limit : Nat) (state : State) :
    ∃ document,
      advanceAll limit state state.completion = some (.complete document) := by
  cases state with
  | value outer => exact advanceAll_closing limit outer .null
  | firstItem outer => exact advanceAll_closing limit outer (.array [])
  | afterItem items outer =>
      exact advanceAll_closing limit outer (.array items.reverse)
  | firstName outer => exact advanceAll_closing limit outer (.object [])
  | name members outer =>
      exact advanceAll_closing limit outer
        (.object (Ordered.set members [] .null))
  | colon members name outer =>
      exact advanceAll_closing limit outer
        (.object (Ordered.set members name .null))
  | afterMember members outer =>
      exact advanceAll_closing limit outer (.object members)
  | complete document => exact ⟨document, rfl⟩

theorem exists_lexes_closing (outer : List Frame) :
    ∃ text, Lexes text (closing outer) := by
  induction outer with
  | nil => exact ⟨[], .nil⟩
  | cons frame outer ih =>
      obtain ⟨text, lexes⟩ := ih
      cases frame with
      | item before => exact ⟨_, .token (mark_spelled ']' rfl) lexes⟩
      | member before name => exact ⟨_, .token (mark_spelled '}' rfl) lexes⟩

/-- The tokens that complete a document can be written. -/
theorem exists_lexes_completion (state : State) :
    ∃ text, Lexes text state.completion := by
  have closeArray (outer : List Frame) :
      ∃ text, Lexes text (.closeArray :: closing outer) :=
    exists_lexes_closing (.item [] :: outer)
  have closeObject (outer : List Frame) :
      ∃ text, Lexes text (.closeObject :: closing outer) :=
    exists_lexes_closing (.member [] [] :: outer)
  have value {tokens : List Token} (later : ∃ text, Lexes text tokens) :
      ∃ text, Lexes text (.scalar .null :: tokens) := by
    obtain ⟨text, lexes⟩ := later
    exact ⟨_, .token null_spelled lexes⟩
  have colon {tokens : List Token} (later : ∃ text, Lexes text tokens) :
      ∃ text, Lexes text (.colon :: tokens) := by
    obtain ⟨text, lexes⟩ := later
    exact ⟨_, .token (mark_spelled ':' rfl) lexes⟩
  cases state with
  | value outer => exact value (exists_lexes_closing outer)
  | firstItem outer => exact closeArray outer
  | afterItem items outer => exact closeArray outer
  | firstName outer => exact closeObject outer
  | name members outer =>
      obtain ⟨text, lexes⟩ := colon (value (closeObject outer))
      exact ⟨_, .token (quote_spelled []) lexes⟩
  | colon members name outer => exact colon (value (closeObject outer))
  | afterMember members outer => exact closeObject outer
  | complete document => exact ⟨[], .nil⟩

/-! ## Runs over several parts -/

theorem advanceAll_append {limit : Nat} {state next : State}
    {tokens : List Token} (run : advanceAll limit state tokens = some next)
    (more : List Token) :
    advanceAll limit state (tokens ++ more) = advanceAll limit next more := by
  induction tokens generalizing state with
  | nil =>
      cases run
      rfl
  | cons token rest ih =>
      obtain ⟨between, taken, later⟩ := advanceAll_cons_eq_some run
      rw [List.cons_append, advanceAll_cons taken, ih later]

/-- A text that completes its document is read. -/
theorem readWithin_of_complete {limit : Nat} {text : Text}
    {tokens : List Token} {document : Json} (lexes : Lexes text tokens)
    (run : advanceAll limit (.value []) tokens = some (.complete document)) :
    readWithin limit text = .ok document := by
  obtain ⟨tree, rfl, shallow, same⟩ :=
    (advanceAll_eq_complete_iff lexes.isAtomic).mp run
  exact readWithin_eq_ok_iff.mpr ⟨tree, lexes, shallow, same⟩

/-- A text that spells what the machine takes, and is completed, is read. -/
theorem exists_readWithin_of_completion {limit : Nat} {text more : Text}
    {tokens : List Token} {state : State} (lexes : Lexes text tokens)
    (run : advanceAll limit (.value []) tokens = some state)
    (completes : Lexes more state.completion) :
    ∃ document, readWithin limit (text ++ more) = .ok document := by
  obtain ⟨document, completed⟩ := advanceAll_completion limit state
  refine ⟨document, readWithin_of_complete (lexes.append completes) ?_⟩
  rw [advanceAll_append run, completed]

/-- What is read within a limit is not nested deeper. -/
theorem nesting_le_of_readWithin {limit : Nat} {text : Text} {document : Json}
    (read : readWithin limit text = .ok document) : nesting text ≤ limit := by
  obtain ⟨tree, lexes, shallow, _⟩ := readWithin_eq_ok_iff.mp read
  rwa [nesting_eq_depth lexes]

/-! ## The room that a run needs -/

/-- The number of containers that are open. -/
def State.opened : State → Nat
  | .value outer => outer.length
  | .firstItem outer | .afterItem _ outer | .firstName outer | .name _ outer
  | .colon _ _ outer | .afterMember _ outer => outer.length + 1
  | .complete _ => 0

@[simp]
theorem opened_deliver (value : Json) (outer : List Frame) :
    (deliver value outer).opened = outer.length := by
  rcases outer with _ | ⟨_ | _, outer⟩ <;> rfl

namespace Nesting

theorem most_le_take (state : Nesting) (token : Token) :
    state.most ≤ (state.take token).most := by
  cases token with
  | openArray | openObject => exact Nat.le_max_left _ _
  | _ => exact Nat.le_refl _

theorem most_le_foldl_take (state : Nesting) (tokens : List Token) :
    state.most ≤ (tokens.foldl take state).most := by
  induction tokens generalizing state with
  | nil => exact Nat.le_refl _
  | cons token rest ih =>
      exact (most_le_take state token).trans (ih (state.take token))

theorem most_le_step (state : Nesting) (point : CodePoint) :
    state.most ≤ (state.step point).most := by
  unfold step
  split_ifs <;> first
    | exact Nat.le_refl _
    | exact Nat.le_max_left _ _

theorem most_le_after (state : Nesting) (text : Text) :
    state.most ≤ (state.after text).most := by
  induction text generalizing state with
  | nil => exact Nat.le_refl _
  | cons point rest ih =>
      exact (most_le_step state point).trans (ih (state.step point))

/-- The machine opens a container where the count of the brackets goes up, and
only then it needs room. -/
theorem take_of_advance_value {limit : Nat} {outer : List Frame}
    {next : State} {token : Token} (most : Nat)
    (taken : advance limit (.value outer) token = some next) :
    ∃ now, (between outer.length most).take token = between next.opened now ∧
      ∀ room, now ≤ room → advance room (.value outer) token = some next := by
  cases token with
  | openArray =>
      obtain ⟨_, rfl⟩ := room_of_advance_openArray taken
      refine ⟨max most (outer.length + 1), rfl, fun room enough => ?_⟩
      exact advance_value_openArray (by omega)
  | openObject =>
      obtain ⟨_, rfl⟩ := room_of_advance_openObject taken
      refine ⟨max most (outer.length + 1), rfl, fun room enough => ?_⟩
      exact advance_value_openObject (by omega)
  | text value =>
      cases taken
      exact ⟨most, by simp [take], fun _ _ => rfl⟩
  | scalar value =>
      cases taken
      exact ⟨most, by simp [take], fun _ _ => rfl⟩
  | _ => cases taken

theorem take_of_advance {limit : Nat} {state next : State} {token : Token}
    (most : Nat) (taken : advance limit state token = some next) :
    ∃ now, (between state.opened most).take token = between next.opened now ∧
      ∀ room, now ≤ room → advance room state token = some next := by
  cases state with
  | value outer => exact take_of_advance_value most taken
  | firstItem outer =>
      by_cases close : token = .closeArray
      · subst close
        cases taken
        refine ⟨most, ?_, fun _ _ => rfl⟩
        rw [opened_deliver]
        rfl
      · rw [advance_firstItem limit outer close] at taken
        obtain ⟨now, same, again⟩ := take_of_advance_value most taken
        refine ⟨now, same, fun room enough => ?_⟩
        rw [advance_firstItem room outer close]
        exact again room enough
  | complete document => cases token <;> cases taken
  | _ =>
      -- Here a token opens nothing, so the machine takes it in any room.
      cases token <;> cases taken <;> refine ⟨most, ?_, fun _ _ => rfl⟩ <;>
        (try rw [opened_deliver]) <;> rfl

end Nesting

open Nesting in
theorem advanceAll_of_most_le {limit room : Nat} {state last : State}
    {tokens : List Token} (most : Nat)
    (run : advanceAll limit state tokens = some last)
    (enough : (tokens.foldl take (between state.opened most)).most ≤ room) :
    advanceAll room state tokens = some last := by
  induction tokens generalizing state most with
  | nil => exact run
  | cons token rest ih =>
      obtain ⟨next, taken, later⟩ := advanceAll_cons_eq_some run
      obtain ⟨now, same, again⟩ := take_of_advance most taken
      rw [List.foldl_cons, same] at enough
      rw [advanceAll_cons (again room ((most_le_foldl_take _ rest).trans enough))]
      exact ih now later enough

/-- A run over the beginning of a text needs no more room than the brackets of
the text tell. -/
theorem advanceAll_nesting {limit : Nat} {before : Text} {tokens : List Token}
    {state : State} (lexes : Lexes before tokens)
    (run : advanceAll limit (.value []) tokens = some state) (rest : Text) :
    advanceAll (nesting (before ++ rest)) (.value []) tokens = some state := by
  have counted : Nesting.after (Nesting.between 0 0) before =
      tokens.foldl Nesting.take (Nesting.between 0 0) :=
    Nesting.after_lexes lexes
  refine advanceAll_of_most_le 0 run ?_
  calc
    (tokens.foldl Nesting.take (Nesting.between 0 0)).most =
        (Nesting.after (Nesting.between 0 0) before).most := by rw [counted]
    _ ≤ ((Nesting.after (Nesting.between 0 0) before).after rest).most :=
        Nesting.most_le_after _ rest
    _ = nesting (before ++ rest) := by
        rw [← Nesting.after_append]
        rfl

/-- What has been read can be completed, and the document is nested no deeper
than a run over its beginning has room for. -/
theorem exists_completion {limit room : Nat} {before : Text}
    {tokens : List Token} {state : State} (lexes : Lexes before tokens)
    (run : advanceAll limit (.value []) tokens = some state)
    (narrow : advanceAll room (.value []) tokens = some state) :
    ∃ continuation,
      (∃ document, readWithin limit (before ++ continuation) = .ok document) ∧
        nesting (before ++ continuation) ≤ room := by
  obtain ⟨continuation, completes⟩ := exists_lexes_completion state
  obtain ⟨document, shallow⟩ :=
    exists_readWithin_of_completion lexes narrow completes
  exact ⟨continuation, exists_readWithin_of_completion lexes run completes,
    nesting_le_of_readWithin shallow⟩

end ResponseService.Json
