import ResponseService.Proofs.Json.Tokens

/-!
# How deep a text is nested

The brackets of a text that stand outside its quotations are counted without
regard to whether it is a JSON text (`nesting`).  If it is one, the count is
the depth of the document that is written (`nesting_eq_depth`).
-/

namespace ResponseService.Json

/-! ## Counting brackets -/

/-- What counts of the text before some place. -/
structure Nesting where
  /-- The place is between quotes. -/
  quoted : Bool
  /-- The place is directly behind a backslash between quotes. -/
  escaped : Bool
  /-- How many brackets are open. -/
  opened : Nat
  /-- How many were open at the same time. -/
  most : Nat

namespace Nesting

/-- Take one code point. -/
def step (state : Nesting) (point : CodePoint) : Nesting :=
  if state.escaped then { state with escaped := false }
  else if state.quoted then
    if point.value = 0x5C then { state with escaped := true }
    else if point.value = 0x22 then { state with quoted := false }
    else state
  else if point.value = 0x22 then { state with quoted := true }
  else if point.value = 0x5B ∨ point.value = 0x7B then
    { state with
      opened := state.opened + 1
      most := max state.most (state.opened + 1) }
  else if point.value = 0x5D ∨ point.value = 0x7D then
    { state with opened := state.opened - 1 }
  else state

/-- Take a text. -/
def after (state : Nesting) (text : Text) : Nesting := text.foldl step state

end Nesting

/-- The most brackets that are open at the same time, quotations apart. -/
def nesting (text : Text) : Nat := (Nesting.after ⟨false, false, 0, 0⟩ text).most

namespace Nesting

theorem after_append (state : Nesting) (left right : Text) :
    state.after (left ++ right) = (state.after left).after right :=
  List.foldl_append

/-! ## Counting over tokens -/

/-- Between tokens, with so many brackets open. -/
def between (opened most : Nat) : Nesting := ⟨false, false, opened, most⟩

/-- Within a quotation. -/
def within (opened most : Nat) : Nesting := ⟨true, false, opened, most⟩

/-- Take one token. -/
def take (state : Nesting) : Token → Nesting
  | .openArray | .openObject =>
      { state with
        opened := state.opened + 1
        most := max state.most (state.opened + 1) }
  | .closeArray | .closeObject => { state with opened := state.opened - 1 }
  | _ => state

variable {opened most : Nat}

/-- A hexadecimal digit neither ends a quotation nor begins an escape. -/
theorem step_of_hexValue? {point : CodePoint} {digit : Nat}
    (valued : point.hexValue? = some digit) :
    step (within opened most) point = within opened most := by
  have noQuote : point.value ≠ 0x22 := by
    intro quote
    simp [CodePoint.hexValue?, quote] at valued
  have noBackslash : point.value ≠ 0x5C := by
    intro backslash
    simp [CodePoint.hexValue?, backslash] at valued
  simp [step, within, noQuote, noBackslash]

/-- Neither do four of them. -/
theorem step_of_fourDigits? (opened most : Nat)
    {first second third fourth : CodePoint} {number : Nat}
    (digits : fourDigits? first second third fourth = some number) :
    ∀ point ∈ [first, second, third, fourth],
      step (within opened most) point = within opened most := by
  simp only [fourDigits?, Option.bind_eq_bind, Option.bind_eq_some_iff]
    at digits
  obtain ⟨_, one, _, two, _, three, _, four, _⟩ := digits
  simp [step_of_hexValue? one, step_of_hexValue? two, step_of_hexValue? three,
    step_of_hexValue? four]

theorem after_unit {unit : TextUnit} {spelling : Text}
    (spelled : unit.Spelled spelling) :
    (within opened most).after spelling = within opened most := by
  cases spelled with
  | plain visible noQuote noBackslash =>
      simp [after, step, within, noQuote, noBackslash]
  | shorthand named =>
      have backslash : (CodePoint.ofChar '\\').value = 0x5C := rfl
      simp [after, step, within, backslash]
  | numbered digits =>
      have backslash : (CodePoint.ofChar '\\').value = 0x5C := rfl
      have quiet := step_of_fourDigits? opened most digits
      simp only [List.forall_mem_cons] at quiet
      have opening : after (within opened most) ['\\', 'u'] =
          within opened most := by
        simp [after, step, within, backslash]
      simp only [after, List.foldl_cons, List.foldl_nil] at opening ⊢
      rw [opening, quiet.1, quiet.2.1, quiet.2.2.1, quiet.2.2.2.1]

theorem after_units {units : List TextUnit} {inside : Text}
    (spelled : UnitsSpelled units inside) :
    (within opened most).after inside = within opened most := by
  induction spelled with
  | nil => rfl
  | cons head _ ih => rw [after_append, after_unit head, ih]

/-- No place within the spelling of a code point is outside the quotation. -/
theorem quoted_of_unit {unit : TextUnit} {before after : Text}
    (spelled : unit.Spelled (before ++ after)) :
    ((within opened most).after before).quoted = true := by
  generalize whole : before ++ after = spelling at spelled
  have front : before = spelling.take before.length := by
    rw [← whole, List.take_left]
  generalize before.length = length at front
  rw [front]
  clear front whole
  cases spelled with
  | plain visible noQuote noBackslash =>
      rcases length with _ | length
      · rfl
      · simp [Nesting.after, step, within, noQuote, noBackslash]
  | shorthand named =>
      have backslash : (CodePoint.ofChar '\\').value = 0x5C := rfl
      rcases length with _ | _ | length
      · rfl
      · simp [Nesting.after, step, within, backslash]
      · simp [Nesting.after, step, within, backslash]
  | numbered digits =>
      have quiet := step_of_fourDigits? opened most digits
      simp only [List.forall_mem_cons] at quiet
      have letter : step (step (within opened most) '\\') 'u' =
          within opened most := rfl
      rcases length with _ | _ | _ | _ | _ | _ | length
      · rfl
      · rfl
      · rfl
      all_goals
        simp only [Nesting.after, List.take_succ_cons, List.take_zero,
          List.take_nil, List.foldl_cons, List.foldl_nil, letter, quiet]
        rfl

/-- No place between quotes is outside them. -/
theorem quoted_of_units {units : List TextUnit} {inside before after : Text}
    (spelled : UnitsSpelled units inside) (split : inside = before ++ after) :
    ((within opened most).after before).quoted = true := by
  induction spelled generalizing before with
  | nil =>
      rw [(List.append_eq_nil_iff.mp split.symm).1]
      rfl
  | cons head _ ih =>
      rcases List.append_eq_append_iff.mp split with
        ⟨more, rfl, behind⟩ | ⟨more, same, _⟩
      · rw [after_append, after_unit head]
        exact ih behind
      · rw [same] at head
        exact quoted_of_unit head

theorem after_inScalar {text : Text} (all : ∀ point ∈ text, InScalar point) :
    (between opened most).after text = between opened most := by
  induction text with
  | nil => rfl
  | cons point rest ih =>
      rw [List.forall_mem_cons] at all
      have here := all.1
      unfold InScalar BeginsScalar at here
      have quiet : step (between opened most) point = between opened most := by
        simp only [step, between, Bool.false_eq_true, if_false]
        rw [if_neg (by omega), if_neg (by omega), if_neg (by omega)]
      rw [after, List.foldl_cons, quiet]
      exact ih all.2

theorem after_spelled {token : Token} {spelling : Text}
    (spelled : token.Spelled spelling) :
    (between opened most).after spelling = (between opened most).take token := by
  cases spelled with
  | mark known =>
      simp only [punctuation?] at known
      split_ifs at known <;> cases known <;>
        simp [after, step, between, take, *]
  | @quoted units body inside =>
      have opening : step (between opened most) quoteMark =
          within opened most := rfl
      have closing : step (within opened most) quoteMark =
          between opened most := rfl
      have inner : (within opened most).after body = within opened most :=
        after_units inside
      rw [after, List.foldl_cons, opening, List.foldl_append, List.foldl_cons,
        List.foldl_nil]
      rw [after] at inner
      rw [inner, closing]
      rfl
  | word known => exact after_inScalar (inScalar_of_word known)
  | number formed valued => exact after_inScalar (inScalar_of_number formed)

theorem exists_take_between (opened most : Nat) (token : Token) :
    ∃ opened' most', (between opened most).take token = between opened' most' := by
  cases token <;> exact ⟨_, _, rfl⟩

/-- Blanks do not count, so a text counts as its tokens do. -/
theorem after_lexes {text : Text} {tokens : List Token}
    (lexes : Lexes text tokens) :
    (between opened most).after text =
      tokens.foldl take (between opened most) := by
  induction lexes generalizing opened most with
  | nil => rfl
  | @blank point rest tokens blank _ ih =>
      have quiet : step (between opened most) point = between opened most := by
        have possible := isBlank_value blank
        simp only [List.mem_cons, List.not_mem_nil, or_false] at possible
        simp only [step, between, Bool.false_eq_true, if_false]
        rw [if_neg (by omega), if_neg (by omega), if_neg (by omega)]
      rw [after, List.foldl_cons, quiet]
      exact ih
  | @token token spelling rest tokens head _ ih =>
      rcases exists_take_between opened most token with ⟨now, ever, taken⟩
      rw [after_append, after_spelled head, List.foldl_cons, taken]
      exact ih

/-! ## Counting over documents -/

/-- The comma that precedes a later item does not count. -/
theorem foldl_itemLexemes (state : Nesting) (items : List Json)
    (more : List Token) :
    (itemLexemes items ++ more).foldl take state =
      (laterItems items ++ more).foldl take state := by
  cases items with
  | nil => rfl
  | cons item rest => rfl

theorem foldl_memberLexemes (state : Nesting) (members : List (Text × Json))
    (more : List Token) :
    (memberLexemes members ++ more).foldl take state =
      (laterMembers members ++ more).foldl take state := by
  cases members with
  | nil => rfl
  | cons member rest => rfl

-- The bound `reached` carries the induction: behind an empty list nothing is
-- added to the most brackets, which is right only if those open were counted.
mutual

/-- The tokens of a document leave as many brackets open as before. -/
theorem foldl_lexemes {opened most : Nat} (tree : Json)
    (more : List Token) (reached : opened ≤ most) :
    (lexemes tree ++ more).foldl take (between opened most) =
      more.foldl take (between opened (max most (opened + Value.depth tree))) := by
  cases tree with
  | array items =>
      have inner := foldl_laterItems items (.closeArray :: more)
        (show opened + 1 ≤ max most (opened + 1) by omega)
      have depth : max (max most (opened + 1))
          (opened + 1 + Value.depthOfItems items) =
            max most (opened + Value.depth (.array items)) := by
        rw [Value.depth]
        omega
      rw [depth, ← foldl_itemLexemes] at inner
      rw [lexemes_array, List.cons_append, List.append_assoc, List.foldl_cons]
      exact inner
  | object members =>
      have inner := foldl_laterMembers members (.closeObject :: more)
        (show opened + 1 ≤ max most (opened + 1) by omega)
      have depth : max (max most (opened + 1))
          (opened + 1 + Value.depthOfMembers members) =
            max most (opened + Value.depth (.object members)) := by
        rw [Value.depth]
        omega
      rw [depth, ← foldl_memberLexemes] at inner
      rw [lexemes_object, List.cons_append, List.append_assoc, List.foldl_cons]
      exact inner
  | foreign value => exact value.elim
  | _ =>
      have flat : max most (opened + 0) = most := by omega
      exact congrArg (fun most => more.foldl take (between opened most))
        flat.symm

theorem foldl_laterItems {opened most : Nat} (items : List Json)
    (more : List Token) (reached : opened ≤ most) :
    (laterItems items ++ more).foldl take (between opened most) =
      more.foldl take
        (between opened (max most (opened + Value.depthOfItems items))) := by
  cases items with
  | nil =>
      rw [Value.depthOfItems, Nat.add_zero, Nat.max_eq_left reached]
      rfl
  | cons item rest =>
      have first := foldl_lexemes item (laterItems rest ++ more) reached
      rw [laterItems, List.cons_append, List.append_assoc, List.foldl_cons]
      refine first.trans ?_
      rw [foldl_laterItems rest more (by omega), Value.depthOfItems]
      congr 2
      omega

theorem foldl_laterMembers {opened most : Nat} (members : List (Text × Json))
    (more : List Token) (reached : opened ≤ most) :
    (laterMembers members ++ more).foldl take (between opened most) =
      more.foldl take
        (between opened
          (max most (opened + Value.depthOfMembers members))) := by
  cases members with
  | nil =>
      rw [Value.depthOfMembers, Nat.add_zero, Nat.max_eq_left reached]
      rfl
  | cons member rest =>
      rcases member with ⟨name, value⟩
      have first := foldl_lexemes value (laterMembers rest ++ more) reached
      rw [laterMembers, List.cons_append, List.cons_append, List.cons_append,
        List.append_assoc, List.foldl_cons, List.foldl_cons, List.foldl_cons]
      refine first.trans ?_
      rw [foldl_laterMembers rest more (by omega), Value.depthOfMembers]
      congr 2
      omega

end

end Nesting

/-- The text of a document is nested as deep as the document. -/
theorem nesting_eq_depth {text : Text} {tree : Json}
    (lexes : Lexes text (lexemes tree)) : nesting text = Value.depth tree := by
  have counted := Nesting.foldl_lexemes tree [] (Nat.le_refl 0)
  rw [List.append_nil] at counted
  have all : Nesting.after (Nesting.between 0 0) text =
      Nesting.between 0 (max 0 (0 + Value.depth tree)) := by
    rw [Nesting.after_lexes lexes, counted]
    rfl
  rw [nesting]
  exact (congrArg Nesting.most all).trans (by simp [Nesting.between])

end ResponseService.Json
