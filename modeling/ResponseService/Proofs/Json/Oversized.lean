import ResponseService.Proofs.Json.Reading

/-!
# Integers of too many digits

Reading ends at an integer of too many digits exactly where such an integer
stands in the place of a value and everything before it is in order
(`readWithin_eq_oversized_iff`).  Nothing behind the integer counts.

A value being due, the tokens before that place end with no scalar, and the
machine never takes two scalars side by side.  So they are cut as if nothing
followed (`tokens_before_obstacle`).
-/

namespace ResponseService.Json

/-! ## Before an obstacle -/

/-- Separated tokens are all that is cut of a text that begins with them and
goes on with an obstacle. -/
theorem tokens_before_obstacle {before rest : Text} {expected : List Token}
    (lexes : Lexes before expected) (separated : Separated expected)
    {point : CodePoint} (ends : EndsLast expected (point :: rest))
    {obstacle : Obstacle} (solid : isBlank point = false)
    (met : ∀ position, front position point rest = .obstacle obstacle) :
    ∃ placed, placed.map Placed.token = expected ∧
      tokens (before ++ point :: rest) =
        (placed, ⟨before.length, some obstacle⟩) := by
  obtain ⟨placed, remaining, room, same, cut⟩ :=
    tokensWithin_append lexes separated ends (Nat.le_refl _) 0
  cases remaining with
  | zero => cases room
  | succ remaining =>
      refine ⟨placed, same, ?_⟩
      rw [tokens, cut, Nat.zero_add]
      simp [tokensWithin, solid, met]

/-- A text does not begin with a byte order mark if none stands at the front of
what follows some tokens. -/
theorem Lexes.no_byteOrderMark_append {before : Text} {expected : List Token}
    (lexes : Lexes before expected) {point : CodePoint}
    (other : point.value ≠ 0xFEFF) (rest : Text) :
    (before ++ point :: rest).head?.any
      (fun first => decide (first.value = 0xFEFF)) = false := by
  cases before with
  | nil => simp [other]
  | cons first _ => exact lexes.no_byteOrderMark

/-! ## Tokens that the machine takes -/

/-- What has been delivered is followed by a punctuation mark or by nothing. -/
theorem isMark_of_advance_deliver {limit : Nat} {value : Json}
    {outer : List Frame} {token : Token} {next : State}
    (taken : advance limit (deliver value outer) token = some next) :
    token.IsMark := by
  rcases outer with _ | ⟨_ | _, outer⟩ <;> cases token <;> trivial

/-- A scalar is delivered where it is taken. -/
theorem exists_deliver_of_scalar {limit : Nat} {state next : State}
    {value : Json} (taken : advance limit state (.scalar value) = some next) :
    ∃ outer, next = deliver value outer := by
  cases state with
  | value outer => exact ⟨outer, by cases taken; rfl⟩
  | firstItem outer => exact ⟨.item [] :: outer, by cases taken; rfl⟩
  | _ => cases taken

/-- The machine never takes two scalars side by side. -/
theorem separated_of_advanceAll {limit : Nat} {tokens : List Token}
    {state last : State} (run : advanceAll limit state tokens = some last) :
    Separated tokens := by
  induction tokens generalizing state with
  | nil => trivial
  | cons token rest ih =>
      obtain ⟨next, taken, later⟩ := advanceAll_cons_eq_some run
      refine ⟨?_, ih later⟩
      intro scalar
      cases token with
      | scalar value =>
          obtain ⟨outer, rfl⟩ := exists_deliver_of_scalar taken
          intro second first
          cases rest with
          | nil => cases first
          | cons token rest =>
              cases first
              obtain ⟨_, taken, _⟩ := advanceAll_cons_eq_some later
              exact isMark_of_advance_deliver taken
      | _ => exact scalar.elim

theorem takesNumber_deliver (value : Json) (outer : List Frame) :
    (deliver value outer).takesNumber = false := by
  rcases outer with _ | ⟨_ | _, outer⟩ <;> rfl

/-- Where a value is due, what has been taken last is no scalar. -/
theorem endsLast_of_advanceAll {limit : Nat} {tokens : List Token}
    {state next : State} (run : advanceAll limit state tokens = some next)
    (due : next.takesNumber = true) (after : Text) : EndsLast tokens after := by
  induction tokens generalizing state with
  | nil => exact fun _ member => nomatch member
  | cons first rest ih =>
      obtain ⟨between, taken, later⟩ := advanceAll_cons_eq_some run
      intro token member scalar
      cases rest with
      | nil =>
          cases later
          cases member
          cases first with
          | scalar value =>
              obtain ⟨outer, rfl⟩ := exists_deliver_of_scalar taken
              rw [takesNumber_deliver] at due
              cases due
          | _ => exact scalar.elim
      | cons second others =>
          rw [List.getLast?_cons_cons] at member
          exact ih later token member scalar

/-! ## Integers of too many digits -/

/-- An integer of so many digits stands where a value is due, everything before
it is in order, and they are too many. -/
inductive MeetsOversized (limit : Nat) : Text → Nat → Prop where
  | mk {before rest after : Text} {tokens : List Token} {state : State}
      {number : NumberSpelling}
      (lexes : Lexes before tokens)
      (run : advanceAll limit (.value []) tokens = some state)
      (due : state.takesNumber = true)
      (read : numberOf? rest = some (number, after))
      (integer : number.fraction = none ∧ number.exponent = none)
      (long : digitLimit < number.whole.length) :
      MeetsOversized limit (before ++ rest) number.whole.length

theorem value_eq_oversized_iff {number : NumberSpelling} {digits : Nat} :
    number.value = .error (.oversized digits) ↔
      (number.fraction = none ∧ number.exponent = none) ∧
        digitLimit < number.whole.length ∧ number.whole.length = digits := by
  rcases number with ⟨negative, whole, _ | fraction, _ | exponent⟩
  · simp only [NumberSpelling.value]
    split <;> simp [*]
  all_goals simp [NumberSpelling.value]

/-- The front of a text that begins with a number is what the number comes to. -/
theorem front_of_number {point : CodePoint} {rest after : Text}
    {number : NumberSpelling}
    (read : numberOf? (point :: rest) = some (number, after))
    {obstacle : Obstacle} (refused : number.value = .error obstacle) :
    isBlank point = false ∧ point.value ≠ 0xFEFF ∧
      ∀ position, front position point rest = .obstacle obstacle := by
  obtain ⟨wellFormed, split⟩ := wellFormed_of_numberOf? read
  obtain ⟨head, tail, same, begins⟩ := beginsScalar_of_number wellFormed
  have noWord := wordOf?_number wellFormed after
  rw [← split] at noWord
  rw [same, List.cons_append, List.cons.injEq] at split
  rw [← split.1] at begins
  refine ⟨begins.isBlank_eq_false, begins.ne.2, fun position => ?_⟩
  simp [front, begins.punctuation?_eq_none, begins.ne.1, noWord, read, refused]

theorem number_of_front_oversized {position : Nat} {point : CodePoint}
    {rest : Text} {digits : Nat}
    (met : front position point rest = .obstacle (.oversized digits)) :
    ∃ number after, numberOf? (point :: rest) = some (number, after) ∧
      number.value = .error (.oversized digits) := by
  unfold front at met
  split at met
  · cases met
  · split at met
    · split at met <;> cases met
    · split at met
      · cases met
      · split at met
        · next number after read =>
            split at met
            · cases met
            · next obstacle refused =>
                cases met
                exact ⟨number, after, read, refused⟩
        · cases met

/-- No token is refused for the digits of an integer. -/
theorem run_ne_oversized {limit : Nat} {tokens : List Placed} {state : State}
    {digits : Nat} : run limit state tokens ≠ .error (.oversized digits) := by
  intro failed
  obtain ⟨_, _, _, _, _, _, refused⟩ := exists_refused_of_run failed
  rcases eq_of_step_error refused with same | ⟨_, same⟩ <;> cases same

theorem finish_eq_oversized_iff {state : State} {ending : Ending}
    {digits : Nat} :
    finish state ending = .error (.oversized digits) ↔
      ending.obstacle = some (.oversized digits) ∧ state.takesNumber = true := by
  rcases ending with ⟨position, _ | obstacle⟩
  · cases state <;> simp [finish]
  · cases obstacle <;> simp [finish] <;> split <;> simp_all

theorem meetsOversized_of_readWithin {limit : Nat} {text : Text} {digits : Nat}
    (failed : readWithin limit text = .error (.oversized digits)) :
    MeetsOversized limit text digits := by
  unfold readWithin at failed
  split at failed
  · cases failed
  · cases taken : run limit (.value []) (tokens text).1 with
    | error problem =>
        rw [taken] at failed
        cases failed
        exact absurd taken run_ne_oversized
    | ok state =>
        simp only [taken, finish_eq_oversized_iff] at failed
        obtain ⟨obstacle, due⟩ := failed
        obtain ⟨before, after, split, lexes, -, stops⟩ :=
          exists_lexes_of_tokens text
        generalize (tokens text).2 = ending at obstacle stops
        cases stops with
        | complete => cases obstacle
        | met solid met =>
            cases obstacle
            obtain ⟨number, behind, read, refused⟩ :=
              number_of_front_oversized met
            obtain ⟨integer, long, rfl⟩ := value_eq_oversized_iff.mp refused
            rw [split]
            exact .mk lexes (run_eq_ok_iff.mp taken) due read integer long

theorem readWithin_of_meetsOversized {limit : Nat} {text : Text} {digits : Nat}
    (meets : MeetsOversized limit text digits) :
    readWithin limit text = .error (.oversized digits) := by
  obtain @⟨before, rest, after, expected, state, number, lexes, taken, due, read,
    integer, long⟩ := meets
  have refused := value_eq_oversized_iff.mpr ⟨integer, long, rfl⟩
  cases rest with
  | nil => cases read
  | cons point rest =>
      obtain ⟨solid, other, met⟩ := front_of_number read refused
      obtain ⟨placed, same, cut⟩ := tokens_before_obstacle lexes
        (separated_of_advanceAll taken)
        (endsLast_of_advanceAll taken due (point :: rest)) solid met
      have noMark := lexes.no_byteOrderMark_append other rest
      rw [← same, ← run_eq_ok_iff] at taken
      rw [readWithin, if_neg (ne_true_of_eq_false noMark), cut]
      simp only [taken]
      exact finish_eq_oversized_iff.mpr ⟨rfl, due⟩

/-- Reading ends at an integer of too many digits exactly where one stands in
the place of a value and everything before it is in order. -/
theorem readWithin_eq_oversized_iff {limit : Nat} {text : Text} {digits : Nat} :
    readWithin limit text = .error (.oversized digits) ↔
      MeetsOversized limit text digits :=
  ⟨meetsOversized_of_readWithin, readWithin_of_meetsOversized⟩

end ResponseService.Json
