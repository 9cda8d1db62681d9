import ResponseService.Proofs.Json.Number
import ResponseService.Proofs.Json.Quotation

/-!
# Cutting a text into tokens

Whatever a text is, what stands before the place where its tokens end spells the
tokens that were cut (`exists_lexes_of_tokens`); if it is cut to its end it
spells them all (`lexes_of_tokens`).  Conversely tokens are cut from the front
of every text that spells them there (`tokensWithin_append`), provided that no
number or word has another one or a quotation right behind it: in that case a
blank, a punctuation mark or the end tells where the number or the word is over.
-/

namespace ResponseService.Json

/-! ## Words -/

theorem dropWord?_eq_some_iff {word text rest : Text} :
    dropWord? word text = some rest ↔ text = word ++ rest := by
  induction word generalizing text with
  | nil => simp [dropWord?]
  | cons letter word ih =>
      cases text with
      | nil => simp [dropWord?]
      | cons point text =>
          by_cases same : letter = point
          · simp [dropWord?, same, ih]
          · simp [dropWord?, same, Ne.symm same]

theorem mem_words_of_wordOf? {text rest : Text} {value : Json} {length : Nat}
    (found : wordOf? text = some (value, length, rest)) :
    ∃ word, (word, value) ∈ words ∧ text = word ++ rest ∧
      length = word.length := by
  rcases List.exists_of_findSome?_eq_some found with
    ⟨⟨word, known⟩, member, taken⟩
  simp only [Option.map_eq_some_iff, Prod.mk.injEq] at taken
  rcases taken with ⟨behind, dropped, rfl, rfl, rfl⟩
  exact ⟨word, member, dropWord?_eq_some_iff.mp dropped, rfl⟩

theorem wordOf?_append {word : Text} {value : Json}
    (known : (word, value) ∈ words) (rest : Text) :
    wordOf? (word ++ rest) = some (value, word.length, rest) := by
  simp only [words, List.mem_cons, Prod.mk.injEq, List.not_mem_nil, or_false]
    at known
  rcases known with ⟨rfl, rfl⟩ | ⟨rfl, rfl⟩ | ⟨rfl, rfl⟩ | ⟨rfl, rfl⟩ |
    ⟨rfl, rfl⟩ | ⟨rfl, rfl⟩ <;> rfl

theorem head_of_mem_words {word : Text} {value : Json}
    (known : (word, value) ∈ words) :
    ∃ point rest, word = point :: rest ∧
      ((0x41 ≤ point.value ∧ point.value ≤ 0x5A ∨
          0x61 ≤ point.value ∧ point.value ≤ 0x7A) ∨
        point.value = 0x2D ∧
          ∃ next others, rest = next :: others ∧ next.value = 0x49) := by
  simp only [words, List.mem_cons, Prod.mk.injEq, List.not_mem_nil, or_false]
    at known
  rcases known with ⟨rfl, _⟩ | ⟨rfl, _⟩ | ⟨rfl, _⟩ | ⟨rfl, _⟩ | ⟨rfl, _⟩ |
    ⟨rfl, _⟩
  · exact ⟨_, _, rfl, Or.inl (by decide)⟩
  · exact ⟨_, _, rfl, Or.inl (by decide)⟩
  · exact ⟨_, _, rfl, Or.inl (by decide)⟩
  · exact ⟨_, _, rfl, Or.inl (by decide)⟩
  · exact ⟨_, _, rfl, Or.inl (by decide)⟩
  · exact ⟨_, _, rfl, Or.inr ⟨rfl, _, _, rfl, rfl⟩⟩

theorem NumberSpelling.WellFormed.head {number : NumberSpelling}
    (wellFormed : number.WellFormed) :
    ∃ point rest, number.text = point :: rest ∧
      (point.isDigit = true ∨
        point.value = 0x2D ∧
          ∃ next others, rest = next :: others ∧ next.isDigit = true) := by
  rcases wellFormed.whole.head with ⟨digit, others, split, isDigit⟩
  rw [number.text_eq, split]
  cases number.negative with
  | true => exact ⟨_, _, rfl, Or.inr ⟨rfl, _, _, rfl, isDigit⟩⟩
  | false => exact ⟨_, _, rfl, Or.inl isDigit⟩

theorem isDigit_value {point : CodePoint} (digit : point.isDigit = true) :
    0x30 ≤ point.value ∧ point.value ≤ 0x39 := by
  simpa [CodePoint.isDigit] using digit

theorem wordOf?_number {number : NumberSpelling}
    (wellFormed : number.WellFormed) (after : Text) :
    wordOf? (number.text ++ after) = none := by
  cases found : wordOf? (number.text ++ after) with
  | none => rfl
  | some taken =>
      rcases taken with ⟨value, length, rest⟩
      rcases mem_words_of_wordOf? found with ⟨word, known, split, _⟩
      rcases head_of_mem_words known with
        ⟨letter, letters, wordSplit, letterCase⟩
      rcases wellFormed.head with ⟨point, points, textSplit, pointCase⟩
      rw [wordSplit, textSplit, List.cons_append, List.cons_append,
        List.cons.injEq] at split
      rcases split with ⟨rfl, behind⟩
      rcases pointCase with digit | ⟨minus, next, others, rfl, digit⟩
      · have range := isDigit_value digit
        omega
      · have range := isDigit_value digit
        rcases letterCase with upper | ⟨_, second, tail, rfl, capital⟩
        · omega
        · rw [List.cons_append, List.cons_append, List.cons.injEq] at behind
          rw [behind.1] at range
          omega

/-! ## What a spelling begins with -/

/-- Digits, the minus and the letters lie on these stretches, and nothing that
begins another token does. -/
def BeginsScalar (point : CodePoint) : Prop :=
  0x2D ≤ point.value ∧ point.value ≤ 0x39 ∨
    0x41 ≤ point.value ∧ point.value ≤ 0x5A ∨
    0x61 ≤ point.value ∧ point.value ≤ 0x7A

theorem BeginsScalar.punctuation?_eq_none {point : CodePoint}
    (begins : BeginsScalar point) : punctuation? point = none := by
  cases known : punctuation? point with
  | none => rfl
  | some mark =>
      have possible := punctuation?_value known
      simp only [List.mem_cons, List.not_mem_nil, or_false] at possible
      unfold BeginsScalar at begins
      omega

theorem BeginsScalar.isBlank_eq_false {point : CodePoint}
    (begins : BeginsScalar point) : isBlank point = false := by
  rw [← Bool.not_eq_true]
  intro blank
  have possible := isBlank_value blank
  simp only [List.mem_cons, List.not_mem_nil, or_false] at possible
  unfold BeginsScalar at begins
  omega

theorem BeginsScalar.ne {point : CodePoint} (begins : BeginsScalar point) :
    point.value ≠ 0x22 ∧ point.value ≠ 0xFEFF := by
  unfold BeginsScalar at begins
  omega

theorem beginsScalar_of_word {word : Text} {value : Json}
    (known : (word, value) ∈ words) :
    ∃ point rest, word = point :: rest ∧ BeginsScalar point := by
  rcases head_of_mem_words known with ⟨point, rest, split, range⟩
  refine ⟨point, rest, split, ?_⟩
  unfold BeginsScalar
  omega

theorem beginsScalar_of_number {number : NumberSpelling}
    (wellFormed : number.WellFormed) :
    ∃ point rest, number.text = point :: rest ∧ BeginsScalar point := by
  rcases wellFormed.head with ⟨point, rest, split, first⟩
  refine ⟨point, rest, split, ?_⟩
  unfold BeginsScalar
  rcases first with digit | ⟨minus, _⟩
  · have range := isDigit_value digit
    omega
  · omega

/-! ## What numbers and words are written with -/

/-- Besides what may begin a number or a word, a plus may stand in it. -/
def InScalar (point : CodePoint) : Prop :=
  point.value = 0x2B ∨ BeginsScalar point

theorem inScalar_of_word {word : Text} {value : Json}
    (known : (word, value) ∈ words) : ∀ point ∈ word, InScalar point := by
  unfold InScalar BeginsScalar
  simp only [words, List.mem_cons, Prod.mk.injEq, List.not_mem_nil,
    or_false] at known
  rcases known with ⟨rfl, _⟩ | ⟨rfl, _⟩ | ⟨rfl, _⟩ | ⟨rfl, _⟩ | ⟨rfl, _⟩ |
    ⟨rfl, _⟩ <;> decide

theorem inScalar_of_isDigits {text : Text} (digits : IsDigits text) :
    ∀ point ∈ text, InScalar point := by
  intro point member
  have digit := isDigit_value (digits.2 point member)
  unfold InScalar BeginsScalar
  omega

theorem inScalar_of_exponent {exponent : ExponentSpelling}
    (formed : exponent.WellFormed) :
    ∀ point ∈ exponent.text, InScalar point := by
  intro point member
  simp only [ExponentSpelling.text, List.mem_cons, List.mem_append,
    Option.mem_toList] at member
  rcases member with rfl | sign | digit
  · have letter := formed.mark
    unfold InScalar BeginsScalar
    omega
  · have mark := formed.sign point sign
    unfold InScalar BeginsScalar
    omega
  · exact inScalar_of_isDigits formed.digits point digit

theorem inScalar_of_number {number : NumberSpelling}
    (formed : number.WellFormed) : ∀ point ∈ number.text, InScalar point := by
  intro point member
  rw [number.text_eq] at member
  simp only [List.mem_append] at member
  rcases member with sign | whole | fraction | exponent
  · cases negative : number.negative with
    | true =>
        rw [negative] at sign
        rw [List.mem_singleton.mp sign]
        exact Or.inr (Or.inl (by decide))
    | false =>
        rw [negative] at sign
        cases sign
  · exact inScalar_of_isDigits formed.whole point whole
  · cases present : number.fraction with
    | none =>
        rw [present] at fraction
        cases fraction
    | some digits =>
        rw [present] at fraction
        rcases List.mem_cons.mp fraction with rfl | digit
        · exact Or.inr (Or.inl (by decide))
        · exact inScalar_of_isDigits (formed.fraction digits present) point
            digit
  · cases present : number.exponent with
    | none =>
        rw [present] at exponent
        cases exponent
    | some written =>
        rw [present] at exponent
        exact inScalar_of_exponent (formed.exponent written present) point
          exponent

theorem isBlank_eq_false_of_punctuation? {point : CodePoint} {mark : Token}
    (known : punctuation? point = some mark) :
    isBlank point = false ∧ point.value ≠ 0xFEFF := by
  have value := punctuation?_value known
  simp only [List.mem_cons, List.not_mem_nil, or_false] at value
  refine ⟨?_, by omega⟩
  rw [← Bool.not_eq_true]
  intro blank
  have possible := isBlank_value blank
  simp only [List.mem_cons, List.not_mem_nil, or_false] at possible
  omega

/-- No token begins with a blank or with a byte order mark. -/
theorem Token.Spelled.head {token : Token} {spelling : Text}
    (spelled : token.Spelled spelling) :
    ∃ point rest, spelling = point :: rest ∧ isBlank point = false ∧
      point.value ≠ 0xFEFF := by
  cases spelled with
  | mark known =>
      exact ⟨_, _, rfl, isBlank_eq_false_of_punctuation? known⟩
  | quoted inside => exact ⟨_, _, rfl, by decide, by decide⟩
  | word known =>
      rcases beginsScalar_of_word known with ⟨point, rest, split, begins⟩
      exact ⟨point, rest, split, begins.isBlank_eq_false, begins.ne.2⟩
  | number wellFormed valued =>
      rcases beginsScalar_of_number wellFormed with ⟨point, rest, split, begins⟩
      exact ⟨point, rest, split, begins.isBlank_eq_false, begins.ne.2⟩

/-! ## The front of a text -/

/-- Something other than a punctuation mark or a quotation: it goes on until
something else stops it. -/
def Token.IsScalar : Token → Prop
  | .scalar _ => True
  | _ => False

/-- What was cut from the front is the spelling of its token. -/
theorem spelled_of_front {position length : Nat} {point : CodePoint}
    {rest after : Text} {token : Token}
    (cut : front position point rest = .token token length after) :
    ∃ spelling, token.Spelled spelling ∧ point :: rest = spelling ++ after ∧
      length = spelling.length := by
  unfold front at cut
  split at cut
  · next mark known =>
      cases cut
      exact ⟨[point], .mark known, rfl, rfl⟩
  · split at cut
    · next quote =>
        split at cut
        · next units next behind scanned =>
            cases cut
            rcases scanText_eq_ok_iff.mp scanned with
              ⟨inside, spelled, rfl, rfl⟩
            have same : point = quoteMark := CodePoint.eq_of_value_eq quote
            refine ⟨_, .quoted spelled, ?_, ?_⟩
            · rw [same]
              simp
            · simp only [List.length_cons, List.length_append, List.length_nil]
              omega
        · cases cut
    · split at cut
      · next value taken behind found =>
          cases cut
          rcases mem_words_of_wordOf? found with ⟨word, known, split, same⟩
          exact ⟨word, .word known, split, same⟩
      · split at cut
        · next number behind found =>
            split at cut
            · next value valued =>
                cases cut
                rcases wellFormed_of_numberOf? found with ⟨wellFormed, split⟩
                exact ⟨number.text, .number wellFormed valued, split, rfl⟩
            · cases cut
        · cases cut

/-- The spelling of a token is cut from the front, if it is over there. -/
theorem front_of_spelled {position : Nat} {point : CodePoint}
    {rest after spelling : Text} {token : Token}
    (spelled : token.Spelled spelling)
    (ends : token.IsScalar → EndsScalar after)
    (split : spelling ++ after = point :: rest) :
    front position point rest = .token token spelling.length after := by
  cases spelled with
  | mark known =>
      rw [List.singleton_append, List.cons.injEq] at split
      rcases split with ⟨rfl, rfl⟩
      simp [front, known]
  | @quoted units inside spelled =>
      rw [List.cons_append, List.append_assoc, List.singleton_append,
        List.cons.injEq] at split
      rcases split with ⟨rfl, rfl⟩
      have noMark : punctuation? quoteMark = none := rfl
      have quote : quoteMark.value = 0x22 := rfl
      simp only [front, noMark, quote, if_true,
        scanText_of_unitsSpelled spelled, List.length_cons, List.length_append,
        List.length_nil]
      congr 1
      omega
  | @word _ value known =>
      rcases beginsScalar_of_word known with ⟨head, tail, same, begins⟩
      have found := wordOf?_append known after
      rw [split] at found
      rw [same, List.cons_append, List.cons.injEq] at split
      rw [split.1] at begins
      simp [front, begins.punctuation?_eq_none, begins.ne.1, found]
  | @number number value wellFormed valued =>
      rcases beginsScalar_of_number wellFormed with ⟨head, tail, same, begins⟩
      have noWord := wordOf?_number wellFormed after
      have found := numberOf?_append wellFormed (ends trivial).endsNumber
      rw [split] at noWord found
      rw [same, List.cons_append, List.cons.injEq] at split
      rw [split.1] at begins
      simp [front, begins.punctuation?_eq_none, begins.ne.1, noWord, found,
        valued]

/-! ## The whole text -/

/-- The token is a punctuation mark. -/
def Token.IsMark : Token → Prop
  | .text _ | .scalar _ => False
  | _ => True

/-- A punctuation mark comes first, if anything does. -/
def BeginsWithMark (tokens : List Token) : Prop :=
  ∀ token ∈ tokens.head?, token.IsMark

/-- Behind a number or a word stands a punctuation mark or nothing. -/
def Separated : List Token → Prop
  | [] => True
  | token :: rest => (token.IsScalar → BeginsWithMark rest) ∧ Separated rest

/-- A number or a word is over where a punctuation mark is spelled next. -/
theorem endsScalar_of_lexes {text : Text} {tokens : List Token}
    (lexes : Lexes text tokens) (mark : BeginsWithMark tokens) :
    EndsScalar text := by
  intro point member
  cases lexes with
  | nil => cases member
  | blank blank tail =>
      simp only [List.head?_cons, Option.mem_some_iff] at member
      exact Or.inl (member ▸ blank)
  | token head tail =>
      have isMark := mark _ rfl
      cases head with
      | mark known =>
          simp only [List.singleton_append, List.head?_cons,
            Option.mem_some_iff] at member
          exact Or.inr ⟨_, member ▸ known⟩
      | quoted spelled => exact isMark.elim
      | word known => exact isMark.elim
      | number wellFormed valued => exact isMark.elim

/-- No token is spelled by nothing. -/
theorem Lexes.ne_nil {text : Text} {token : Token} {rest : List Token}
    (lexes : Lexes text (token :: rest)) : text ≠ [] := by
  cases lexes with
  | blank _ _ => exact List.cons_ne_nil _ _
  | token head _ =>
      obtain ⟨_, _, rfl, _⟩ := head.head
      exact List.cons_ne_nil _ _

/-- What follows some tokens tells where the last of them is over. -/
def EndsLast (expected : List Token) (after : Text) : Prop :=
  ∀ token ∈ expected.getLast?, token.IsScalar → EndsScalar after

theorem EndsLast.tail {token : Token} {rest : List Token} {after : Text}
    (ends : EndsLast (token :: rest) after) : EndsLast rest after := by
  cases rest with
  | nil => exact fun _ member => nomatch member
  | cons next later =>
      rw [EndsLast, List.getLast?_cons_cons] at ends
      exact ends

/-- A number or a word is over behind its spelling, both where more tokens are
spelled next and where the text after them comes next. -/
theorem endsScalar_append {token : Token} {text : Text} {tokens : List Token}
    (lexes : Lexes text tokens) (mark : BeginsWithMark tokens) {after : Text}
    (ends : EndsLast (token :: tokens) after) (scalar : token.IsScalar) :
    EndsScalar (text ++ after) := by
  have front := endsScalar_of_lexes lexes mark
  cases text with
  | nil =>
      cases tokens with
      | nil => exact ends token rfl scalar
      | cons next later => exact absurd rfl lexes.ne_nil
  | cons point rest => exact front

/-- Separated tokens are cut from the front of every text that spells them
there, and what follows them is cut for itself. -/
theorem tokensWithin_append {before : Text} {expected : List Token}
    (lexes : Lexes before expected) (separated : Separated expected)
    {after : Text} (ends : EndsLast expected after) {fuel : Nat}
    (enough : (before ++ after).length ≤ fuel) (position : Nat) :
    ∃ placed remaining, after.length ≤ remaining ∧
      placed.map Placed.token = expected ∧
      tokensWithin fuel position (before ++ after) =
        (placed ++ (tokensWithin remaining (position + before.length) after).1,
          (tokensWithin remaining (position + before.length) after).2) := by
  induction lexes generalizing fuel position with
  | nil => exact ⟨[], fuel, enough, rfl, rfl⟩
  | @blank point rest tokens blank tail ih =>
      cases fuel with
      | zero => simp at enough
      | succ fuel =>
          have shorter : (rest ++ after).length ≤ fuel := by simpa using enough
          obtain ⟨placed, remaining, room, same, later⟩ :=
            ih separated ends shorter (position + 1)
          refine ⟨placed, remaining, room, same, ?_⟩
          have place : position + (point :: rest).length =
              position + 1 + rest.length := by
            rw [List.length_cons]
            omega
          rw [place, ← later]
          simp only [List.cons_append, tokensWithin, blank, if_true]
  | @token token spelling rest tokens head tail ih =>
      rcases head.head with ⟨point, others, rfl, solid, _⟩
      cases fuel with
      | zero => simp at enough
      | succ fuel =>
          have cut : front position point (others ++ (rest ++ after)) =
              .token token (point :: others).length (rest ++ after) :=
            front_of_spelled head
              (fun scalar => endsScalar_append tail (separated.1 scalar) ends scalar)
              rfl
          have shorter : (rest ++ after).length ≤ fuel := by
            simp only [List.cons_append, List.append_assoc, List.length_cons,
              List.length_append] at enough ⊢
            omega
          obtain ⟨placed, remaining, room, same, later⟩ :=
            ih separated.2 ends.tail shorter (position + (point :: others).length)
          refine ⟨⟨position, token⟩ :: placed, remaining, room,
            congrArg _ same, ?_⟩
          rw [List.length_append, ← Nat.add_assoc]
          simp only [List.cons_append, List.append_assoc, tokensWithin, solid,
            Bool.false_eq_true, if_false, cut, later]

/-- A text that spells separated tokens is cut into them. -/
theorem tokens_of_lexes {text : Text} {expected : List Token}
    (lexes : Lexes text expected) (separated : Separated expected) :
    (tokens text).1.map Placed.token = expected ∧
      (tokens text).2.obstacle = none := by
  have ends : EndsLast expected [] := fun _ _ _ _ member => nomatch member
  obtain ⟨placed, remaining, _, same, cut⟩ :=
    tokensWithin_append lexes separated ends
      (Nat.le_of_eq (congrArg List.length (List.append_nil text))) 0
  rw [List.append_nil] at cut
  rw [tokens, cut]
  simpa [tokensWithin] using same

/-! ## Up to an obstacle -/

/-- Nothing is left where the tokens end, or the obstacle that is met there. -/
inductive Stops : Text → Ending → Prop where
  | complete {position : Nat} : Stops [] ⟨position, none⟩
  | met {position : Nat} {point : CodePoint} {rest : Text} {obstacle : Obstacle}
      (solid : isBlank point = false)
      (front : front position point rest = .obstacle obstacle) :
      Stops (point :: rest) ⟨position, some obstacle⟩

theorem exists_lexes_of_tokensWithin {fuel : Nat} {text : Text}
    (enough : text.length ≤ fuel) (position : Nat) :
    ∃ before after, text = before ++ after ∧
      Lexes before ((tokensWithin fuel position text).1.map Placed.token) ∧
      (tokensWithin fuel position text).2.position = position + before.length ∧
      Stops after (tokensWithin fuel position text).2 := by
  induction fuel generalizing position text with
  | zero =>
      rw [List.eq_nil_of_length_eq_zero (Nat.le_zero.mp enough)]
      exact ⟨[], [], rfl, .nil, rfl, .complete⟩
  | succ fuel ih =>
      cases text with
      | nil => exact ⟨[], [], rfl, .nil, rfl, .complete⟩
      | cons point rest =>
          rw [List.length_cons] at enough
          by_cases blank : isBlank point = true
          · obtain ⟨before, after, split, lexes, place, stops⟩ :=
              ih (show rest.length ≤ fuel by omega) (position + 1)
            simp only [tokensWithin, blank, if_true]
            refine ⟨point :: before, after, by rw [split, List.cons_append],
              .blank blank lexes, ?_, stops⟩
            rw [place, List.length_cons]
            omega
          · have solid : isBlank point = false := Bool.not_eq_true _ ▸ blank
            cases cut : front position point rest with
            | obstacle obstacle =>
                simp only [tokensWithin, solid, Bool.false_eq_true, if_false, cut]
                exact ⟨[], point :: rest, rfl, .nil, rfl, .met solid cut⟩
            | token token length behind =>
                obtain ⟨spelling, spelled, split, rfl⟩ := spelled_of_front cut
                obtain ⟨_, _, rfl, _⟩ := spelled.head
                have shorter : behind.length ≤ fuel := by
                  have lengths := congrArg List.length split
                  simp only [List.length_cons, List.length_append] at lengths
                  omega
                obtain ⟨before, after, again, lexes, place, stops⟩ :=
                  ih shorter (position + _)
                simp only [tokensWithin, solid, Bool.false_eq_true, if_false, cut]
                refine ⟨_ ++ before, after, ?_, .token spelled lexes, ?_, stops⟩
                · rw [split, again, List.append_assoc]
                · rw [place, List.length_append]
                  omega

/-- What stands before the end of the tokens spells them. -/
theorem exists_lexes_of_tokens (text : Text) :
    ∃ before after, text = before ++ after ∧
      Lexes before ((tokens text).1.map Placed.token) ∧
      (tokens text).2.position = before.length ∧ Stops after (tokens text).2 := by
  obtain ⟨before, after, split, lexes, place, stops⟩ :=
    exists_lexes_of_tokensWithin (Nat.le_refl text.length) 0
  exact ⟨before, after, split, lexes, place.trans (Nat.zero_add _), stops⟩

/-- What is cut without an obstacle spells the tokens. -/
theorem lexes_of_tokens {text : Text}
    (complete : (tokens text).2.obstacle = none) :
    Lexes text ((tokens text).1.map Placed.token) := by
  obtain ⟨before, after, split, lexes, -, stops⟩ := exists_lexes_of_tokens text
  generalize (tokens text).2 = ending at complete stops
  cases stops with
  | complete =>
      rw [List.append_nil] at split
      rwa [← split] at lexes
  | met _ _ => cases complete

/-! ## Byte order marks -/

/-- A text that spells something does not begin with a byte order mark. -/
theorem Lexes.no_byteOrderMark {text : Text} {tokens : List Token}
    (lexes : Lexes text tokens) :
    text.head?.any (fun point => decide (point.value = 0xFEFF)) = false := by
  cases lexes with
  | nil => rfl
  | blank blank tail =>
      have value := isBlank_value blank
      simp only [List.mem_cons, List.not_mem_nil, or_false] at value
      simp only [List.head?_cons, Option.any_some, decide_eq_false_iff_not]
      omega
  | token head tail =>
      rcases head.head with ⟨point, rest, split, _, other⟩
      simp [split, other]

end ResponseService.Json
