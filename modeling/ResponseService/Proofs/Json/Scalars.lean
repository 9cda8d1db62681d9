import ResponseService.Proofs.Json.Dialect
import ResponseService.Proofs.Json.Tokens

/-!
# Quoted texts and numbers of the dialect

The reader takes a quotation apart into units and a number into its parts.
Both are those of the dialect: the units of a quotation denote its text
(`inside_of_units`, `units_of_inside`), and the parts of a number are those of
a numeral for its value (`numeral_iff`).
-/

namespace ResponseService.Json.Dialect

/-! ## Quoted texts -/

theorem hexDigit_iff {point : CodePoint} {digit : Nat} :
    HexDigit point digit ↔ point.hexValue? = some digit := by
  constructor
  · have lowerTable : ∀ digit < 16,
        (Text.ofString "0123456789abcdef")[digit]?.bind CodePoint.hexValue? =
          some digit := by decide
    have upperTable : ∀ digit < 16,
        (Text.ofString "0123456789ABCDEF")[digit]?.bind CodePoint.hexValue? =
          some digit := by decide
    rintro (lower | upper)
    · have valued := lowerTable digit (List.getElem?_eq_some_iff.mp lower).1
      rwa [lower] at valued
    · have valued := upperTable digit (List.getElem?_eq_some_iff.mp upper).1
      rwa [upper] at valued
  · have decimal : ∀ digit < 10, (Text.ofString "0123456789abcdef")[digit]? =
        some (CodePoint.ofNat (0x30 + digit)) := by decide
    have small : ∀ digit < 6, (Text.ofString "0123456789abcdef")[digit + 10]? =
        some (CodePoint.ofNat (0x61 + digit)) := by decide
    have capital : ∀ digit < 6, (Text.ofString "0123456789ABCDEF")[digit + 10]? =
        some (CodePoint.ofNat (0x41 + digit)) := by decide
    have spelled (start : Nat) (above : start ≤ point.value) :
        CodePoint.ofNat (start + (point.value - start)) = point := by
      rw [Nat.add_sub_cancel' above, CodePoint.ofNat_value]
    intro valued
    unfold CodePoint.hexValue? at valued
    split_ifs at valued with first second third
    · cases valued
      left
      rw [decimal _ (by omega), spelled _ first.1]
    · cases valued
      left
      rw [small _ (by omega), spelled _ second.1]
    · cases valued
      right
      rw [capital _ (by omega), spelled _ third.1]

theorem shorthand?_of_mem {letter point : CodePoint}
    (known : (letter, point) ∈ shortEscapes) :
    shorthand? letter = some point := by
  have table : ∀ escape ∈ shortEscapes,
      shorthand? escape.1 = some escape.2 := by decide
  exact table _ known

theorem mem_of_shorthand? {letter point : CodePoint}
    (named : shorthand? letter = some point) :
    (letter, point) ∈ shortEscapes := by
  have same (number : Nat) (value : letter.value = number) :
      letter = CodePoint.ofNat number := by
    rw [← value, CodePoint.ofNat_value]
  simp only [shorthand?] at named
  split_ifs at named with self back feed line carriage tab
  · cases named
    rcases self with quote | backslash | slash
    · rw [same _ quote]
      decide
    · rw [same _ backslash]
      decide
    · rw [same _ slash]
      decide
  · cases named
    rw [same _ back]
    decide
  · cases named
    rw [same _ feed]
    decide
  · cases named
    rw [same _ line]
    decide
  · cases named
    rw [same _ carriage]
    decide
  · cases named
    rw [same _ tab]
    decide

theorem escape_of_fourDigits? {first second third fourth : CodePoint}
    {number : Nat}
    (digits : fourDigits? first second third fourth = some number) :
    Escape ['\\', 'u', first, second, third, fourth]
      (CodePoint.ofNat number) := by
  simp only [fourDigits?, Option.bind_eq_bind, Option.bind_eq_some_iff,
    Option.pure_def, Option.some.injEq] at digits
  rcases digits with ⟨one, firstDigit, two, secondDigit, three, thirdDigit,
    four, fourthDigit, rfl⟩
  exact .digits (hexDigit_iff.mpr firstDigit) (hexDigit_iff.mpr secondDigit)
    (hexDigit_iff.mpr thirdDigit) (hexDigit_iff.mpr fourthDigit)

theorem Escape.spelled {spelling : Text} {point : CodePoint}
    (escape : Escape spelling point) :
    (TextUnit.escaped point).Spelled spelling := by
  cases escape with
  | digits firstDigit secondDigit thirdDigit fourthDigit =>
      apply TextUnit.Spelled.numbered
      simp only [fourDigits?, hexDigit_iff.mp firstDigit,
        hexDigit_iff.mp secondDigit, hexDigit_iff.mp thirdDigit,
        hexDigit_iff.mp fourthDigit, Option.bind_eq_bind, Option.bind_some,
        Option.pure_def]

theorem escape_of_surrogate {spelling : Text} {point : CodePoint}
    (spelled : (TextUnit.escaped point).Spelled spelling)
    (surrogate : point.isSurrogate = true) : Escape spelling point := by
  cases spelled with
  | shorthand named =>
      have scalar := isSurrogate_eq_false_of_ascii (shorthand?_ascii named).2
      rw [scalar] at surrogate
      cases surrogate
  | numbered digits => exact escape_of_fourDigits? digits

/-- The unit at the front of a text that begins with an escape is the escape. -/
theorem unit_of_escape {units : List TextUnit} {unit : TextUnit}
    {spelling rest : Text} {point : CodePoint}
    (spelled : UnitsSpelled (unit :: units) (spelling ++ rest))
    (escape : Escape spelling point) : unit = .escaped point := by
  generalize same : spelling ++ rest = inside at spelled
  cases escape.spelled with
  | shorthand named => cases escape
  | @numbered first second third fourth number digits =>
      -- A plain unit is no backslash, and `u` names no short escape.
      cases spelled with
      | @cons _ _ other after head tail =>
          cases head with
          | plain visible noQuote noBackslash =>
              simp only [List.cons_append, List.nil_append,
                List.cons.injEq] at same
              rw [← same.1] at noBackslash
              exact absurd rfl noBackslash
          | shorthand named =>
              simp only [List.cons_append, List.nil_append,
                List.cons.injEq] at same
              rw [← same.2.1, shorthand?_eq_none_of_u rfl] at named
              cases named
          | numbered otherDigits =>
              simp only [List.cons_append, List.nil_append,
                List.cons.injEq] at same
              rcases same with ⟨_, _, rfl, rfl, rfl, rfl, _⟩
              rw [digits, Option.some.injEq] at otherDigits
              rw [otherDigits]

theorem Inside.cons {unit : TextUnit} {spelling rest value : Text}
    (spelled : unit.Spelled spelling)
    (alone : ∀ high, unit = .escaped high → high.isHighSurrogate = true →
      ¬BeginsWithLow rest)
    (tail : Inside rest value) :
    Inside (spelling ++ rest) (unit.point :: value) := by
  cases spelled with
  | plain visible noQuote noBackslash =>
      refine .plain visible ?_ ?_ tail
      · rintro rfl
        exact noQuote rfl
      · rintro rfl
        exact noBackslash rfl
  | shorthand named => exact .short (mem_of_shorthand? named) tail
  | numbered digits =>
      exact .single (escape_of_fourDigits? digits) (alone _ rfl) tail

theorem inside_of_units {units : List TextUnit} {inside : Text}
    (spelled : UnitsSpelled units inside) : Inside inside (joinUnits units) := by
  fun_induction joinUnits units generalizing inside with
  | case1 =>
      cases spelled
      exact .nil
  | case2 high low rest pair ih =>
      rw [Bool.and_eq_true] at pair
      cases spelled with
      | cons first tail =>
          cases tail with
          | cons second tail =>
              exact .pair
                (escape_of_surrogate first
                  (CodePoint.isSurrogate_of_high pair.1))
                (escape_of_surrogate second
                  (CodePoint.isSurrogate_of_low pair.2))
                pair.1 pair.2 (ih tail)
  | case3 high low rest apart ih =>
      -- If a low half were to follow, it would be the next unit, and the two
      -- would be a pair.
      cases spelled with
      | cons first tail =>
          refine Inside.cons first ?_ (ih tail)
          rintro _ ⟨⟩ isHigh ⟨escape, other, after, rfl, known, isLow⟩
          cases unit_of_escape tail known
          rw [isHigh, isLow] at apart
          exact apart rfl
  | case4 unit rest noPair ih =>
      cases spelled with
      | cons first tail =>
          refine Inside.cons first ?_ (ih tail)
          rintro high rfl _ ⟨escape, other, after, rfl, known, _⟩
          cases rest with
          | nil =>
              cases known
              cases tail
          | cons next rest =>
              exact noPair high other rest rfl
                (congrArg (List.cons · rest) (unit_of_escape tail known))

theorem units_of_inside {inside value : Text} (between : Inside inside value) :
    ∃ units, UnitsSpelled units inside ∧ joinUnits units = value := by
  induction between with
  | nil => exact ⟨[], .nil, rfl⟩
  | @plain point rest value visible noQuote noBackslash tail ih =>
      rcases ih with ⟨units, spelled, rfl⟩
      have apart {character : Char} (different : point ≠ character) :
          point.value ≠ (CodePoint.ofChar character).value :=
        fun same => different (CodePoint.eq_of_value_eq same)
      exact ⟨.plain point :: units,
        .cons (.plain visible (apart noQuote) (apart noBackslash)) spelled,
        joinUnits_cons_plain point units⟩
  | @short letter point rest value known tail ih =>
      rcases ih with ⟨units, spelled, rfl⟩
      have named := shorthand?_of_mem known
      have scalar := isSurrogate_eq_false_of_ascii (shorthand?_ascii named).2
      have all : UnitsSpelled (.escaped point :: units)
          ((['\\', letter] : Text) ++ rest) :=
        .cons (.shorthand named) spelled
      exact ⟨.escaped point :: units, all,
        joinUnits_cons_of_not_high units
          (CodePoint.isHighSurrogate_eq_false scalar)⟩
  | @pair first second high low rest value firstEscape secondEscape isHigh
      isLow tail ih =>
      rcases ih with ⟨units, spelled, rfl⟩
      refine ⟨.escaped high :: .escaped low :: units,
        .cons firstEscape.spelled (.cons secondEscape.spelled spelled), ?_⟩
      simp [joinUnits, isHigh, isLow]
  | @single spelling point rest value escape alone tail ih =>
      rcases ih with ⟨units, spelled, rfl⟩
      refine ⟨.escaped point :: units, .cons escape.spelled spelled, ?_⟩
      by_cases isHigh : point.isHighSurrogate = true
      · cases spelled with
        | nil => simp [joinUnits, TextUnit.point]
        | @cons next others _ after head tail =>
            cases next with
            | plain other => simp [joinUnits, TextUnit.point]
            | escaped low =>
                have apart : low.isLowSurrogate ≠ true := by
                  intro isLow
                  exact alone isHigh ⟨_, low, after, rfl,
                    escape_of_surrogate head
                      (CodePoint.isSurrogate_of_low isLow), isLow⟩
                simp [joinUnits, apart]
      · rw [Bool.not_eq_true] at isHigh
        exact joinUnits_cons_of_not_high units isHigh

/-! ## Numbers -/

theorem digits_iff {text : Text} : Digits text ↔ IsDigits text := by
  simp [Digits, IsDigits, CodePoint.isDigit]

theorem numberOf_eq (digits : Text) : numberOf digits = Decimal.read digits := by
  induction digits using List.reverseRecOn with
  | nil => rfl
  | append_singleton digits last ih =>
      rw [numberOf] at ih
      rw [numberOf, List.reverse_append, List.reverse_singleton,
        List.singleton_append, List.map_cons, Nat.ofDigits_cons, ih,
        Decimal.read, Decimal.read, List.map_append, List.map_singleton,
        Decimal.ofDigits_append_singleton, CodePoint.digitValue]
      ring

theorem sign_iff {text : Text} {negative : Bool} :
    Sign text negative ↔ signText negative = text := by
  constructor
  · rintro (_ | _) <;> rfl
  · rintro rfl
    cases negative with
    | false => exact .none
    | true => exact .minus

theorem whole_iff {text : Text} :
    Whole text ↔ IsDigits text ∧
      ∀ point ∈ text.head?, point.value = 0x30 → text.length = 1 := by
  rw [Whole, digits_iff]
  refine and_congr_right fun _ => ⟨?_, ?_⟩
  · intro leading point first zero
    have same : point = CodePoint.ofChar '0' := CodePoint.eq_of_value_eq zero
    exact leading (same ▸ first)
  · intro leading first
    exact leading _ first rfl

theorem fraction_iff {text digits : Text} :
    Fraction text digits ↔ ∃ fraction : Option Text,
      (∀ digits ∈ fraction, IsDigits digits) ∧ fractionText fraction = text ∧
        fraction.getD [] = digits := by
  constructor
  · rintro (_ | all)
    · exact ⟨none, by simp, rfl, rfl⟩
    · exact ⟨some _, by simpa using digits_iff.mp all, rfl, rfl⟩
  · rintro ⟨_ | digits, all, rfl, rfl⟩
    · exact .none
    · exact .digits (digits_iff.mpr (all digits rfl))

/-- The factor of a power of ten with this sign. -/
def signFactor (sign : Option CodePoint) : Int :=
  if sign = some '-' then -1 else 1

theorem value_eq_signFactor (exponent : ExponentSpelling) :
    exponent.value = signFactor exponent.sign * numberOf exponent.digits := by
  rw [ExponentSpelling.value, signFactor, numberOf_eq]
  split <;> simp

theorem exponentSign_iff {text : Text} {factor : Int} :
    (text, factor) ∈
        [(([] : Text), (1 : Int)), (mark '+', 1), (mark '-', -1)] ↔
      ∃ sign : Option CodePoint,
        (∀ point ∈ sign, point.value = 0x2B ∨ point.value = 0x2D) ∧
          sign.toList = text ∧ signFactor sign = factor := by
  simp only [List.mem_cons, Prod.mk.injEq, List.not_mem_nil, or_false]
  constructor
  · rintro (⟨rfl, rfl⟩ | ⟨rfl, rfl⟩ | ⟨rfl, rfl⟩)
    · exact ⟨none, nofun, rfl, rfl⟩
    · exact ⟨some '+', by rintro _ ⟨⟩; exact Or.inl rfl, rfl, by decide⟩
    · exact ⟨some '-', by rintro _ ⟨⟩; exact Or.inr rfl, rfl, by decide⟩
  · rintro ⟨_ | point, known, rfl, rfl⟩
    · exact Or.inl ⟨rfl, rfl⟩
    · rcases known point rfl with plus | minus
      · have same : point = '+' := CodePoint.eq_of_value_eq plus
        subst same
        exact Or.inr (Or.inl ⟨rfl, by decide⟩)
      · have same : point = '-' := CodePoint.eq_of_value_eq minus
        subst same
        exact Or.inr (Or.inr ⟨rfl, by decide⟩)

theorem exponentMark_iff {letter : CodePoint} :
    (letter = 'e' ∨ letter = 'E') ↔
      (letter.value = 0x65 ∨ letter.value = 0x45) := by
  constructor
  · rintro (rfl | rfl)
    · exact Or.inl rfl
    · exact Or.inr rfl
  · rintro (small | capital)
    · exact Or.inl (CodePoint.eq_of_value_eq small)
    · exact Or.inr (CodePoint.eq_of_value_eq capital)

theorem exponent_iff {text : Text} {power : Int} :
    Exponent text power ↔ ∃ exponent : Option ExponentSpelling,
      (∀ spelling ∈ exponent, spelling.WellFormed) ∧
        exponentText exponent = text ∧
        (exponent.map ExponentSpelling.value).getD 0 = power := by
  constructor
  · intro written
    cases written with
    | none => exact ⟨none, by simp, rfl, rfl⟩
    | @digits letter _ digits _ known signed all =>
        rcases exponentSign_iff.mp signed with ⟨sign, signs, rfl, rfl⟩
        refine ⟨some ⟨letter, sign, digits⟩, ?_, rfl, value_eq_signFactor _⟩
        rintro _ ⟨⟩
        exact ⟨exponentMark_iff.mp known, signs, digits_iff.mp all⟩
  · rintro ⟨_ | exponent, wellFormed, rfl, rfl⟩
    · exact .none
    · have formed := wellFormed exponent rfl
      rw [Option.map_some, Option.getD_some, value_eq_signFactor]
      exact .digits (exponentMark_iff.mpr formed.mark)
        (exponentSign_iff.mpr ⟨exponent.sign, formed.sign, rfl, rfl⟩)
        (digits_iff.mpr formed.digits)

theorem value_of_integer {number : NumberSpelling}
    (noFraction : number.fraction = none) (noExponent : number.exponent = none) :
    number.value = if digitLimit < number.whole.length then
      .error (.oversized number.whole.length)
    else .ok (.integer (if number.negative then -(numberOf number.whole : Int)
      else numberOf number.whole)) := by
  rw [NumberSpelling.value, noFraction, noExponent, numberOf_eq]

theorem value_of_float {number : NumberSpelling}
    (notInteger : fractionText number.fraction ++
      exponentText number.exponent ≠ []) :
    number.value = .ok (.float (Double.ofScaled number.negative
      (numberOf (number.whole ++ number.fraction.getD []))
      ((number.exponent.map ExponentSpelling.value).getD 0 -
        (number.fraction.getD []).length))) := by
  rw [NumberSpelling.value, numberOf_eq]
  rcases number with ⟨negative, whole, _ | fraction, _ | exponent⟩
  · exact absurd rfl notInteger
  · rfl
  · rfl
  · rfl

/-- A number as it is written is a numeral for its value. -/
theorem numeral_iff {text : Text} {value : Json} :
    Numeral text value ↔ ∃ number : NumberSpelling,
      number.WellFormed ∧ number.value = .ok value ∧ number.text = text := by
  constructor
  · intro numeral
    cases numeral with
    | @integer sign whole negative signed leading few =>
        rcases whole_iff.mp leading with ⟨all, noZero⟩
        refine ⟨⟨negative, whole, none, none⟩,
          ⟨all, noZero, by simp, by simp⟩, ?_, ?_⟩
        · have room : ¬digitLimit < whole.length := Nat.not_lt.mpr few
          rw [value_of_integer rfl rfl, if_neg room]
        · rw [NumberSpelling.text_eq, sign_iff.mp signed]
          simp [fractionText, exponentText]
    | @float sign whole _ _ _ negative _ double signed leading fractional
        scaled notInteger nearest =>
        rcases whole_iff.mp leading with ⟨all, noZero⟩
        rcases fraction_iff.mp fractional with ⟨fraction, allDigits, rfl, rfl⟩
        rcases exponent_iff.mp scaled with ⟨exponent, wellFormed, rfl, rfl⟩
        refine ⟨⟨negative, whole, fraction, exponent⟩,
          ⟨all, noZero, allDigits, wellFormed⟩, ?_, ?_⟩
        · rw [value_of_float notInteger,
            (Double.ofScaled_rounds _ _ _).unique nearest]
        · rw [NumberSpelling.text_eq, sign_iff.mp signed]
  · rintro ⟨number, wellFormed, valued, rfl⟩
    have leading := whole_iff.mpr ⟨wellFormed.whole, wellFormed.leading⟩
    have signed := sign_iff.mpr (rfl : signText number.negative = _)
    rw [NumberSpelling.text_eq]
    by_cases whole :
      fractionText number.fraction ++ exponentText number.exponent = []
    · have noFraction : number.fraction = none := by
        cases fraction : number.fraction with
        | none => rfl
        | some digits => simp [fraction, fractionText] at whole
      have noExponent : number.exponent = none := by
        cases exponent : number.exponent with
        | none => rfl
        | some spelling =>
            simp [exponent, exponentText, ExponentSpelling.text] at whole
      rw [value_of_integer noFraction noExponent] at valued
      by_cases many : digitLimit < number.whole.length
      · rw [if_pos many] at valued
        cases valued
      · rw [if_neg many] at valued
        cases valued
        rw [whole, List.append_nil]
        exact .integer signed leading (Nat.not_lt.mp many)
    · rw [value_of_float whole] at valued
      cases valued
      exact .float signed leading
        (fraction_iff.mpr ⟨_, wellFormed.fraction, rfl, rfl⟩)
        (exponent_iff.mpr ⟨_, wellFormed.exponent, rfl, rfl⟩) whole
        (Double.ofScaled_rounds _ _ _)

end ResponseService.Json.Dialect
