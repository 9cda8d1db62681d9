import Mathlib.Data.List.TakeDrop
import Mathlib.Data.List.TakeWhile
import Mathlib.Tactic.SplitIfs
import ResponseService.Proofs.Json.Grammar
import ResponseService.Proofs.Text.Surrogates

/-!
# Numbers at the front of a text

A number that is read from the front of a text is well formed, and its text is
what was taken (`wellFormed_of_numberOf?`).  Conversely a well-formed number is
read as itself wherever a blank, a punctuation mark or the end follows it
(`numberOf?_append`).
-/

namespace ResponseService.Json

/-! ## Where a scalar may end -/

/-- A blank, a punctuation mark or nothing at all comes next. -/
def EndsScalar (after : Text) : Prop :=
  ∀ point ∈ after.head?, isBlank point = true ∨ ∃ mark, punctuation? point = some mark

/-- No digit comes next. -/
def StopsDigits (after : Text) : Prop :=
  ∀ point ∈ after.head?, point.isDigit = false

/-- Neither a digit nor the beginning of a further part of a number. -/
def endsNumber (point : CodePoint) : Prop :=
  point.isDigit = false ∧ point.value ≠ 0x2E ∧ point.value ≠ 0x65 ∧
    point.value ≠ 0x45

theorem punctuation?_value {point : CodePoint} {mark : Token}
    (known : punctuation? point = some mark) :
    point.value ∈ [0x7B, 0x7D, 0x5B, 0x5D, 0x3A, 0x2C] := by
  simp only [punctuation?] at known
  split_ifs at known <;> simp [*]

theorem isBlank_value {point : CodePoint} (blank : isBlank point = true) :
    point.value ∈ [0x20, 0x09, 0x0A, 0x0D] := by
  simpa [isBlank, or_assoc] using blank

theorem EndsScalar.endsNumber {after : Text} (ends : EndsScalar after) :
    ∀ point ∈ after.head?, Json.endsNumber point := by
  intro point member
  have range : point.value ∈
      [0x20, 0x09, 0x0A, 0x0D, 0x7B, 0x7D, 0x5B, 0x5D, 0x3A, 0x2C] := by
    rcases ends point member with blank | ⟨mark, known⟩
    · have value := isBlank_value blank
      simp only [List.mem_cons, List.not_mem_nil, or_false] at value ⊢
      omega
    · have value := punctuation?_value known
      simp only [List.mem_cons, List.not_mem_nil, or_false] at value ⊢
      omega
  simp only [List.mem_cons, List.not_mem_nil, or_false] at range
  simp only [Json.endsNumber, CodePoint.isDigit, Bool.and_eq_false_iff,
    decide_eq_false_iff_not]
  omega

/-! ## Digits -/

theorem digitsOf?_append {digits after : Text} (all : IsDigits digits)
    (stops : StopsDigits after) :
    digitsOf? (digits ++ after) = some (digits, after) := by
  have taken : (digits ++ after).takeWhile CodePoint.isDigit = digits := by
    rw [List.takeWhile_append_of_pos all.2]
    cases after with
    | nil => simp
    | cons point rest => simp [stops point rfl]
  have left : (digits ++ after).dropWhile CodePoint.isDigit = after := by
    rw [List.dropWhile_append_of_pos all.2]
    cases after with
    | nil => rfl
    | cons point rest => simp [stops point rfl]
  rw [digitsOf?, List.span_eq_takeWhile_dropWhile, taken, left]
  cases digits with
  | nil => exact absurd rfl all.1
  | cons point rest => rfl

theorem isDigits_of_digitsOf? {text digits after : Text}
    (taken : digitsOf? text = some (digits, after)) :
    IsDigits digits ∧ text = digits ++ after := by
  rw [digitsOf?, List.span_eq_takeWhile_dropWhile] at taken
  have whole := List.takeWhile_append_dropWhile (p := CodePoint.isDigit) (l := text)
  cases front : text.takeWhile CodePoint.isDigit with
  | nil => simp [front] at taken
  | cons point rest =>
      simp only [front, Option.some.injEq, Prod.mk.injEq] at taken
      rcases taken with ⟨rfl, rfl⟩
      refine ⟨⟨by simp, ?_⟩, ?_⟩
      · intro digit member
        rw [← front] at member
        exact List.mem_takeWhile_imp member
      · rw [← front]
        exact whole.symm

/-! ## The parts of a number -/

/-- The text of a fraction, if there is one. -/
def fractionText : Option Text → Text
  | none => []
  | some digits => '.' :: digits

/-- The text of an exponent, if there is one. -/
def exponentText : Option ExponentSpelling → Text
  | none => []
  | some exponent => exponent.text

/-- The text of a sign, if there is one. -/
def signText (negative : Bool) : Text := if negative then "-" else []

theorem NumberSpelling.text_eq (number : NumberSpelling) :
    number.text =
      signText number.negative ++
        (number.whole ++
          (fractionText number.fraction ++ exponentText number.exponent)) := by
  rcases number with ⟨negative, whole, fraction, exponent⟩
  cases fraction <;> cases exponent <;>
    simp [NumberSpelling.text, signText, fractionText, exponentText]

theorem wholeOf?_append {whole after : Text} (all : IsDigits whole)
    (leading : ∀ point ∈ whole.head?, point.value = 0x30 → whole.length = 1)
    (stops : StopsDigits after) :
    wholeOf? (whole ++ after) = some (whole, after) := by
  cases whole with
  | nil => exact absurd rfl all.1
  | cons point rest =>
      by_cases zero : point.value = 0x30
      · have single := leading point rfl zero
        simp only [List.length_cons, Nat.add_eq_right,
          List.length_eq_zero_iff] at single
        subst single
        simp [wholeOf?, zero]
      · simpa [wholeOf?, zero] using digitsOf?_append all stops

theorem isDigits_of_wholeOf? {text whole after : Text}
    (taken : wholeOf? text = some (whole, after)) :
    IsDigits whole ∧
      (∀ point ∈ whole.head?, point.value = 0x30 → whole.length = 1) ∧
      text = whole ++ after := by
  cases text with
  | nil => cases taken
  | cons point rest =>
      by_cases zero : point.value = 0x30
      · simp only [wholeOf?, zero, if_true, Option.some.injEq,
          Prod.mk.injEq] at taken
        rcases taken with ⟨rfl, rfl⟩
        refine ⟨⟨by simp, ?_⟩, by simp, rfl⟩
        simp [CodePoint.isDigit, zero]
      · simp only [wholeOf?, zero, if_false] at taken
        rcases isDigits_of_digitsOf? taken with ⟨all, split⟩
        refine ⟨all, ?_, split⟩
        intro first member value
        cases whole with
        | nil => cases member
        | cons digit others =>
            simp only [List.head?_cons, Option.mem_some_iff] at member
            subst member
            rw [List.cons_append, List.cons.injEq] at split
            exact absurd (split.1 ▸ value) zero

theorem fractionOf_append {fraction : Option Text} {after : Text}
    (all : ∀ digits ∈ fraction, IsDigits digits)
    (stops : StopsDigits after)
    (noPoint : ∀ point ∈ after.head?, point.value ≠ 0x2E) :
    fractionOf (fractionText fraction ++ after) = (fraction, after) := by
  cases fraction with
  | none =>
      cases after with
      | nil => rfl
      | cons point rest =>
          simp [fractionText, fractionOf, noPoint point rfl]
  | some digits =>
      have mark : (CodePoint.ofChar '.').value = 0x2E := rfl
      simp [fractionText, fractionOf, mark,
        digitsOf?_append (all digits rfl) stops]

theorem isDigits_of_fractionOf {text after : Text} {fraction : Option Text}
    (taken : fractionOf text = (fraction, after)) :
    (∀ digits ∈ fraction, IsDigits digits) ∧
      text = fractionText fraction ++ after := by
  cases text with
  | nil =>
      cases taken
      exact ⟨by simp, rfl⟩
  | cons point rest =>
      by_cases mark : point.value = 0x2E
      · have same : point = CodePoint.ofChar '.' :=
          CodePoint.eq_of_value_eq mark
        cases found : digitsOf? rest with
        | none =>
            simp only [fractionOf, mark, if_true, found] at taken
            cases taken
            exact ⟨by simp, rfl⟩
        | some split =>
            rcases split with ⟨digits, behind⟩
            simp only [fractionOf, mark, if_true, found] at taken
            cases taken
            rcases isDigits_of_digitsOf? found with ⟨all, parts⟩
            refine ⟨by simpa using all, ?_⟩
            rw [same, parts]
            rfl
      · simp only [fractionOf, mark, if_false] at taken
        cases taken
        exact ⟨by simp, rfl⟩

theorem signOf_append {sign : Option CodePoint} {after : Text}
    (known : ∀ point ∈ sign, point.value = 0x2B ∨ point.value = 0x2D)
    (unsigned : ∀ point ∈ after.head?,
      ¬ (point.value = 0x2B ∨ point.value = 0x2D)) :
    signOf (sign.toList ++ after) = (sign, after) := by
  cases sign with
  | none =>
      cases after with
      | nil => rfl
      | cons point rest =>
          have other := unsigned point rfl
          simp only [Option.toList_none, List.nil_append, signOf, if_neg other]
  | some point =>
      have mark := known point rfl
      simp only [Option.toList_some, List.singleton_append, signOf,
        if_pos mark]

theorem sign_of_signOf {text after : Text} {sign : Option CodePoint}
    (taken : signOf text = (sign, after)) :
    (∀ point ∈ sign, point.value = 0x2B ∨ point.value = 0x2D) ∧
      text = sign.toList ++ after := by
  cases text with
  | nil =>
      cases taken
      exact ⟨by simp, rfl⟩
  | cons point rest =>
      by_cases mark : point.value = 0x2B ∨ point.value = 0x2D
      · simp only [signOf, if_pos mark] at taken
        cases taken
        exact ⟨by simpa using mark, rfl⟩
      · simp only [signOf, if_neg mark] at taken
        cases taken
        exact ⟨by simp, rfl⟩

theorem IsDigits.unsigned {digits after : Text} (all : IsDigits digits) :
    ∀ point ∈ (digits ++ after).head?,
      ¬ (point.value = 0x2B ∨ point.value = 0x2D) := by
  cases digits with
  | nil => exact absurd rfl all.1
  | cons digit rest =>
      intro point member
      simp only [List.cons_append, List.head?_cons, Option.mem_some_iff]
        at member
      subst member
      have value := all.2 digit (by simp)
      simp only [CodePoint.isDigit, Bool.and_eq_true, decide_eq_true_eq]
        at value
      omega

theorem exponentOf_append {exponent : Option ExponentSpelling} {after : Text}
    (wellFormed : ∀ spelling ∈ exponent, spelling.WellFormed)
    (stops : StopsDigits after)
    (noMark : ∀ point ∈ after.head?,
      ¬ (point.value = 0x65 ∨ point.value = 0x45)) :
    exponentOf (exponentText exponent ++ after) = (exponent, after) := by
  cases exponent with
  | none =>
      cases after with
      | nil => rfl
      | cons point rest =>
          have other := noMark point rfl
          simp only [exponentText, List.nil_append, exponentOf, if_neg other]
  | some spelling =>
      have formed := wellFormed spelling rfl
      have unsigned : signOf (spelling.sign.toList ++ (spelling.digits ++ after)) =
          (spelling.sign, spelling.digits ++ after) :=
        signOf_append formed.sign formed.digits.unsigned
      simp only [exponentText, ExponentSpelling.text, List.cons_append,
        List.append_assoc, exponentOf, if_pos formed.mark, unsigned,
        digitsOf?_append formed.digits stops]

theorem wellFormed_of_exponentOf {text after : Text}
    {exponent : Option ExponentSpelling}
    (taken : exponentOf text = (exponent, after)) :
    (∀ spelling ∈ exponent, spelling.WellFormed) ∧
      text = exponentText exponent ++ after := by
  cases text with
  | nil =>
      cases taken
      exact ⟨by simp, rfl⟩
  | cons point rest =>
      by_cases mark : point.value = 0x65 ∨ point.value = 0x45
      · have halves : signOf rest = ((signOf rest).1, (signOf rest).2) := rfl
        rcases sign_of_signOf halves with ⟨signed, signs⟩
        cases found : digitsOf? (signOf rest).2 with
        | none =>
            simp only [exponentOf, if_pos mark, found] at taken
            cases taken
            exact ⟨by simp, rfl⟩
        | some split =>
            rcases split with ⟨digits, behind⟩
            simp only [exponentOf, if_pos mark, found] at taken
            cases taken
            rcases isDigits_of_digitsOf? found with ⟨all, parts⟩
            refine ⟨?_, ?_⟩
            · intro spelling member
              cases member
              exact ⟨mark, signed, all⟩
            · rw [parts] at signs
              conv => lhs; rw [signs]
              simp [exponentText, ExponentSpelling.text]
      · simp only [exponentOf, if_neg mark] at taken
        cases taken
        exact ⟨by simp, rfl⟩

/-! ## Whole numbers -/

theorem IsDigits.head {digits : Text} (all : IsDigits digits) :
    ∃ digit rest, digits = digit :: rest ∧ digit.isDigit = true := by
  cases digits with
  | nil => exact absurd rfl all.1
  | cons digit rest => exact ⟨digit, rest, rfl, all.2 digit (by simp)⟩

/-- An exponent, or else what follows the number, continues neither the whole
part nor the fraction. -/
theorem exponentText_continues {exponent : Option ExponentSpelling}
    (wellFormed : ∀ spelling ∈ exponent, spelling.WellFormed) {after : Text}
    (ends : ∀ point ∈ after.head?, endsNumber point) :
    ∀ point ∈ (exponentText exponent ++ after).head?,
      point.isDigit = false ∧ point.value ≠ 0x2E := by
  intro point member
  cases exponent with
  | none => exact ⟨(ends point member).1, (ends point member).2.1⟩
  | some spelling =>
      have mark := (wellFormed spelling rfl).mark
      simp only [exponentText, ExponentSpelling.text, List.cons_append,
        List.head?_cons, Option.mem_some_iff] at member
      subst member
      simp only [CodePoint.isDigit, Bool.and_eq_false_iff,
        decide_eq_false_iff_not]
      omega

theorem NumberSpelling.WellFormed.stopsDigits {number : NumberSpelling}
    (wellFormed : number.WellFormed) {after : Text}
    (ends : ∀ point ∈ after.head?, endsNumber point) :
    StopsDigits
      (fractionText number.fraction ++
        (exponentText number.exponent ++ after)) := by
  intro point member
  cases fraction : number.fraction with
  | some digits =>
      simp only [fraction, fractionText, List.cons_append, List.head?_cons,
        Option.mem_some_iff] at member
      subst member
      rfl
  | none =>
      simp only [fraction, fractionText, List.nil_append] at member
      exact (exponentText_continues wellFormed.exponent ends point member).1

/-- A number that has ended is read as itself. -/
theorem numberOf?_append {number : NumberSpelling}
    (wellFormed : number.WellFormed) {after : Text}
    (ends : ∀ point ∈ after.head?, endsNumber point) :
    numberOf? (number.text ++ after) = some (number, after) := by
  have exponent :
      exponentOf (exponentText number.exponent ++ after) =
        (number.exponent, after) := by
    apply exponentOf_append wellFormed.exponent
    · exact fun point member => (ends point member).1
    · intro point member
      have value := (ends point member).2.2
      omega
  have fraction :
      fractionOf (fractionText number.fraction ++
          (exponentText number.exponent ++ after)) =
        (number.fraction, exponentText number.exponent ++ after) := by
    have continues := exponentText_continues wellFormed.exponent ends
    exact fractionOf_append wellFormed.fraction
      (fun point member => (continues point member).1)
      (fun point member => (continues point member).2)
  have whole :
      wholeOf? (number.whole ++ (fractionText number.fraction ++
          (exponentText number.exponent ++ after))) =
        some (number.whole, fractionText number.fraction ++
          (exponentText number.exponent ++ after)) :=
    wholeOf?_append wellFormed.whole wellFormed.leading
      (wellFormed.stopsDigits ends)
  rcases wellFormed.whole.head with ⟨digit, others, split, isDigit⟩
  have noMinus : digit.value ≠ 0x2D := by
    simp only [CodePoint.isDigit, Bool.and_eq_true, decide_eq_true_eq]
      at isDigit
    omega
  rw [number.text_eq]
  simp only [List.append_assoc]
  cases negative : number.negative with
  | true =>
      have minus : (CodePoint.ofChar '-').value = 0x2D := rfl
      have front : signText true = [CodePoint.ofChar '-'] := rfl
      simp only [numberOf?, front, List.singleton_append, minus, if_true, whole,
        fraction, exponent, Option.bind_eq_bind, Option.bind_some]
      rw [← negative]
      rfl
  | false =>
      have front : signText false = [] := rfl
      simp only [front, List.nil_append]
      rw [split] at whole ⊢
      simp only [List.cons_append] at whole ⊢
      simp only [numberOf?, noMinus, if_false, whole, fraction, exponent,
        Option.bind_eq_bind, Option.bind_some]
      rw [← negative, ← split]
      rfl

theorem wellFormed_of_parts (negative : Bool) {unsigned after : Text}
    {number : NumberSpelling}
    (taken : (do
      let (whole, rest) ← wholeOf? unsigned
      let (fraction, rest) := fractionOf rest
      let (exponent, rest) := exponentOf rest
      return (NumberSpelling.mk negative whole fraction exponent, rest)) =
        some (number, after)) :
    number.WellFormed ∧ signText negative ++ unsigned = number.text ++ after := by
  cases found : wholeOf? unsigned with
  | none => simp [found] at taken
  | some split =>
      rcases split with ⟨whole, rest⟩
      have fractionHalves :
          fractionOf rest = ((fractionOf rest).1, (fractionOf rest).2) := rfl
      have exponentHalves :
          exponentOf (fractionOf rest).2 =
            ((exponentOf (fractionOf rest).2).1,
              (exponentOf (fractionOf rest).2).2) := rfl
      rcases isDigits_of_wholeOf? found with ⟨wholeAll, leading, wholeSplit⟩
      rcases isDigits_of_fractionOf fractionHalves with
        ⟨fractionAll, fractionSplit⟩
      rcases wellFormed_of_exponentOf exponentHalves with
        ⟨exponentFormed, exponentSplit⟩
      simp only [found, Option.bind_eq_bind, Option.bind_some, Option.pure_def,
        Option.some.injEq, Prod.mk.injEq] at taken
      rcases taken with ⟨rfl, rfl⟩
      refine ⟨⟨wholeAll, leading, fractionAll, exponentFormed⟩, ?_⟩
      rw [NumberSpelling.text_eq]
      simp only [List.append_assoc]
      rw [← exponentSplit, ← fractionSplit, ← wholeSplit]

/-- What is read as a number is the text of a well-formed number. -/
theorem wellFormed_of_numberOf? {text after : Text} {number : NumberSpelling}
    (taken : numberOf? text = some (number, after)) :
    number.WellFormed ∧ text = number.text ++ after := by
  cases text with
  | nil => exact wellFormed_of_parts false taken
  | cons point rest =>
      by_cases minus : point.value = 0x2D
      · have same : point = CodePoint.ofChar '-' :=
          CodePoint.eq_of_value_eq minus
        simp only [numberOf?, if_pos minus] at taken
        rw [same]
        exact wellFormed_of_parts true taken
      · simp only [numberOf?, if_neg minus] at taken
        exact wellFormed_of_parts false taken

end ResponseService.Json
