import ResponseService.Text.Basic

/-!
# Decimal numerals

Natural numbers and integers are written without leading zeros and read back
digit by digit; `ofDigits_digits` says that reading undoes writing.
-/

namespace ResponseService.Decimal

/-- The digits of a number, most significant first. -/
def digits (number : Nat) : List Nat :=
  if number < 10 then [number] else digits (number / 10) ++ [number % 10]

/-- The number that a sequence of digits stands for. -/
def ofDigits (sequence : List Nat) : Nat :=
  sequence.foldl (fun number digit => number * 10 + digit) 0

theorem ofDigits_append_singleton (sequence : List Nat) (digit : Nat) :
    ofDigits (sequence ++ [digit]) = ofDigits sequence * 10 + digit := by
  simp [ofDigits]

/-- Reading the digits of a number gives the number. -/
theorem ofDigits_digits (number : Nat) : ofDigits (digits number) = number := by
  fun_induction digits number with
  | case1 number below => simp [ofDigits]
  | case2 number above ih => rw [ofDigits_append_singleton, ih]; omega

/-- Every digit is below ten. -/
theorem digits_lt (number : Nat) : ∀ digit ∈ digits number, digit < 10 := by
  fun_induction digits number with
  | case1 number below => simpa using below
  | case2 number above ih =>
      intro digit member
      rcases List.mem_append.mp member with earlier | last
      · exact ih digit earlier
      · simp only [List.mem_singleton] at last
        omega

/-- The code point of one decimal digit. -/
def digitPoint (digit : Nat) : CodePoint := CodePoint.ofNat (0x30 + digit)

/-- The text of a natural number. -/
def ofNat (number : Nat) : Text := (digits number).map digitPoint

/-- The text of an integer, with a minus sign before a negative one. -/
def ofInt : Int → Text
  | .ofNat number => ofNat number
  | .negSucc number => '-' :: ofNat (number + 1)

/-- The number that a text of decimal digits stands for. -/
def read (text : Text) : Nat := ofDigits (text.map CodePoint.digitValue)

theorem digitValue_digitPoint {digit : Nat} (below : digit < 10) :
    (digitPoint digit).digitValue = digit := by
  simp only [digitPoint, CodePoint.digitValue]
  rw [CodePoint.value_ofNat (by omega)]
  omega

/-- Reading the text of a number gives the number. -/
theorem read_ofNat (number : Nat) : read (ofNat number) = number := by
  have same : (digits number).map (CodePoint.digitValue ∘ digitPoint) =
      digits number := by
    conv => rhs; rw [← List.map_id (digits number)]
    exact List.map_congr_left fun digit member =>
      digitValue_digitPoint (digits_lt number digit member)
  rw [read, ofNat, List.map_map, same, ofDigits_digits]

/-- How many digits a number is written with. -/
def digitCount (number : Nat) : Nat := (digits number).length

end ResponseService.Decimal
