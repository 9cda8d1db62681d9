import ResponseService.Number.Shortest

/-!
# Numerals with a given number of places

A finite double is rounded to so many places behind the point (`fixedText`),
to so many behind the first digit (`scientificText`), or to so many digits in
whichever of the two ways is shorter (`generalText`).  Rounding is exact, and
of two numerals equally near the one with the even last digit is taken.
-/

namespace ResponseService.Double

/-- A positive number divided by a power of ten, rounded to an integer. -/
def roundedAt (significand : Nat) (exponent power : Int) : Nat :=
  roundHalfEven
    (significand * twoTo exponent.toNat * tenTo (-power).toNat)
    (twoTo (-exponent).toNat * tenTo power.toNat)

/-- Digits with zeros before them up to a width. -/
def zeroPadded (width : Nat) (digits : Text) : Text :=
  zeros (width - digits.length) ++ digits

/-- Digits with a point before the last `places` of them; without places the
point is written only if `pointed`. -/
def pointBefore (pointed : Bool) (places : Nat) (digits : Text) : Text :=
  let whole := digits.take (digits.length - places)
  let fraction := digits.drop (digits.length - places)
  if places = 0 then (if pointed then whole ++ "." else whole)
  else whole ++ "." ++ fraction

/-- So many places behind the point. -/
def fixedText
    (pointed : Bool) (places significand : Nat) (exponent : Int) : Text :=
  pointBefore pointed places
    (zeroPadded (places + 1)
      (Decimal.ofNat (roundedAt significand exponent (-(places : Int)))))

/-- The first `places + 1` digits of a number, and the place of the first one. -/
def leading (places significand : Nat) (exponent : Int) : Nat × Int :=
  if significand = 0 then (0, 0)
  else
    let first := pointPlace significand exponent - 1
    let count := roundedAt significand exponent (first - places)
    if count < tenTo (places + 1) then (count, first)
    else (count / 10, first + 1)

/-- So many places behind the first digit, and an exponent. -/
def scientificText
    (pointed : Bool) (places significand : Nat) (exponent : Int) : Text :=
  let (count, first) := leading places significand exponent
  pointBefore pointed places (zeroPadded (places + 1) (Decimal.ofNat count)) ++
    "e" ++ exponentText first

/-- A numeral without zeros at the end of its fraction. -/
def withoutTail (numeral : Text) : Text :=
  if numeral.any (·.value = 0x2E) then
    ((numeral.reverse.dropWhile (·.value = 0x30)).dropWhile
      (·.value = 0x2E)).reverse
  else numeral

/-- So many digits, with an exponent only where the number is very small or
has more digits before its point. -/
def generalText (pointed : Bool) (count significand : Nat) (exponent : Int) :
    Text :=
  let places := count - 1
  let (digits, first) := leading places significand exponent
  let tidy := if pointed then id else withoutTail
  if -4 ≤ first ∧ first < (places + 1 : Nat) then
    tidy (fixedText pointed (places - first).toNat significand exponent)
  else
    tidy (pointBefore pointed places
      (zeroPadded (places + 1) (Decimal.ofNat digits))) ++
      "e" ++ exponentText first

/-- The integer part of a double. -/
def truncated (negative : Bool) (significand : Nat) (exponent : Int) : Int :=
  let magnitude :=
    significand * twoTo exponent.toNat / twoTo (-exponent).toNat
  if negative then -(magnitude : Int) else magnitude

end ResponseService.Double
