import ResponseService.Number.Double

/-!
# Shortest numerals

A finite double is written with the fewest decimal digits that read back as
the same double, and of those numerals with the one nearest to it.  The search
runs over the grids of one, two, ... seventeen significant digits; on each
grid only the two neighbours of the value can lie among the numbers that read
back, and seventeen digits always suffice.
-/

namespace ResponseService.Double

/-- The order of `count * 10 ^ power` and `number * 2 ^ exponent`. -/
def compareScaled
    (count : Nat) (power : Int) (number : Nat) (exponent : Int) : Ordering :=
  compare (count * tenTo power.toNat * twoTo (-exponent).toNat)
    (number * twoTo exponent.toNat * tenTo (-power).toNat)

/-- The numbers that read back as a double, in quarters of its last place. -/
structure Interval where
  /-- The lower end. -/
  low : Nat
  /-- The double itself. -/
  centre : Nat
  /-- The upper end. -/
  high : Nat
  /-- The ends belong to it. -/
  closed : Bool
  /-- The exponent of a quarter of the last place. -/
  exponent : Int

/-- Below a power of two the next double is only half as far away. -/
def interval (significand : Nat) (exponent : Int) : Interval where
  low :=
    if significand = twoTo 52 ∧ leastExponent < exponent then
      4 * significand - 1
    else 4 * significand - 2
  centre := 4 * significand
  high := 4 * significand + 2
  closed := significand % 2 = 0
  exponent := exponent - 2

/-- The number `count * 10 ^ power` reads back. -/
def Interval.holds (range : Interval) (count : Nat) (power : Int) : Bool :=
  match compareScaled count power range.low range.exponent,
      compareScaled count power range.high range.exponent with
  | .gt, .lt => true
  | .eq, _ | _, .eq => range.closed
  | _, _ => false

/-- The place of the decimal point before the first digit of a number. -/
def pointPlace (number : Nat) (exponent : Int) : Int :=
  let scaled := number * twoTo exponent.toNat * tenTo 350 / twoTo (-exponent).toNat
  (Decimal.digitCount scaled : Int) - 350

/-- The point of the grid of `places` digits that reads back, if there is one. -/
def Interval.onGrid? (range : Interval) (point : Int) (places : Nat) :
    Option (Nat × Int) :=
  let power := point - places
  let below :=
    range.centre * twoTo range.exponent.toNat * tenTo (-power).toNat /
      (twoTo (-range.exponent).toNat * tenTo power.toNat)
  let upper :=
    match compareScaled (2 * below + 1) power (2 * range.centre)
        range.exponent with
    | .lt => true
    | .eq => below % 2 = 1
    | .gt => false
  match range.holds below power, range.holds (below + 1) power with
  | true, true => some (if upper then below + 1 else below, power)
  | true, false => some (below, power)
  | false, true => some (below + 1, power)
  | false, false => none

/-- The digits and the power of ten of the shortest numeral that reads back. -/
def shortest (significand : Nat) (exponent : Int) : Nat × Int :=
  let range := interval significand exponent
  let point := pointPlace significand exponent
  ((List.range 17).findSome? fun places => range.onGrid? point (places + 1)).getD
    (significand, exponent)

/-- Move zeros at the end of a numeral into its power of ten. -/
def trimZeros (fuel : Nat) (count : Nat) (power : Int) : Nat × Int :=
  match fuel with
  | 0 => (count, power)
  | fuel + 1 =>
      if count ≠ 0 ∧ count % 10 = 0 then
        trimZeros fuel (count / 10) (power + 1)
      else (count, power)

/-- At least two digits of an exponent, behind its sign. -/
def exponentText (exponent : Int) : Text :=
  let digits := Decimal.ofNat exponent.natAbs
  (if exponent < 0 then '-' else '+') ::
    (if digits.length < 2 then '0' :: digits else digits)

/-- A run of zeros. -/
def zeros (count : Nat) : Text := List.replicate count '0'

/-- Digits with a decimal point: positional from 10^-4 up to below 10^16, and
with at least one digit on each side of the point; otherwise with an exponent. -/
def numeral (digits : Text) (point : Int) : Text :=
  if -4 < point ∧ point ≤ 16 then
    if point ≤ 0 then
      "0." ++ zeros (-point).toNat ++ digits
    else
      let whole := digits.take point.toNat
      let fraction := digits.drop point.toNat
      whole ++ zeros (point.toNat - digits.length) ++ "." ++
        (if fraction.isEmpty then zeros 1 else fraction)
  else
    match digits with
    | [] => []
    | [digit] => digit :: 'e' :: exponentText (point - 1)
    | digit :: rest =>
        digit :: "." ++ rest ++ "e" ++ exponentText (point - 1)

/-- The shortest text of a finite double without its sign. -/
def magnitudeText (significand : Nat) (exponent : Int) : Text :=
  if significand = 0 then Text.ofString "0.0"
  else
    let (count, power) := shortest significand exponent
    let (count, power) := trimZeros 20 count power
    let digits := Decimal.ofNat count
    numeral digits (power + digits.length)

/-- The shortest text of a finite double. -/
def finiteText (negative : Bool) (significand : Nat) (exponent : Int) : Text :=
  if negative then '-' :: magnitudeText significand exponent
  else magnitudeText significand exponent

end ResponseService.Double
