import ResponseService.Number.Decimal

/-!
# Double-precision numbers

A double is a sign, a significand below 2^53 and a power of two, or an
infinity, or no number at all.  `ofScaled` reads a decimal numeral as the
nearest double, the even one of two equally near; what is too large gives an
infinity.  `bits` is the double's interchange encoding.
-/

namespace ResponseService

/-- A binary floating-point number of 53 significant bits. -/
inductive Double where
  /-- The result of an undefined operation. -/
  | notANumber
  /-- Beyond every finite double. -/
  | infinite (negative : Bool)
  /-- The number `significand * 2 ^ exponent`, negated if `negative`. -/
  | finite (negative : Bool) (significand : Nat) (exponent : Int)
  deriving DecidableEq, Repr

namespace Double

/-- The exponent of the least positive double. -/
def leastExponent : Int := -1074

/-- The exponent of the greatest finite doubles. -/
def greatestExponent : Int := 971

/-- A power of two. -/
def twoTo (power : Nat) : Nat := Nat.pow 2 power

/-- A power of ten. -/
def tenTo (power : Nat) : Nat := Nat.pow 10 power

/-- The natural number nearest to a quotient, the even one of two. -/
def roundHalfEven (numerator denominator : Nat) : Nat :=
  let quotient := numerator / denominator
  let twice := 2 * (numerator % denominator)
  if twice < denominator then quotient
  else if denominator < twice then quotient + 1
  else quotient + quotient % 2

/-- A quotient divided by a power of two, as a numerator and a denominator. -/
def shifted (numerator denominator : Nat) (exponent : Int) : Nat × Nat :=
  (numerator * twoTo (-exponent).toNat, denominator * twoTo exponent.toNat)

/-- The exponent at which a positive quotient has 53 bits before the point. -/
def unitExponent (numerator denominator : Nat) : Int :=
  let guess : Int := (numerator.log2 : Int) - (denominator.log2 : Int) - 52
  let (top, bottom) := shifted numerator denominator guess
  if top / bottom < twoTo 52 then guess - 1 else guess

/-- The double nearest to a quotient. -/
def ofQuotient (negative : Bool) (numerator denominator : Nat) : Double :=
  if numerator = 0 then .finite negative 0 leastExponent
  else
    let exponent := max (unitExponent numerator denominator) leastExponent
    let (top, bottom) := shifted numerator denominator exponent
    let significand := roundHalfEven top bottom
    let (significand, exponent) :=
      if significand = twoTo 53 then (twoTo 52, exponent + 1)
      else (significand, exponent)
    if greatestExponent < exponent then .infinite negative
    else .finite negative significand exponent

/-- The double nearest to `number * 10 ^ power`.  Numbers of more than 310
digits before the point are infinite, numbers that begin more than 330 places
behind it are zero, and no power is computed for either. -/
def ofScaled (negative : Bool) (number : Nat) (power : Int) : Double :=
  let magnitude := (Decimal.digitCount number : Int) + power
  if number = 0 ∨ magnitude < -330 then .finite negative 0 leastExponent
  else if 310 < magnitude then .infinite negative
  else ofQuotient negative (number * tenTo power.toNat) (tenTo (-power).toNat)

/-- The sign bit, eleven bits of exponent and 52 of significand. -/
def bits : Double → Nat
  | .notANumber => 0x7FF8000000000000
  | .infinite negative => (if negative then twoTo 63 else 0) + 0x7FF * twoTo 52
  | .finite negative significand exponent =>
      (if negative then twoTo 63 else 0) +
        (if significand < twoTo 52 then significand
         else (exponent - leastExponent).toNat * twoTo 52 + significand)

/-- The double of an interchange encoding. -/
def ofBits (encoding : Nat) : Double :=
  let negative := decide (encoding / twoTo 63 % 2 = 1)
  let field : Nat := encoding / twoTo 52 % 0x800
  let fraction : Nat := encoding % twoTo 52
  if field = 0x7FF then
    if fraction = 0 then .infinite negative else .notANumber
  else if field = 0 then .finite negative fraction leastExponent
  else .finite negative (twoTo 52 + fraction) (leastExponent + (field - 1 : Nat))

/-- The integer that a double equals, if there is one. -/
def toInt? : Double → Option Int
  | .finite negative significand exponent =>
      let magnitude? : Option Nat :=
        if 0 ≤ exponent then some (significand * twoTo exponent.toNat)
        else if significand % twoTo (-exponent).toNat = 0 then
          some (significand / twoTo (-exponent).toNat)
        else none
      magnitude?.map fun magnitude =>
        if negative then -(magnitude : Int) else magnitude
  | _ => none

/-- The double is at least a natural number. -/
def reaches (number : Nat) : Double → Bool
  | .notANumber => false
  | .infinite negative => !negative
  | .finite true significand _ => decide (significand = 0) && decide (number = 0)
  | .finite false significand exponent =>
      decide (number * twoTo (-exponent).toNat ≤
        significand * twoTo exponent.toNat)

/-- The least natural number that is too great to be nearest to a finite
double. -/
def beyondFinite : Nat := twoTo 1024 - twoTo 970

end Double

end ResponseService
