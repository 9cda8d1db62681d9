import Mathlib.Algebra.Order.Field.Power
import Mathlib.Data.Nat.Log
import Mathlib.Data.Rat.Cast.Order
import Mathlib.Tactic.FieldSimp
import Mathlib.Tactic.Linarith
import Mathlib.Tactic.NormNum
import Mathlib.Tactic.Positivity
import Mathlib.Tactic.Push
import Mathlib.Tactic.Ring
import ResponseService.Number.Double
import ResponseService.Proofs.Number.Decimal

/-!
# Rounding to the nearest double

A finite double has one canonical form (`IsCanonical`).  `RoundsTo` says what
it is to round a number, without an algorithm: no double is nearer, of two that
are equally near the one with an even significand is taken, and numbers from
half way behind the greatest double on give an infinity.

There is only one such double (`RoundsTo.unique`), and the reading of decimal
numerals finds it (`ofScaled_rounds`).
-/

namespace ResponseService.Double

/-! ## Rounding -/

/-- The number of a significand and an exponent. -/
def magnitude (significand : Nat) (exponent : Int) : ℚ :=
  significand * 2 ^ exponent

/-- The significand has 53 bits, or fewer at the least exponent. -/
structure IsCanonical (significand : Nat) (exponent : Int) : Prop where
  bounded : significand < 2 ^ 53
  least : leastExponent ≤ exponent
  greatest : exponent ≤ greatestExponent
  normal : exponent = leastExponent ∨ 2 ^ 52 ≤ significand

/-- From here on, half way between the greatest double and the power of two
behind it, numbers count as infinite. -/
def overflow : ℚ := (2 ^ 53 - 1 / 2) * 2 ^ greatestExponent

/-- Rounding a number that is not negative, to be given the sign. -/
inductive RoundsTo (negative : Bool) (number : ℚ) : Double → Prop where
  | infinite (large : overflow ≤ number) :
      RoundsTo negative number (.infinite negative)
  | finite {significand : Nat} {exponent : Int}
      (small : number < overflow)
      (canonical : IsCanonical significand exponent)
      (nearest : ∀ other power, IsCanonical other power →
        |magnitude significand exponent - number| ≤
          |magnitude other power - number|)
      (even : ∀ other power, IsCanonical other power →
        magnitude other power ≠ magnitude significand exponent →
        |magnitude significand exponent - number| =
          |magnitude other power - number| →
        Even significand) :
      RoundsTo negative number (.finite negative significand exponent)

/-! ## The doubles in their order -/

theorem twoPower_pos (exponent : Int) : (0 : ℚ) < 2 ^ exponent := by
  positivity

/-- A number with a greater exponent lies on the grid of a smaller one. -/
theorem exists_grid (significand : Nat) {exponent power : Int}
    (above : exponent ≤ power) :
    ∃ count : Nat, magnitude significand power = count * 2 ^ exponent := by
  refine ⟨significand * 2 ^ (power - exponent).toNat, ?_⟩
  have shift : (((power - exponent).toNat : ℕ) : ℤ) = power - exponent :=
    Int.toNat_of_nonneg (by omega)
  have split : (2 : ℚ) ^ power =
      2 ^ (power - exponent).toNat * 2 ^ exponent := by
    rw [← zpow_natCast, shift, ← zpow_add₀ (by norm_num)]
    congr 1
    omega
  rw [magnitude, split]
  push_cast
  ring

/-- A number with a smaller exponent lies below all that have 53 bits. -/
theorem magnitude_lt_of_lt {significand : Nat} {exponent power : Int}
    (bounded : significand < 2 ^ 53) (below : power < exponent) :
    magnitude significand power < 2 ^ 52 * 2 ^ exponent := by
  have step : (2 : ℚ) ^ (power + 1) ≤ 2 ^ exponent :=
    zpow_le_zpow_right₀ (by norm_num) (by omega)
  rw [zpow_add_one₀ (by norm_num)] at step
  have bound : (significand : ℚ) < 2 ^ 53 := by exact_mod_cast bounded
  have positive := twoPower_pos power
  rw [magnitude]
  nlinarith

theorem IsCanonical.full {significand : Nat} {exponent power : Int}
    (canonical : IsCanonical significand exponent)
    (least : leastExponent ≤ power) (below : power < exponent) :
    2 ^ 52 ≤ significand := by
  rcases canonical.normal with lowest | many
  · omega
  · exact many

/-- Of two different exponents the greater one belongs to the greater number. -/
theorem IsCanonical.magnitude_lt {significand other : Nat}
    {exponent power : Int} (canonical : IsCanonical significand exponent)
    (otherCanonical : IsCanonical other power) (below : power < exponent) :
    magnitude other power < magnitude significand exponent := by
  have many : (2 : ℚ) ^ 52 ≤ significand := by
    exact_mod_cast canonical.full otherCanonical.least below
  calc
    magnitude other power < 2 ^ 52 * 2 ^ exponent :=
      magnitude_lt_of_lt otherCanonical.bounded below
    _ ≤ magnitude significand exponent :=
      mul_le_mul_of_nonneg_right many (twoPower_pos exponent).le

theorem IsCanonical.unique {significand other : Nat} {exponent power : Int}
    (canonical : IsCanonical significand exponent)
    (otherCanonical : IsCanonical other power)
    (same : magnitude significand exponent = magnitude other power) :
    significand = other ∧ exponent = power := by
  rcases lt_trichotomy exponent power with less | rfl | greater
  · exact absurd same (otherCanonical.magnitude_lt canonical less).ne
  · rw [magnitude, magnitude] at same
    have significands := mul_right_cancel₀ (twoPower_pos exponent).ne' same
    exact ⟨by exact_mod_cast significands, rfl⟩
  · exact absurd same (canonical.magnitude_lt otherCanonical greater).ne'

/-- No double lies between one and the next one on its grid. -/
theorem IsCanonical.next_le {significand other : Nat} {exponent power : Int}
    (canonical : IsCanonical significand exponent)
    (otherCanonical : IsCanonical other power)
    (less : magnitude significand exponent < magnitude other power) :
    magnitude (significand + 1) exponent ≤ magnitude other power := by
  have positive := twoPower_pos exponent
  rcases le_or_gt exponent power with above | below
  · rcases exists_grid other above with ⟨count, grid⟩
    rw [grid, magnitude] at less
    have more : significand < count := by
      exact_mod_cast lt_of_mul_lt_mul_right less positive.le
    have cast : ((significand + 1 : ℕ) : ℚ) ≤ count := by exact_mod_cast more
    rw [grid, magnitude]
    exact mul_le_mul_of_nonneg_right cast positive.le
  · exact absurd less (canonical.magnitude_lt otherCanonical below).not_gt

theorem IsCanonical.next {significand : Nat} {exponent : Int}
    (canonical : IsCanonical significand exponent)
    (even : Even significand) : IsCanonical (significand + 1) exponent where
  bounded := by
    have bound := canonical.bounded
    rcases even with ⟨half, rfl⟩
    omega
  least := canonical.least
  greatest := canonical.greatest
  normal := by
    rcases canonical.normal with lowest | many
    · exact Or.inl lowest
    · exact Or.inr (many.trans (Nat.le_succ _))

/-- Two different doubles with even significands are never both nearest. -/
theorem not_both_even {significand other : Nat} {exponent power : Int}
    {number : ℚ} (canonical : IsCanonical significand exponent)
    (otherCanonical : IsCanonical other power)
    (nearest : ∀ third place, IsCanonical third place →
      |magnitude significand exponent - number| ≤
        |magnitude third place - number|)
    (tie : |magnitude significand exponent - number| =
      |magnitude other power - number|)
    (less : magnitude significand exponent < magnitude other power)
    (even : Even significand) : ¬Even other := by
  intro otherEven
  have nextCanonical := canonical.next even
  have step := canonical.next_le otherCanonical less
  have near := nearest _ _ nextCanonical
  have grows : magnitude significand exponent <
      magnitude (significand + 1) exponent := by
    have positive := twoPower_pos exponent
    simp only [magnitude]
    push_cast
    linarith
  -- The number is half way between the two, so nothing lies between them.
  have middle : magnitude significand exponent + magnitude other power =
      2 * number := by
    rcases abs_eq_abs.mp tie with same | opposite
    · linarith
    · linarith
  have reached : magnitude (significand + 1) exponent =
      magnitude other power := by
    rw [abs_of_neg (by linarith)] at near
    by_contra apart
    have before := lt_of_le_of_ne step apart
    have inside : |magnitude (significand + 1) exponent - number| <
        number - magnitude significand exponent := by
      rw [abs_lt]
      constructor <;> linarith
    linarith
  rcases (nextCanonical.unique otherCanonical reached).1 with rfl
  rcases even with ⟨half, rfl⟩
  rcases otherEven with ⟨otherHalf, odd⟩
  omega

/-- A number is rounded in one way only. -/
theorem RoundsTo.unique {negative : Bool} {number : ℚ} {first second : Double}
    (one : RoundsTo negative number first)
    (other : RoundsTo negative number second) : first = second := by
  cases one with
  | infinite large =>
      cases other with
      | infinite _ => rfl
      | finite small _ _ _ => exact absurd large (not_le.mpr small)
  | @finite significand exponent small canonical nearest even =>
      cases other with
      | infinite large => exact absurd large (not_le.mpr small)
      | @finite otherSignificand otherExponent _ otherCanonical otherNearest
          otherEven =>
          have tie := le_antisymm (nearest _ _ otherCanonical)
            (otherNearest _ _ canonical)
          rcases lt_trichotomy (magnitude significand exponent)
            (magnitude otherSignificand otherExponent) with
            less | same | greater
          · exact absurd (otherEven _ _ canonical less.ne tie.symm)
              (not_both_even canonical otherCanonical nearest tie less
                (even _ _ otherCanonical less.ne' tie))
          · rcases canonical.unique otherCanonical same with ⟨rfl, rfl⟩
            rfl
          · exact absurd (even _ _ otherCanonical greater.ne tie)
              (not_both_even otherCanonical canonical otherNearest tie.symm
                greater (otherEven _ _ canonical greater.ne' tie.symm))

/-! ## Rounding to a natural number -/

/-- The natural number nearest to a number, the even one of two. -/
structure NearestEven (number : ℚ) (rounded : Nat) : Prop where
  near : |(rounded : ℚ) - number| ≤ 1 / 2
  even : |(rounded : ℚ) - number| = 1 / 2 → Even rounded

section Halves

variable {part : ℚ} (quotient : Nat)

theorem nearestEven_of_lt_half (nonnegative : 0 ≤ part) (low : part < 1 / 2) :
    NearestEven (quotient + part) quotient := by
  have distance : |(quotient : ℚ) - (quotient + part)| = part := by
    rw [abs_of_nonpos (by linarith)]
    ring
  refine ⟨by rw [distance]; exact low.le, ?_⟩
  intro tie
  exact absurd (distance.symm.trans tie) low.ne

theorem nearestEven_of_half_lt (high : 1 / 2 < part) (less : part < 1) :
    NearestEven (quotient + part) (quotient + 1) := by
  have distance : |((quotient + 1 : ℕ) : ℚ) - (quotient + part)| = 1 - part := by
    push_cast
    rw [abs_of_nonneg (by linarith)]
    ring
  refine ⟨by rw [distance]; linarith, ?_⟩
  intro tie
  rw [distance] at tie
  linarith

theorem nearestEven_half :
    NearestEven (quotient + 1 / 2) (quotient + quotient % 2) := by
  rcases Nat.mod_two_eq_zero_or_one quotient with even | odd
  · rw [even]
    refine ⟨?_, fun _ => Nat.even_iff.mpr (by omega)⟩
    rw [abs_of_nonpos (by push_cast; linarith)]
    push_cast
    linarith
  · rw [odd]
    refine ⟨?_, fun _ => Nat.even_iff.mpr (by omega)⟩
    rw [abs_of_nonneg (by push_cast; linarith)]
    push_cast
    linarith

end Halves

theorem roundHalfEven_nearestEven (numerator : Nat) {denominator : Nat}
    (positive : 0 < denominator) :
    NearestEven (numerator / denominator)
      (roundHalfEven numerator denominator) := by
  have whole := Nat.div_add_mod numerator denominator
  have below := Nat.mod_lt numerator positive
  generalize quotientEq : numerator / denominator = quotient at whole
  generalize remainderEq : numerator % denominator = remainder at whole below
  have real : (0 : ℚ) < denominator := by exact_mod_cast positive
  have split : (numerator : ℚ) / denominator =
      quotient + remainder / denominator := by
    rw [← whole]
    push_cast
    field_simp
  simp only [roundHalfEven, quotientEq, remainderEq]
  rw [split]
  split_ifs with low high
  · refine nearestEven_of_lt_half quotient (by positivity) ?_
    rw [div_lt_div_iff₀ real (by norm_num)]
    exact_mod_cast (by omega : remainder * 2 < 1 * denominator)
  · refine nearestEven_of_half_lt quotient ?_ ?_
    · rw [div_lt_div_iff₀ (by norm_num) real]
      exact_mod_cast (by omega : 1 * denominator < remainder * 2)
    · rw [div_lt_one real]
      exact_mod_cast below
  · have middle : (remainder : ℚ) / denominator = 1 / 2 := by
      rw [div_eq_div_iff real.ne' (by norm_num)]
      exact_mod_cast (by omega : remainder * 2 = 1 * denominator)
    rw [middle]
    exact nearestEven_half quotient

theorem one_le_of_ne (number : ℚ) {rounded other : Nat}
    (different : other ≠ rounded) :
    1 ≤ |(rounded : ℚ) - number| + |(other : ℚ) - number| := by
  have apart : (1 : ℚ) ≤ |(rounded : ℚ) - other| := by
    have integers : (1 : ℤ) ≤ |(rounded : ℤ) - other| :=
      Int.one_le_abs (by omega)
    exact_mod_cast integers
  have triangle := abs_sub_le (rounded : ℚ) number other
  rw [abs_sub_comm number] at triangle
  linarith

namespace NearestEven

variable {number : ℚ} {rounded : Nat}

theorem nearest (even : NearestEven number rounded) (other : Nat) :
    |(rounded : ℚ) - number| ≤ |(other : ℚ) - number| := by
  by_cases same : other = rounded
  · rw [same]
  · have apart := one_le_of_ne number same
    have near := even.near
    linarith

theorem even_of_tie (even : NearestEven number rounded) {other : Nat}
    (different : other ≠ rounded)
    (tie : |(rounded : ℚ) - number| = |(other : ℚ) - number|) :
    Even rounded := by
  have apart := one_le_of_ne number different
  have near := even.near
  exact even.even (by linarith)

theorem le_of_lt (even : NearestEven number rounded) {bound : Nat}
    (below : number < bound) : rounded ≤ bound := by
  have near := (abs_le.mp even.near).2
  have less : (rounded : ℚ) < bound + 1 := by linarith
  exact Nat.lt_succ_iff.mp (by exact_mod_cast less)

theorem le_of_le (even : NearestEven number rounded) {bound : Nat}
    (above : (bound : ℚ) ≤ number) : bound ≤ rounded := by
  have near := (abs_le.mp even.near).1
  have less : (bound : ℚ) < rounded + 1 := by linarith
  exact Nat.lt_succ_iff.mp (by exact_mod_cast less)

end NearestEven

/-! ## Rounding on a grid -/

theorem distance_grid (number : ℚ) (count : Nat) (exponent : Int) :
    |count * 2 ^ exponent - number| =
      |(count : ℚ) - number / 2 ^ exponent| * 2 ^ exponent := by
  have positive := twoPower_pos exponent
  have whole : count * 2 ^ exponent - number =
      (count - number / 2 ^ exponent) * 2 ^ exponent := by
    field_simp
  rw [whole, abs_mul, abs_of_pos positive]

/-- A number rounded on a grid on which it has 53 bits, or on the finest one. -/
structure OnGrid (number : ℚ) (rounded : Nat) (exponent : Int) : Prop where
  rounds : NearestEven (number / 2 ^ exponent) rounded
  below : number / 2 ^ exponent < 2 ^ 53
  least : leastExponent ≤ exponent
  normal : exponent = leastExponent ∨ 2 ^ 52 ≤ number / 2 ^ exponent

namespace OnGrid

variable {number : ℚ} {rounded : Nat} {exponent : Int}

/-- Doubles that lie between the places of the grid are too small to matter. -/
theorem nearer_of_lt (grid : OnGrid number rounded exponent) {other : Nat}
    {power : Int} (canonical : IsCanonical other power)
    (finer : power < exponent) :
    |magnitude rounded exponent - number| < |magnitude other power - number| := by
  have positive := twoPower_pos exponent
  have under := magnitude_lt_of_lt canonical.bounded finer
  have many : (2 : ℚ) ^ 52 ≤ number / 2 ^ exponent := by
    rcases grid.normal with lowest | many
    · have bound := canonical.least
      omega
    · exact many
  have reached : (2 : ℚ) ^ 52 * 2 ^ exponent ≤ number :=
    (le_div_iff₀ positive).mp many
  have near := mul_le_mul_of_nonneg_right (grid.rounds.nearest (2 ^ 52))
    positive.le
  rw [← distance_grid, ← distance_grid, Nat.cast_pow, Nat.cast_ofNat] at near
  calc
    |magnitude rounded exponent - number| ≤
        |(2 : ℚ) ^ 52 * 2 ^ exponent - number| := near
    _ = number - 2 ^ 52 * 2 ^ exponent := by
      rw [abs_of_nonpos (by linarith), neg_sub]
    _ < number - magnitude other power := by linarith
    _ = |magnitude other power - number| := by
      rw [abs_of_neg (by linarith), neg_sub]

theorem nearest (grid : OnGrid number rounded exponent) {other : Nat}
    {power : Int} (canonical : IsCanonical other power) :
    |magnitude rounded exponent - number| ≤ |magnitude other power - number| := by
  rcases le_or_gt exponent power with coarser | finer
  · rcases exists_grid other coarser with ⟨count, same⟩
    rw [same, magnitude, distance_grid, distance_grid]
    exact mul_le_mul_of_nonneg_right (grid.rounds.nearest count)
      (twoPower_pos exponent).le
  · exact (grid.nearer_of_lt canonical finer).le

theorem even_of_tie (grid : OnGrid number rounded exponent) {other : Nat}
    {power : Int} (canonical : IsCanonical other power)
    (different : magnitude other power ≠ magnitude rounded exponent)
    (tie : |magnitude rounded exponent - number| =
      |magnitude other power - number|) : Even rounded := by
  rcases le_or_gt exponent power with coarser | finer
  · rcases exists_grid other coarser with ⟨count, same⟩
    have apart : count ≠ rounded := by
      rintro rfl
      exact different same
    rw [same, magnitude, distance_grid, distance_grid] at tie
    exact grid.rounds.even_of_tie apart
      (mul_right_cancel₀ (twoPower_pos exponent).ne' tie)
  · exact absurd tie (grid.nearer_of_lt canonical finer).ne

theorem rounded_le (grid : OnGrid number rounded exponent) :
    rounded ≤ 2 ^ 53 :=
  grid.rounds.le_of_lt (by exact_mod_cast grid.below)

theorem normal_rounded (grid : OnGrid number rounded exponent) :
    exponent = leastExponent ∨ 2 ^ 52 ≤ rounded := by
  rcases grid.normal with lowest | many
  · exact Or.inl lowest
  · exact Or.inr (grid.rounds.le_of_le (by exact_mod_cast many))

/-- A canonical form of what was rounded on the grid is the nearest double. -/
theorem roundsTo_finite (grid : OnGrid number rounded exponent)
    (negative : Bool) {significand : Nat} {power : Int}
    (canonical : IsCanonical significand power)
    (same : magnitude significand power = magnitude rounded exponent)
    (even : Even rounded → Even significand) (small : number < overflow) :
    RoundsTo negative number (.finite negative significand power) := by
  refine .finite small canonical ?_ ?_
  · intro other place otherCanonical
    rw [same]
    exact grid.nearest otherCanonical
  · intro other place otherCanonical different tie
    rw [same] at different tie
    exact even (grid.even_of_tie otherCanonical different tie)

theorem lt_overflow_of_lt (grid : OnGrid number rounded exponent)
    (room : exponent < greatestExponent) : number < overflow := by
  have below := (div_lt_iff₀ (twoPower_pos exponent)).mp grid.below
  have positive := twoPower_pos exponent
  have step : (2 : ℚ) ^ (exponent + 1) ≤ 2 ^ greatestExponent :=
    zpow_le_zpow_right₀ (by norm_num) (by omega)
  rw [zpow_add_one₀ (by norm_num)] at step
  rw [overflow]
  linarith

theorem overflow_le_of_lt (grid : OnGrid number rounded exponent)
    (beyond : greatestExponent < exponent) : overflow ≤ number := by
  have many : (2 : ℚ) ^ 52 ≤ number / 2 ^ exponent := by
    rcases grid.normal with lowest | many
    · rw [lowest] at beyond
      exact absurd beyond (by decide)
    · exact many
  have reached := (le_div_iff₀ (twoPower_pos exponent)).mp many
  have positive := twoPower_pos greatestExponent
  have step : (2 : ℚ) ^ (greatestExponent + 1) ≤ 2 ^ exponent :=
    zpow_le_zpow_right₀ (by norm_num) (by omega)
  rw [zpow_add_one₀ (by norm_num)] at step
  rw [overflow]
  linarith

/-- At the greatest exponent a number is infinite if rounding carries it to the
next power of two. -/
theorem overflow_le_iff (grid : OnGrid number rounded greatestExponent) :
    overflow ≤ number ↔ rounded = 2 ^ 53 := by
  rcases abs_le.mp grid.rounds.near with ⟨low, high⟩
  rw [overflow, ← le_div_iff₀ (twoPower_pos greatestExponent)]
  constructor
  · intro large
    have many : 2 ^ 53 - 1 ≤ rounded := by
      have less : (2 : ℚ) ^ 53 < rounded + 2 := by linarith
      have integers : 2 ^ 53 < rounded + 2 := by exact_mod_cast less
      omega
    by_contra different
    have odd : rounded = 2 ^ 53 - 1 := by
      have most := grid.rounded_le
      omega
    have cast : (rounded : ℚ) = 2 ^ 53 - 1 := by
      rw [odd]
      norm_num
    have tie : |(rounded : ℚ) - number / 2 ^ greatestExponent| = 1 / 2 := by
      rw [abs_of_neg] <;> linarith
    have even := grid.rounds.even tie
    rw [odd] at even
    revert even
    decide
  · intro full
    have cast : (rounded : ℚ) = 2 ^ 53 := by
      rw [full]
      norm_num
    linarith

/-- Rounding up to the next power of two takes the next exponent. -/
theorem roundsTo_carried (grid : OnGrid number (2 ^ 53) exponent)
    (negative : Bool) :
    RoundsTo negative number
      (if greatestExponent < exponent + 1 then .infinite negative
       else .finite negative (2 ^ 52) (exponent + 1)) := by
  split_ifs with beyond
  · rcases (Int.lt_add_one_iff.mp beyond).lt_or_eq with less | rfl
    · exact .infinite (grid.overflow_le_of_lt less)
    · exact .infinite (grid.overflow_le_iff.mpr rfl)
  · have room : exponent < greatestExponent := by omega
    have canonical : IsCanonical (2 ^ 52) (exponent + 1) :=
      ⟨by norm_num, grid.least.trans (by omega), by omega, Or.inr le_rfl⟩
    have same : magnitude (2 ^ 52) (exponent + 1) =
        magnitude (2 ^ 53) exponent := by
      rw [magnitude, magnitude, zpow_add_one₀ (by norm_num)]
      push_cast
      ring
    exact grid.roundsTo_finite negative canonical same (fun _ => by decide)
      (grid.lt_overflow_of_lt room)

theorem roundsTo_kept (grid : OnGrid number rounded exponent)
    (kept : rounded ≠ 2 ^ 53) (negative : Bool) :
    RoundsTo negative number
      (if greatestExponent < exponent then .infinite negative
       else .finite negative rounded exponent) := by
  split_ifs with beyond
  · exact .infinite (grid.overflow_le_of_lt beyond)
  · have most := grid.rounded_le
    have canonical : IsCanonical rounded exponent :=
      ⟨by omega, grid.least, by omega, grid.normal_rounded⟩
    have small : number < overflow := by
      rcases (not_lt.mp beyond).lt_or_eq with room | rfl
      · exact grid.lt_overflow_of_lt room
      · rw [← not_le, grid.overflow_le_iff]
        exact kept
    exact grid.roundsTo_finite negative canonical rfl id small

end OnGrid

/-! ## Rounding quotients -/

theorem cast_twoTo (power : Nat) : (twoTo power : ℚ) = 2 ^ power := by
  have same : twoTo power = 2 ^ power := rfl
  rw [same]
  push_cast
  rfl

theorem cast_tenTo (power : Nat) : (tenTo power : ℚ) = 10 ^ power := by
  have same : tenTo power = 10 ^ power := rfl
  rw [same]
  push_cast
  rfl

theorem shifted_eq (numerator denominator : Nat) (exponent : Int) :
    ((shifted numerator denominator exponent).1 : ℚ) /
        (shifted numerator denominator exponent).2 =
      numerator / denominator / 2 ^ exponent := by
  simp only [shifted, Nat.cast_mul, cast_twoTo]
  rcases exponent.eq_nat_or_neg with ⟨power, rfl | rfl⟩
  · simp [div_div]
  · simp [div_mul_eq_mul_div]

theorem shifted_pos {numerator denominator : Nat} (positive : 0 < denominator)
    (exponent : Int) : 0 < (shifted numerator denominator exponent).2 :=
  Nat.mul_pos positive (Nat.pow_pos (by norm_num))

theorem shifted_lt_iff {numerator denominator : Nat}
    (positive : 0 < denominator) (exponent : Int) (bits : Nat) :
    (shifted numerator denominator exponent).1 /
        (shifted numerator denominator exponent).2 < twoTo bits ↔
      (numerator : ℚ) / denominator / 2 ^ exponent < 2 ^ bits := by
  have divisor : 0 < (shifted numerator denominator exponent).2 :=
    shifted_pos positive exponent
  rw [← shifted_eq, Nat.div_lt_iff_lt_mul divisor, div_lt_iff₀
    (by exact_mod_cast divisor), ← cast_twoTo]
  exact_mod_cast Iff.rfl

/-- The lengths of numerator and denominator tell the size of a quotient but for
one bit. -/
theorem log2_bounds {numerator denominator : Nat}
    (numeratorPositive : 0 < numerator)
    (denominatorPositive : 0 < denominator) {guess : Int}
    (guessEq :
      (numerator.log2 : Int) - (denominator.log2 : Int) - 52 = guess) :
    (2 : ℚ) ^ 51 < numerator / denominator / 2 ^ guess ∧
      (numerator : ℚ) / denominator / 2 ^ guess < 2 ^ 53 := by
  have bottom : (0 : ℚ) < denominator := by exact_mod_cast denominatorPositive
  have guessPositive := twoPower_pos guess
  have lowTop : (2 : ℚ) ^ numerator.log2 ≤ numerator := by
    exact_mod_cast Nat.log2_self_le numeratorPositive.ne'
  have highTop : (numerator : ℚ) < 2 ^ (numerator.log2 + 1) := by
    exact_mod_cast Nat.lt_log2_self
  have lowBottom : (2 : ℚ) ^ denominator.log2 ≤ denominator := by
    exact_mod_cast Nat.log2_self_le denominatorPositive.ne'
  have highBottom : (denominator : ℚ) < 2 ^ (denominator.log2 + 1) := by
    exact_mod_cast Nat.lt_log2_self
  have split : (2 : ℚ) ^ numerator.log2 =
      2 ^ 52 * 2 ^ guess * 2 ^ denominator.log2 := by
    rw [← zpow_natCast, ← zpow_natCast, ← zpow_natCast,
      ← zpow_add₀ (by norm_num), ← zpow_add₀ (by norm_num)]
    congr 1
    push_cast
    omega
  rw [pow_succ] at highTop highBottom
  constructor
  · rw [lt_div_iff₀ guessPositive, lt_div_iff₀ bottom]
    nlinarith
  · rw [div_lt_iff₀ guessPositive, div_lt_iff₀ bottom]
    nlinarith

/-- At its unit exponent a quotient has 53 bits before the point. -/
theorem unitExponent_bounds {numerator denominator : Nat}
    (numeratorPositive : 0 < numerator)
    (denominatorPositive : 0 < denominator) :
    (2 : ℚ) ^ 52 ≤ numerator / denominator /
        2 ^ unitExponent numerator denominator ∧
      (numerator : ℚ) / denominator /
        2 ^ unitExponent numerator denominator < 2 ^ 53 := by
  generalize guessEq :
    (numerator.log2 : Int) - (denominator.log2 : Int) - 52 = guess
  obtain ⟨guessLow, guessHigh⟩ :=
    log2_bounds numeratorPositive denominatorPositive guessEq
  simp only [unitExponent, guessEq, shifted_lt_iff denominatorPositive]
  split_ifs with low
  · -- The quotient is one bit short at the guess, so the exponent is one less.
    rw [zpow_sub_one₀ (by norm_num)]
    have twice : (numerator : ℚ) / denominator / (2 ^ guess * 2⁻¹) =
        2 * (numerator / denominator / 2 ^ guess) := by
      field_simp
    rw [twice]
    constructor <;> linarith
  · exact ⟨not_lt.mp low, guessHigh⟩

/-- The double of a quotient is the nearest one. -/
theorem ofQuotient_rounds (negative : Bool) {numerator denominator : Nat}
    (numeratorPositive : 0 < numerator)
    (denominatorPositive : 0 < denominator) :
    RoundsTo negative (numerator / denominator)
      (ofQuotient negative numerator denominator) := by
  rcases unitExponent_bounds numeratorPositive denominatorPositive with
    ⟨low, high⟩
  generalize exponentEq :
    max (unitExponent numerator denominator) leastExponent = exponent
  have grid : OnGrid (numerator / denominator)
      (roundHalfEven (shifted numerator denominator exponent).1
        (shifted numerator denominator exponent).2) exponent := by
    refine ⟨?_, ?_, by omega, ?_⟩
    · rw [← shifted_eq]
      exact roundHalfEven_nearestEven _ (shifted_pos denominatorPositive _)
    · have step : (2 : ℚ) ^ unitExponent numerator denominator ≤
          2 ^ exponent :=
        zpow_le_zpow_right₀ (by norm_num) (by omega)
      have positive : (0 : ℚ) ≤ numerator / denominator := by positivity
      exact lt_of_le_of_lt
        (div_le_div_of_nonneg_left positive (twoPower_pos _) step) high
    · rcases le_or_gt (unitExponent numerator denominator) leastExponent with
        lowest | above
      · exact Or.inl (by omega)
      · have same : exponent = unitExponent numerator denominator := by omega
        rw [same]
        exact Or.inr low
  simp only [ofQuotient, numeratorPositive.ne', if_false, exponentEq]
  generalize roundHalfEven (shifted numerator denominator exponent).1
    (shifted numerator denominator exponent).2 = rounded at grid
  have full : twoTo 53 = 2 ^ 53 := rfl
  have half : twoTo 52 = 2 ^ 52 := rfl
  rw [full, half]
  by_cases carried : rounded = 2 ^ 53
  · rw [carried] at grid ⊢
    exact grid.roundsTo_carried negative
  · simp only [carried, if_false]
    exact grid.roundsTo_kept carried negative

/-! ## Rounding decimal numerals -/

/-- The digits and the power of ten tell the size of a numeral. -/
theorem numeral_bounds {number : Nat} (positive : 0 < number) (power : Int) :
    (10 : ℚ) ^ ((Decimal.digitCount number : ℤ) + power - 1) ≤
        number * 10 ^ power ∧
      (number : ℚ) * 10 ^ power <
        10 ^ ((Decimal.digitCount number : ℤ) + power) := by
  rcases Decimal.digitCount_bounds positive with ⟨low, high⟩
  have counted : 1 ≤ Decimal.digitCount number := by
    by_contra none
    have zero : Decimal.digitCount number = 0 := by omega
    rw [zero] at high
    omega
  generalize Decimal.digitCount number = count at low high counted
  have tenPositive : (0 : ℚ) < 10 ^ power := by positivity
  constructor
  · have cast : (10 : ℚ) ^ (count - 1) ≤ number := by exact_mod_cast low
    have split : (count : ℤ) + power - 1 = ((count - 1 : ℕ) : ℤ) + power := by
      omega
    rw [split, zpow_add₀ (by norm_num), zpow_natCast]
    exact mul_le_mul_of_nonneg_right cast tenPositive.le
  · have cast : (number : ℚ) < 10 ^ count := by exact_mod_cast high
    rw [zpow_add₀ (by norm_num), zpow_natCast]
    exact mul_lt_mul_of_pos_right cast tenPositive

theorem roundsTo_zero (negative : Bool) {number : ℚ} (nonnegative : 0 ≤ number)
    (small : number < 2 ^ leastExponent / 2) :
    RoundsTo negative number (.finite negative 0 leastExponent) := by
  have canonical : IsCanonical 0 leastExponent :=
    ⟨by norm_num, le_rfl, by decide, Or.inl rfl⟩
  have zero : magnitude 0 leastExponent = 0 := by simp [magnitude]
  have finite : number < overflow := by
    have step : (2 : ℚ) ^ leastExponent ≤ 2 ^ greatestExponent :=
      zpow_le_zpow_right₀ (by norm_num) (by decide)
    have positive := twoPower_pos greatestExponent
    rw [overflow]
    linarith
  refine .finite finite canonical ?_ (fun _ _ _ _ _ => by decide)
  intro other power otherCanonical
  rw [zero, zero_sub, abs_neg, abs_of_nonneg nonnegative]
  rcases exists_grid other otherCanonical.least with ⟨count, same⟩
  rw [same]
  have positive := twoPower_pos leastExponent
  cases count with
  | zero => simp [abs_of_nonneg nonnegative]
  | succ count =>
      have many : (2 : ℚ) ^ leastExponent ≤
          (count + 1 : ℕ) * 2 ^ leastExponent := by
        have one : (1 : ℚ) ≤ (count + 1 : ℕ) := by
          exact_mod_cast Nat.succ_pos count
        nlinarith
      rw [abs_of_nonneg (by linarith)]
      linarith

theorem tenPower_lt_least : (10 : ℚ) ^ (-330 : ℤ) < 2 ^ leastExponent / 2 := by
  have natural : 2 ^ 1075 < 10 ^ 330 := by decide +kernel
  have cast : ((2 ^ 1075 : ℕ) : ℚ) < ((10 ^ 330 : ℕ) : ℚ) :=
    Nat.cast_lt.mpr natural
  rw [Nat.cast_pow, Nat.cast_pow, Nat.cast_ofNat, Nat.cast_ofNat] at cast
  have tens : (-330 : ℤ) = -((330 : ℕ) : ℤ) := rfl
  have twos : leastExponent = -((1074 : ℕ) : ℤ) := rfl
  have half : ((2 : ℚ) ^ 1074)⁻¹ / 2 = (2 ^ 1075)⁻¹ := by
    rw [pow_succ (2 : ℚ) 1074, mul_inv, div_eq_mul_inv]
  rw [tens, twos, zpow_neg, zpow_neg, zpow_natCast, zpow_natCast, half]
  exact (inv_lt_inv₀ (by positivity) (by positivity)).mpr cast

theorem overflow_le_tenPower : overflow ≤ 10 ^ (310 : ℤ) := by
  have natural : 2 ^ 53 * 2 ^ 971 ≤ 10 ^ 310 := by decide +kernel
  have cast : ((2 ^ 53 * 2 ^ 971 : ℕ) : ℚ) ≤ ((10 ^ 310 : ℕ) : ℚ) :=
    Nat.cast_le.mpr natural
  rw [Nat.cast_mul, Nat.cast_pow, Nat.cast_pow, Nat.cast_pow, Nat.cast_ofNat,
    Nat.cast_ofNat] at cast
  have tens : (310 : ℤ) = ((310 : ℕ) : ℤ) := rfl
  have twos : greatestExponent = ((971 : ℕ) : ℤ) := rfl
  rw [overflow, tens, twos, zpow_natCast, zpow_natCast]
  refine le_trans ?_ cast
  exact mul_le_mul_of_nonneg_right (by norm_num) (by positivity)

/-- A decimal numeral is read as the nearest double. -/
theorem ofScaled_rounds (negative : Bool) (number : Nat) (power : Int) :
    RoundsTo negative (number * 10 ^ power)
      (ofScaled negative number power) := by
  have ten : (1 : ℚ) < 10 := by norm_num
  rcases Nat.eq_zero_or_pos number with rfl | positive
  · have half := half_pos (twoPower_pos leastExponent)
    simpa [ofScaled] using roundsTo_zero negative le_rfl half
  obtain ⟨lower, upper⟩ := numeral_bounds positive power
  simp only [ofScaled, positive.ne', false_or]
  split_ifs with tiny huge
  · apply roundsTo_zero negative (by positivity)
    calc
      (number : ℚ) * 10 ^ power <
          10 ^ ((Decimal.digitCount number : ℤ) + power) := upper
      _ ≤ 10 ^ (-330 : ℤ) := zpow_le_zpow_right₀ ten.le tiny.le
      _ < 2 ^ leastExponent / 2 := tenPower_lt_least
  · apply RoundsTo.infinite
    calc
      overflow ≤ 10 ^ (310 : ℤ) := overflow_le_tenPower
      _ ≤ 10 ^ ((Decimal.digitCount number : ℤ) + power - 1) :=
        zpow_le_zpow_right₀ ten.le (by omega)
      _ ≤ number * 10 ^ power := lower
  · have quotient : (number : ℚ) * 10 ^ power =
        ((number * tenTo power.toNat : ℕ) : ℚ) / (tenTo (-power).toNat : ℕ) := by
      rw [Nat.cast_mul, cast_tenTo, cast_tenTo]
      rcases power.eq_nat_or_neg with ⟨places, rfl | rfl⟩
      · simp
      · simp [div_eq_mul_inv]
    rw [quotient]
    exact ofQuotient_rounds negative
      (Nat.mul_pos positive (Nat.pow_pos (by norm_num)))
      (Nat.pow_pos (by norm_num))

end ResponseService.Double
