import Mathlib.Algebra.Order.Ring.Nat
import ResponseService.Number.Decimal

/-!
# The digits of a number

A number is written with at least one digit, the first of which is not zero
unless the number is.  How many there are tells between which powers of ten it
lies (`digitCount_bounds`).  The numeral is the one that the language itself
shows (`ofNat_eq_repr`).
-/

namespace ResponseService.Decimal

theorem digits_ne_nil (number : Nat) : digits number ≠ [] := by
  fun_induction digits number with
  | case1 number below => simp
  | case2 number above ih => simp

theorem digits_head_ne_zero {number : Nat} (positive : 0 < number) :
    ∀ digit ∈ (digits number).head?, digit ≠ 0 := by
  fun_induction digits number with
  | case1 number below =>
      intro digit member
      simp only [List.head?_cons, Option.mem_some_iff] at member
      omega
  | case2 number above ih =>
      intro digit member
      have inner := ih (by omega)
      cases front : digits (number / 10) with
      | nil => exact absurd front (digits_ne_nil _)
      | cons first rest =>
          rw [front] at inner member
          exact inner digit member

/-- A positive number lies between the power of ten of its other digits and
that of all of them. -/
theorem digitCount_bounds {number : Nat} (positive : 0 < number) :
    10 ^ (digitCount number - 1) ≤ number ∧
      number < 10 ^ digitCount number := by
  unfold digitCount
  fun_induction digits number with
  | case1 number below => simp; omega
  | case2 number above ih =>
      rcases ih (by omega) with ⟨low, high⟩
      simp only [List.length_append, List.length_singleton,
        Nat.add_sub_cancel]
      generalize (digits (number / 10)).length = count at low high ⊢
      cases count with
      | zero => omega
      | succ count =>
          rw [Nat.add_sub_cancel] at low
          rw [pow_succ] at high ⊢
          constructor <;> omega

/-- A decimal numeral is what the language shows of a number. -/
theorem ofNat_eq_repr (number : Nat) :
    ofNat number = Text.ofString (Nat.repr number) := by
  have shown : ∀ digit < 10,
      digitPoint digit = CodePoint.ofChar (Nat.digitChar digit) := by
    decide
  rw [Nat.repr_eq_ofList_toDigits, Text.ofString, String.toList_ofList,
    ofNat]
  fun_induction digits number with
  | case1 number below =>
      rw [Nat.toDigits_of_lt_base below]
      exact congrArg (· :: []) (shown number below)
  | case2 number above ih =>
      have last := shown (number % 10) (Nat.mod_lt _ (by decide))
      rw [Nat.toDigits_of_base_le (by decide) (Nat.le_of_not_lt above),
        List.map_append, ih, List.map_append, List.map_singleton, last,
        List.map_singleton]

end ResponseService.Decimal
