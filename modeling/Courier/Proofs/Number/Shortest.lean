import Courier.Number.Shortest
import Courier.Proofs.Number.Rounding

namespace Courier.Decimal

open Binary64

/-! The shortest decimal reads back.

What a decimal reads as depends on its value alone.  So dropping trailing zeros
changes nothing, and since a grid gives a decimal only if it reads back, the
shortest one does whichever grid it comes from. -/

def value (decimal : Decimal) : ℚ :=
  decimal.digits * 10 ^ decimal.exponent

theorem value_pos {decimal : Decimal} (nonzero : decimal.digits ≠ 0) : 0 < decimal.value := by
  have digits : (0 : ℚ) < decimal.digits := by exact_mod_cast Nat.pos_of_ne_zero nonzero
  exact mul_pos digits (zpow_pos (by norm_num) _)

theorem value_eq_zero_iff {decimal : Decimal} : decimal.value = 0 ↔ decimal.digits = 0 := by
  constructor
  · intro zero
    by_contra nonzero
    exact absurd zero (ne_of_gt (value_pos nonzero))
  · intro zero
    rw [value, zero, Nat.cast_zero, zero_mul]

/-- The order is one more than the logarithm of the value. -/
theorem order_eq_log {decimal : Decimal} (nonzero : decimal.digits ≠ 0) :
    decimal.order = Int.log 10 decimal.value + 1 := by
  obtain ⟨count, counted⟩ : ∃ count, (digitsOf decimal.digits).length = count + 1 :=
    Nat.exists_eq_add_one.2 Nat.length_toDigits_pos
  have above : decimal.digits < 10 ^ (count + 1) :=
    (Nat.length_toDigits_le_iff (by decide) (Nat.succ_pos count)).1 (Nat.le_of_eq counted)
  have below : 10 ^ count ≤ decimal.digits := by
    rcases Nat.eq_zero_or_pos count with rfl | several
    · exact Nat.pos_of_ne_zero nonzero
    · refine Nat.le_of_not_gt fun short => ?_
      have fewer := (Nat.length_toDigits_le_iff (by decide) several).2 short
      unfold digitsOf at counted
      omega
  have unit : (0 : ℚ) < 10 ^ decimal.exponent := zpow_pos (by norm_num) _
  have logarithm : Int.log 10 decimal.value = count + decimal.exponent := by
    refine log_eq_of_between 10 (by decide) (value_pos nonzero) ?_ ?_
    · rw [value, Nat.cast_ofNat, zpow_add₀ (by norm_num)]
      refine mul_le_mul_of_nonneg_right ?_ unit.le
      exact_mod_cast below
    · rw [value, Nat.cast_ofNat, add_right_comm, zpow_add₀ (by norm_num)]
      refine mul_lt_mul_of_pos_right ?_ unit
      exact_mod_cast above
  rw [order, counted, logarithm]
  omega

theorem fraction_eq_value (decimal : Decimal) :
    ((decimal.digits * Nat.pow 10 decimal.exponent.toNat : Nat) : ℚ) /
      (Nat.pow 10 (-decimal.exponent).toNat : Nat) = decimal.value := by
  have power := zpow_eq_div 10 decimal.exponent
  rw [Nat.cast_ofNat] at power
  rw [value, power, Nat.cast_mul, mul_div_assoc]

/-- A decimal whose order is not too far reads as the quotient that it is. -/
theorem toBinary64?_eq_ofQuotient? {decimal : Decimal} (negative : Bool) {dividend divisor : Nat}
    (nonzero : decimal.digits ≠ 0) (notSmall : -330 ≤ decimal.order)
    (notLarge : decimal.order ≤ 310) (divides : 0 < divisor)
    (same : decimal.value = dividend / divisor) :
    decimal.toBinary64? negative = ofQuotient? negative dividend divisor := by
  have small : ¬ decimal.order < -330 := Int.not_lt.2 notSmall
  have large : ¬ 310 < decimal.order := Int.not_lt.2 notLarge
  have tens : 0 < Nat.pow 10 (-decimal.exponent).toNat := Nat.pow_pos (by decide)
  simp only [toBinary64?, nonzero, small, large, decide_false, Bool.or_self, Bool.false_eq_true,
    if_false, ofQuotient?]
  rw [nearest_congr tens divides]
  rw [← fraction_eq_value, div_eq_div_iff (by positivity) (by positivity)] at same
  exact_mod_cast same

/-- Decimals of the same value read alike. -/
theorem toBinary64?_congr (negative : Bool) {left right : Decimal}
    (same : left.value = right.value) :
    left.toBinary64? negative = right.toBinary64? negative := by
  by_cases zero : left.digits = 0
  · have otherZero : right.digits = 0 := by
      rw [← value_eq_zero_iff, ← same, value_eq_zero_iff]
      exact zero
    simp only [toBinary64?, zero, otherZero, decide_true, Bool.true_or, if_true]
  · have otherNonzero : right.digits ≠ 0 := by
      rw [ne_eq, ← value_eq_zero_iff, ← same, value_eq_zero_iff]
      exact zero
    have orders : left.order = right.order := by
      rw [order_eq_log zero, order_eq_log otherNonzero, same]
    by_cases small : right.order < -330
    · simp only [toBinary64?, orders, small, decide_true, Bool.or_true, if_true]
    · by_cases large : 310 < right.order
      · simp only [toBinary64?, zero, otherNonzero, orders, small, large, decide_false,
          Bool.or_self, Bool.false_eq_true, if_false, if_true]
      · have tens : 0 < Nat.pow 10 (-right.exponent).toNat := Nat.pow_pos (by decide)
        have fraction := (fraction_eq_value right).symm
        rw [toBinary64?_eq_ofQuotient? negative zero (by omega) (by omega) tens
            (same.trans fraction),
          toBinary64?_eq_ofQuotient? negative otherNonzero (by omega) (by omega) tens fraction]

theorem isFinite_of_toBinary64? {negative : Bool} {decimal : Decimal} {number : Binary64}
    (read : decimal.toBinary64? negative = some number) : number.isFinite = true := by
  unfold toBinary64? at read
  split at read
  · cases read
    exact isFinite_ofMagnitude negative (by decide)
  · split at read
    · cases read
    · exact isFinite_of_ofQuotient? read

/-! The exact expansion. -/

theorem value_exact (number : Binary64) :
    (exact number).value = number.significand * 2 ^ number.exponent := by
  unfold exact
  split
  · rename_i whole
    have unit : number.denominator = 1 := by
      have none : (-number.exponent).toNat = 0 := by omega
      rw [denominator, none]
    rw [← numerator_div_denominator, unit, value, zpow_zero, mul_one, Nat.cast_one, div_one]
  · rename_i fractional
    obtain ⟨places, placed⟩ : ∃ places : Nat, number.exponent = -(places : Int) :=
      ⟨(-number.exponent).toNat, by omega⟩
    rw [value, placed, Int.neg_neg, Int.toNat_natCast, zpow_neg, zpow_neg, zpow_natCast,
      zpow_natCast]
    have tens : (10 : ℚ) ^ places = 2 ^ places * 5 ^ places := by rw [← mul_pow]; norm_num
    rw [tens, Nat.cast_mul, Nat.pow_eq, Nat.cast_pow, Nat.cast_ofNat]
    field_simp

theorem significand_ne_zero {number : Binary64} (nonzero : number.isZero = false) :
    number.significand ≠ 0 := by
  intro zero
  have noMagnitude := significand_eq_zero_iff.1 zero
  rw [isZero, noMagnitude] at nonzero
  exact absurd nonzero (by decide)

theorem exact_digits {number : Binary64} (nonzero : number.isZero = false) :
    (exact number).digits ≠ 0 := by
  have significant : (number.significand : ℚ) ≠ 0 := by
    exact_mod_cast significand_ne_zero nonzero
  rw [ne_eq, ← value_eq_zero_iff, value_exact]
  exact mul_ne_zero significant (zpow_ne_zero _ (by norm_num))

/-- The least positive number is above the orders that read as zero. -/
theorem least_order : (10 : ℚ) ^ (-331 : Int) ≤ 2 ^ (-1074 : Int) := by
  have powers : 2 ^ 1074 ≤ 10 ^ 331 := by decide +kernel
  rw [zpow_neg, zpow_neg]
  refine inv_anti₀ (zpow_pos (by norm_num) _) ?_
  exact_mod_cast powers

/-- The first power beyond the finite numbers is below the orders that are too
large. -/
theorem greatest_order : (2 : ℚ) ^ (1024 : Int) ≤ 10 ^ (310 : Int) := by
  have powers : 2 ^ 1024 ≤ 10 ^ 310 := by decide +kernel
  exact_mod_cast powers

theorem order_exact {number : Binary64} (finite : number.isFinite = true)
    (nonzero : number.isZero = false) :
    -330 ≤ (exact number).order ∧ (exact number).order ≤ 310 := by
  have positive := value_pos (exact_digits nonzero)
  have significant : (1 : ℚ) ≤ number.significand := by
    exact_mod_cast Nat.one_le_iff_ne_zero.2 (significand_ne_zero nonzero)
  have unit : (0 : ℚ) < 2 ^ number.exponent := zpow_pos (by norm_num) _
  have low : (10 : ℚ) ^ (-331 : Int) ≤ (exact number).value := by
    have least : -1074 ≤ number.exponent := by unfold Binary64.exponent; omega
    calc (10 : ℚ) ^ (-331 : Int) ≤ 2 ^ (-1074 : Int) := least_order
      _ ≤ 2 ^ number.exponent := zpow_le_zpow_right₀ (by norm_num) least
      _ ≤ number.significand * 2 ^ number.exponent := le_mul_of_one_le_left unit.le significant
      _ = (exact number).value := (value_exact number).symm
  have high : (exact number).value < (10 : ℚ) ^ (310 : Int) := by
    have bounded : (number.significand : ℚ) < 2 ^ (53 : Int) := by
      exact_mod_cast significand_lt number
    have greatest : 53 + number.exponent ≤ 1024 := by
      have top := exponent_lt finite
      omega
    calc (exact number).value = number.significand * 2 ^ number.exponent := value_exact number
      _ < 2 ^ (53 : Int) * 2 ^ number.exponent := mul_lt_mul_of_pos_right bounded unit
      _ = 2 ^ (53 + number.exponent) := (zpow_add₀ (by norm_num) _ _).symm
      _ ≤ 2 ^ (1024 : Int) := zpow_le_zpow_right₀ (by norm_num) greatest
      _ ≤ 10 ^ (310 : Int) := greatest_order
  have atLeast : -331 ≤ Int.log 10 (exact number).value :=
    (Int.zpow_le_iff_le_log (by decide) positive).1 (by exact_mod_cast low)
  have below : Int.log 10 (exact number).value < 310 :=
    (Int.lt_zpow_iff_log_lt (by decide) positive).1 (by exact_mod_cast high)
  rw [order_eq_log (exact_digits nonzero)]
  omega

/-- The exact expansion of a finite number other than zero reads back. -/
theorem toBinary64?_exact {number : Binary64} (finite : number.isFinite = true)
    (nonzero : number.isZero = false) :
    (exact number).toBinary64? number.isNegative = some number := by
  obtain ⟨notSmall, notLarge⟩ := order_exact finite nonzero
  have divides : 0 < number.denominator := Nat.pow_pos (by decide)
  have fraction := (value_exact number).trans (numerator_div_denominator number).symm
  rw [toBinary64?_eq_ofQuotient? number.isNegative (exact_digits nonzero) notSmall notLarge divides
    fraction]
  simp only [ofQuotient?, nearest_self, ofMagnitude_self]
  rw [if_pos ((isFinite_iff number).1 finite)]

/-! The search. -/

theorem value_trimZeros (count : Nat) (decimal : Decimal) :
    (trimZeros count decimal).value = decimal.value := by
  induction count generalizing decimal with
  | zero => rfl
  | succ count inductionHypothesis =>
      unfold trimZeros
      split
      · rename_i trailing
        rw [Bool.and_eq_true, decide_eq_true_eq, decide_eq_true_eq] at trailing
        have tens : decimal.digits = decimal.digits / 10 * 10 := by omega
        have shifted : (decimal.digits : ℚ) = (decimal.digits / 10 : Nat) * 10 := by
          exact_mod_cast tens
        rw [inductionHypothesis, value, value, shifted, zpow_add₀ (by norm_num), zpow_one]
        ring
      · rfl

theorem onGrid?_reads {number : Binary64} {exponent : Int} {decimal : Decimal}
    (found : onGrid? number exponent = some decimal) :
    decimal.toBinary64? number.isNegative = some number := by
  simp only [onGrid?, beq_iff_eq] at found
  split at found
  · rename_i below
    split at found
    · rename_i above
      cases found
      rcases roundQuotient_neighbour (number.numerator * Nat.pow 10 (-exponent).toNat)
        (number.denominator * Nat.pow 10 exponent.toNat) with down | up
      · rw [down]
        exact below
      · rw [up]
        exact above
    · cases found
      exact below
  · split at found
    · rename_i above
      cases found
      exact above
    · cases found

theorem firstGrid?_reads {number : Binary64} {order : Int} {attempts digits : Nat}
    {decimal : Decimal} (found : firstGrid? number order attempts digits = some decimal) :
    decimal.toBinary64? number.isNegative = some number := by
  induction attempts generalizing digits with
  | zero => cases found
  | succ attempts inductionHypothesis =>
      unfold firstGrid? at found
      cases grid : onGrid? number (order - digits) with
      | some candidate =>
          rw [grid] at found
          cases found
          exact onGrid?_reads grid
      | none =>
          rw [grid] at found
          exact inductionHypothesis found

/-- The shortest decimal of a finite number reads back. -/
theorem toBinary64?_shortest {number : Binary64} (finite : number.isFinite = true) :
    (shortest number).toBinary64? number.isNegative = some number := by
  unfold shortest
  split
  · rename_i zero
    have noMagnitude : number.bits.toNat % signPlace = 0 := by
      rw [isZero, beq_iff_eq] at zero
      exact zero
    have itself := ofMagnitude_self number
    rw [noMagnitude] at itself
    simp only [toBinary64?, decide_true, Bool.true_or, if_true, itself]
  · rename_i nonzero
    simp only []
    rw [toBinary64?_congr _ (value_trimZeros _ _)]
    cases found : firstGrid? number (exact number).order 17 1 with
    | some decimal => exact firstGrid?_reads found
    | none => exact toBinary64?_exact finite (Bool.eq_false_iff.2 nonzero)

/-- Only zero has no digits. -/
theorem shortest_digits {number : Binary64} (finite : number.isFinite = true) :
    shortest number = ⟨0, 0⟩ ∨ (shortest number).digits ≠ 0 := by
  cases zero : number.isZero with
  | true =>
      left
      simp only [shortest, zero, if_true]
  | false =>
      right
      intro none
      have read := toBinary64?_shortest finite
      simp only [toBinary64?, none, decide_true, Bool.true_or, if_true, Option.some.injEq] at read
      have plain : (ofMagnitude number.isNegative 0).isZero = true := by
        cases number.isNegative <;> decide
      rw [read, zero] at plain
      cases plain

end Courier.Decimal
