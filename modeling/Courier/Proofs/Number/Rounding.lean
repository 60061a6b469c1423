import Mathlib.Data.Int.Log
import Mathlib.Data.Rat.Floor
import Mathlib.Tactic.FieldSimp
import Mathlib.Tactic.Linarith
import Mathlib.Tactic.NormNum
import Mathlib.Tactic.Ring
import Courier.Number.Binary64

namespace Courier.Binary64

/-! Rounding to double precision.

What a quotient rounds to depends on its value alone, not on how it is written
as a fraction.  The fraction of a finite number rounds to that number. -/

/-- A power of a base with an exponent of either sign, as a fraction of naturals. -/
theorem zpow_eq_div (base : Nat) (exponent : Int) :
    (base : ℚ) ^ exponent =
      (Nat.pow base exponent.toNat : Nat) / (Nat.pow base (-exponent).toNat : Nat) := by
  rcases Int.le_total 0 exponent with upward | downward
  · obtain ⟨power, rfl⟩ := Int.eq_ofNat_of_zero_le upward
    simp
  · obtain ⟨power, reversed⟩ := Int.eq_ofNat_of_zero_le (Int.neg_nonneg.2 downward)
    obtain rfl : exponent = -(power : Int) := by omega
    simp [zpow_neg]

/-! Quotients rounded to a natural. -/

theorem roundQuotient_mul {factor : Nat} (positive : 0 < factor) (dividend divisor : Nat) :
    roundQuotient (factor * dividend) (factor * divisor) = roundQuotient dividend divisor := by
  have below : 2 * (factor * (dividend % divisor)) < factor * divisor ↔
      2 * (dividend % divisor) < divisor := by
    rw [Nat.mul_left_comm]
    exact Nat.mul_lt_mul_left positive
  have halfway : 2 * (factor * (dividend % divisor)) = factor * divisor ↔
      2 * (dividend % divisor) = divisor := by
    rw [Nat.mul_left_comm]
    exact Nat.mul_right_inj (Nat.ne_of_gt positive)
  unfold roundQuotient
  simp only [Nat.mul_div_mul_left _ _ positive, Nat.mul_mod_mul_left, below, halfway]

/-- Equal quotients round to the same natural. -/
theorem roundQuotient_congr {dividend divisor otherDividend otherDivisor : Nat}
    (divides : 0 < divisor) (otherDivides : 0 < otherDivisor)
    (same : dividend * otherDivisor = otherDividend * divisor) :
    roundQuotient dividend divisor = roundQuotient otherDividend otherDivisor := by
  rw [← roundQuotient_mul otherDivides dividend, ← roundQuotient_mul divides otherDividend,
    Nat.mul_comm otherDivisor dividend, same, Nat.mul_comm otherDividend,
    Nat.mul_comm otherDivisor]

theorem roundQuotient_exact {divisor : Nat} (divides : 0 < divisor) (quotient : Nat) :
    roundQuotient (quotient * divisor) divisor = quotient := by
  unfold roundQuotient
  rw [Nat.mul_mod_left, Nat.mul_div_cancel _ divides]
  simp only [Nat.mul_zero, divides, if_true]

theorem roundQuotient_neighbour (dividend divisor : Nat) :
    roundQuotient dividend divisor = dividend / divisor ∨
      roundQuotient dividend divisor = dividend / divisor + 1 := by
  unfold roundQuotient
  simp only []
  split
  · exact .inl rfl
  · split
    · exact .inl rfl
    · exact .inr rfl

theorem roundQuotient_le {dividend divisor bound : Nat} (below : dividend < divisor * bound) :
    roundQuotient dividend divisor ≤ bound := by
  have quotient : dividend / divisor < bound := Nat.div_lt_of_lt_mul below
  rcases roundQuotient_neighbour dividend divisor with down | up <;> omega

/-! The binary order of a quotient. -/

theorem zpow_le_div_iff {dividend divisor : Nat} (divides : 0 < divisor) (exponent : Int) :
    (2 : ℚ) ^ exponent ≤ dividend / divisor ↔
      divisor * Nat.pow 2 exponent.toNat ≤ dividend * Nat.pow 2 (-exponent).toNat := by
  have bottom : (0 : ℚ) < (Nat.pow 2 (-exponent).toNat : Nat) := by
    exact_mod_cast Nat.pow_pos (by decide)
  have divisorPositive : (0 : ℚ) < divisor := by exact_mod_cast divides
  have power := zpow_eq_div 2 exponent
  rw [Nat.cast_ofNat] at power
  rw [power, div_le_div_iff₀ bottom divisorPositive]
  rw [Nat.mul_comm divisor]
  exact_mod_cast Iff.rfl

/-- The order is determined by the powers on both sides of the quotient. -/
theorem log_eq_of_between (base : Nat) (many : 1 < base) {value : ℚ} (positive : 0 < value)
    {order : Int} (below : (base : ℚ) ^ order ≤ value) (above : value < (base : ℚ) ^ (order + 1)) :
    Int.log base value = order := by
  have atLeast : order ≤ Int.log base value := (Int.zpow_le_iff_le_log many positive).1 below
  have atMost : Int.log base value < order + 1 := (Int.lt_zpow_iff_log_lt many positive).1 above
  omega

/-- The order is the integer logarithm of the quotient. -/
theorem binaryOrder_eq_log {dividend divisor : Nat} (positive : 0 < dividend)
    (divides : 0 < divisor) :
    binaryOrder dividend divisor = Int.log 2 ((dividend : ℚ) / divisor) := by
  have dividendPositive : (0 : ℚ) < dividend := by exact_mod_cast positive
  have divisorPositive : (0 : ℚ) < divisor := by exact_mod_cast divides
  have quotientPositive : (0 : ℚ) < (dividend : ℚ) / divisor :=
    div_pos dividendPositive divisorPositive
  have dividendBelow : (2 : ℚ) ^ dividend.log2 ≤ dividend := by
    exact_mod_cast Nat.log2_self_le (Nat.ne_of_gt positive)
  have dividendAbove : (dividend : ℚ) < 2 ^ (dividend.log2 + 1) := by
    exact_mod_cast Nat.lt_log2_self
  have divisorBelow : (2 : ℚ) ^ divisor.log2 ≤ divisor := by
    exact_mod_cast Nat.log2_self_le (Nat.ne_of_gt divides)
  have divisorAbove : (divisor : ℚ) < 2 ^ (divisor.log2 + 1) := by
    exact_mod_cast Nat.lt_log2_self
  obtain ⟨estimate, estimated⟩ : ∃ estimate : Int,
      estimate = (dividend.log2 : Int) - divisor.log2 := ⟨_, rfl⟩
  have above : (dividend : ℚ) / divisor < 2 ^ (estimate + 1) := by
    have power : (2 : ℚ) ^ (estimate + 1) = 2 ^ (dividend.log2 + 1) / 2 ^ divisor.log2 := by
      rw [← zpow_natCast, ← zpow_natCast, ← zpow_sub₀ (by norm_num), estimated]
      congr 1
      omega
    rw [power, div_lt_div_iff₀ divisorPositive (by positivity)]
    exact mul_lt_mul dividendAbove divisorBelow (by positivity) (by positivity)
  have below : (2 : ℚ) ^ (estimate - 1) ≤ dividend / divisor := by
    have power : (2 : ℚ) ^ (estimate - 1) = 2 ^ dividend.log2 / 2 ^ (divisor.log2 + 1) := by
      rw [← zpow_natCast, ← zpow_natCast, ← zpow_sub₀ (by norm_num), estimated]
      congr 1
      omega
    rw [power, div_le_div_iff₀ (by positivity) divisorPositive]
    gcongr
  unfold binaryOrder
  rw [← estimated]
  simp only [← zpow_le_div_iff divides]
  split
  · rename_i reached
    exact (log_eq_of_between 2 (by decide) quotientPositive
      (by exact_mod_cast reached) (by exact_mod_cast above)).symm
  · rename_i missed
    refine (log_eq_of_between 2 (by decide) quotientPositive
      (by exact_mod_cast below) ?_).symm
    rw [Int.sub_add_cancel]
    exact_mod_cast lt_of_not_ge missed

theorem binaryOrder_congr {dividend divisor otherDividend otherDivisor : Nat}
    (positive : 0 < dividend) (divides : 0 < divisor) (otherPositive : 0 < otherDividend)
    (otherDivides : 0 < otherDivisor)
    (same : dividend * otherDivisor = otherDividend * divisor) :
    binaryOrder dividend divisor = binaryOrder otherDividend otherDivisor := by
  rw [binaryOrder_eq_log positive divides, binaryOrder_eq_log otherPositive otherDivides]
  congr 1
  rw [div_eq_div_iff (by positivity) (by positivity)]
  exact_mod_cast same

/-! The magnitude nearest to a quotient. -/

theorem nearest_zero (divisor : Nat) : nearest 0 divisor = 0 := by
  simp only [nearest, if_true]

theorem nearest_eq {dividend divisor : Nat} (positive : 0 < dividend) {exponent : Int}
    (chosen : max (-1074) (binaryOrder dividend divisor - 52) = exponent) :
    nearest dividend divisor = (exponent + 1074).toNat * exponentPlace +
      roundQuotient (dividend * Nat.pow 2 (-exponent).toNat)
        (divisor * Nat.pow 2 exponent.toNat) := by
  subst chosen
  simp only [nearest, Nat.ne_of_gt positive, if_false]

/-- Equal quotients have the same nearest magnitude. -/
theorem nearest_congr {dividend divisor otherDividend otherDivisor : Nat}
    (divides : 0 < divisor) (otherDivides : 0 < otherDivisor)
    (same : dividend * otherDivisor = otherDividend * divisor) :
    nearest dividend divisor = nearest otherDividend otherDivisor := by
  rcases Nat.eq_zero_or_pos dividend with rfl | positive
  · have otherZero : otherDividend = 0 := by
      rw [Nat.zero_mul] at same
      exact (Nat.mul_eq_zero.1 same.symm).resolve_right (Nat.ne_of_gt divides)
    rw [otherZero, nearest_zero, nearest_zero]
  · have product : 0 < otherDividend * divisor := same ▸ Nat.mul_pos positive otherDivides
    have otherPositive : 0 < otherDividend := Nat.pos_of_mul_pos_right product
    have order := binaryOrder_congr positive divides otherPositive otherDivides same
    rw [nearest_eq positive rfl, nearest_eq otherPositive rfl, order]
    rw [roundQuotient_congr]
    · exact Nat.mul_pos divides (Nat.pow_pos (by decide))
    · exact Nat.mul_pos otherDivides (Nat.pow_pos (by decide))
    · rw [Nat.mul_mul_mul_comm, same, Nat.mul_mul_mul_comm]

/-- On the grid of the chosen exponent a quotient has at most 53 bits. -/
theorem roundQuotient_le_significand {dividend divisor : Nat} (positive : 0 < dividend)
    (divides : 0 < divisor) {exponent : Int}
    (fine : binaryOrder dividend divisor - 52 ≤ exponent) :
    roundQuotient (dividend * Nat.pow 2 (-exponent).toNat)
      (divisor * Nat.pow 2 exponent.toNat) ≤ 2 * exponentPlace := by
  have above : (dividend : ℚ) / divisor < 2 ^ (exponent + 53) := by
    rw [binaryOrder_eq_log positive divides] at fine
    refine lt_of_lt_of_le (Int.lt_zpow_succ_log_self (b := 2) (by decide) _) ?_
    push_cast
    exact zpow_le_zpow_right₀ (by norm_num) (by omega)
  have narrowed : ¬ (2 : ℚ) ^ exponent ≤ dividend / (divisor * (2 * exponentPlace) : Nat) := by
    have bits : ((2 * exponentPlace : Nat) : ℚ) = 2 ^ (53 : Int) := by norm_num [exponentPlace]
    rw [not_le, Nat.cast_mul, bits, ← div_div, div_lt_iff₀ (by positivity),
      ← zpow_add₀ (by norm_num)]
    exact above
  rw [zpow_le_div_iff] at narrowed
  · apply roundQuotient_le
    rw [Nat.mul_right_comm]
    exact Nat.lt_of_not_ge narrowed
  · exact Nat.mul_pos divides (by decide)

/-- A quotient below `2 ^ 1023` is not too large. -/
theorem nearest_lt_infiniteMagnitude {dividend divisor : Nat} (divides : 0 < divisor)
    (small : (dividend : ℚ) / divisor < 2 ^ 1023) :
    nearest dividend divisor < infiniteMagnitude := by
  rcases Nat.eq_zero_or_pos dividend with rfl | positive
  · rw [nearest_zero]
    decide
  · have quotientPositive : (0 : ℚ) < (dividend : ℚ) / divisor := by positivity
    have low : binaryOrder dividend divisor < 1023 := by
      rw [binaryOrder_eq_log positive divides]
      refine (Int.lt_zpow_iff_log_lt (by decide) quotientPositive).1 ?_
      exact_mod_cast small
    obtain ⟨exponent, chosen⟩ : ∃ exponent,
        max (-1074) (binaryOrder dividend divisor - 52) = exponent := ⟨_, rfl⟩
    have fine : binaryOrder dividend divisor - 52 ≤ exponent := by omega
    have significand := roundQuotient_le_significand positive divides fine
    have field : (exponent + 1074).toNat ≤ 2044 := by omega
    rw [nearest_eq positive chosen]
    simp only [infiniteMagnitude, lastExponent, exponentPlace] at *
    omega

/-! Finite numbers. -/

theorem isFinite_iff (number : Binary64) :
    number.isFinite = true ↔ number.bits.toNat % signPlace < infiniteMagnitude := by
  unfold isFinite fieldExponent
  rw [bne_iff_ne]
  have wide := number.bits.toNat_lt
  simp only [exponentPlace, lastExponent, signPlace, infiniteMagnitude]
  omega

theorem magnitude_eq_fields (number : Binary64) :
    number.bits.toNat % signPlace =
      number.fieldExponent * exponentPlace + number.fieldFraction := by
  have wide := number.bits.toNat_lt
  simp only [fieldExponent, fieldFraction, exponentPlace, lastExponent, signPlace]
  omega

theorem significand_lt (number : Binary64) : number.significand < 2 * exponentPlace := by
  have fraction : number.fieldFraction < exponentPlace := Nat.mod_lt _ (by decide)
  unfold significand
  split <;> omega

theorem significand_eq_zero_iff {number : Binary64} :
    number.significand = 0 ↔ number.bits.toNat % signPlace = 0 := by
  rw [magnitude_eq_fields]
  unfold significand
  simp only [exponentPlace]
  split <;> omega

theorem exponent_lt {number : Binary64} (finite : number.isFinite = true) :
    number.exponent < 972 := by
  rw [isFinite_iff, magnitude_eq_fields] at finite
  simp only [infiniteMagnitude, exponentPlace, lastExponent] at finite
  unfold exponent
  omega

theorem ofMagnitude_self (number : Binary64) :
    ofMagnitude number.isNegative (number.bits.toNat % signPlace) = number := by
  have wide := number.bits.toNat_lt
  refine congrArg Binary64.mk (UInt64.toNat_inj.1 ?_)
  rw [UInt64.toNat_ofNat']
  by_cases negative : signPlace ≤ number.bits.toNat
  · rw [isNegative, decide_eq_true negative, if_pos rfl]
    simp only [signPlace] at negative ⊢
    omega
  · rw [isNegative, decide_eq_false negative, if_neg Bool.false_ne_true]
    simp only [signPlace] at negative ⊢
    omega

theorem toNat_ofMagnitude (negative : Bool) {magnitude : Nat} (small : magnitude < signPlace) :
    (ofMagnitude negative magnitude).bits.toNat =
      magnitude + if negative then signPlace else 0 := by
  simp only [ofMagnitude, UInt64.toNat_ofNat', signPlace] at small ⊢
  split <;> omega

theorem isFinite_ofMagnitude (negative : Bool) {magnitude : Nat}
    (small : magnitude < infiniteMagnitude) : (ofMagnitude negative magnitude).isFinite = true := by
  have below : magnitude < signPlace := Nat.lt_trans small (by decide)
  rw [isFinite_iff, toNat_ofMagnitude negative below]
  split
  · rw [Nat.add_mod_right, Nat.mod_eq_of_lt below]
    exact small
  · rw [Nat.add_zero, Nat.mod_eq_of_lt below]
    exact small

theorem isFinite_of_ofQuotient? {negative : Bool} {dividend divisor : Nat} {number : Binary64}
    (rounded : ofQuotient? negative dividend divisor = some number) : number.isFinite = true := by
  simp only [ofQuotient?] at rounded
  split at rounded
  · rename_i small
    cases rounded
    exact isFinite_ofMagnitude negative small
  · cases rounded

/-- The value of a finite number, as the fraction that it stands for. -/
theorem numerator_div_denominator (number : Binary64) :
    (number.numerator : ℚ) / number.denominator = number.significand * 2 ^ number.exponent := by
  have power := zpow_eq_div 2 number.exponent
  rw [Nat.cast_ofNat] at power
  rw [power, numerator, denominator, Nat.cast_mul, mul_div_assoc]

/-- The exponent of a number is the one that is chosen for rounding its fraction. -/
theorem exponent_chosen {number : Binary64} (positive : 0 < number.significand) :
    max (-1074) (binaryOrder number.numerator number.denominator - 52) = number.exponent := by
  have divides : 0 < number.denominator := Nat.pow_pos (by decide)
  have whole : 0 < number.numerator := Nat.mul_pos positive (Nat.pow_pos (by decide))
  have unit : (0 : ℚ) < 2 ^ number.exponent := zpow_pos (by norm_num) _
  have valuePositive : (0 : ℚ) < number.significand * 2 ^ number.exponent :=
    mul_pos (by exact_mod_cast positive) unit
  obtain ⟨order, ordered⟩ : ∃ order,
      Int.log 2 ((number.significand : ℚ) * 2 ^ number.exponent) = order := ⟨_, rfl⟩
  have upper : order < 53 + number.exponent := by
    rw [← ordered]
    refine (Int.lt_zpow_iff_log_lt (by decide) valuePositive).1 ?_
    rw [zpow_add₀ (by norm_num)]
    refine mul_lt_mul_of_pos_right ?_ unit
    exact_mod_cast significand_lt number
  have lower : number.fieldExponent = 0 ∨ 52 + number.exponent ≤ order := by
    rcases Nat.eq_zero_or_pos number.fieldExponent with subnormal | normal
    · exact .inl subnormal
    · right
      have leading : exponentPlace ≤ number.significand := by
        unfold significand
        rw [if_neg (Nat.ne_of_gt normal)]
        exact Nat.le_add_right _ _
      rw [← ordered]
      refine (Int.zpow_le_iff_le_log (by decide) valuePositive).1 ?_
      rw [zpow_add₀ (by norm_num)]
      refine mul_le_mul_of_nonneg_right ?_ unit.le
      exact_mod_cast leading
  rw [binaryOrder_eq_log whole divides, numerator_div_denominator, ordered]
  unfold exponent at *
  omega

/-- The number nearest to its own fraction is the number itself. -/
theorem nearest_self (number : Binary64) :
    nearest number.numerator number.denominator = number.bits.toNat % signPlace := by
  have magnitude := magnitude_eq_fields number
  rcases Nat.eq_zero_or_pos number.significand with zero | positive
  · rw [numerator, zero, Nat.zero_mul, nearest_zero]
    exact (significand_eq_zero_iff.1 zero).symm
  · have divides : 0 < number.denominator := Nat.pow_pos (by decide)
    have whole : 0 < number.numerator := Nat.mul_pos positive (Nat.pow_pos (by decide))
    have chosen := exponent_chosen positive
    have scale : 0 < number.denominator * Nat.pow 2 number.exponent.toNat :=
      Nat.mul_pos divides (Nat.pow_pos (by decide))
    have scaled : number.numerator * Nat.pow 2 (-number.exponent).toNat =
        number.significand * (number.denominator * Nat.pow 2 number.exponent.toNat) := by
      rw [numerator, denominator, Nat.mul_assoc, Nat.mul_comm (Nat.pow 2 number.exponent.toNat)]
    rw [nearest_eq whole chosen, scaled, roundQuotient_exact scale, magnitude]
    unfold exponent significand
    simp only [exponentPlace]
    split <;> omega

end Courier.Binary64
