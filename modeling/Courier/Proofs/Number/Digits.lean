import Courier.Number.Binary64
import Mathlib.Algebra.Group.Nat.Defs

namespace Courier.Decimal

/-! Decimal digits, written and read. -/

/-- The digits of a number are read as digits of the base ten. -/
theorem ofDigits_eq (digits : List Char) : ofDigits digits = Nat.ofDigitChars 10 digits 0 := by
  have step : (fun value (digit : Char) => value * 10 + (digit.toNat - '0'.toNat)) =
      fun value digit => 10 * value + (digit.toNat - '0'.toNat) := by
    funext value digit
    rw [Nat.mul_comm]
  rw [ofDigits, step, Nat.ofDigitChars_eq_foldl]

theorem ofDigits_digitsOf (value : Nat) : ofDigits (digitsOf value) = value := by
  rw [ofDigits_eq]
  exact Nat.ofDigitChars_ten_toDigits

theorem ofDigits_zeros_append (count : Nat) (digits : List Char) :
    ofDigits (List.replicate count '0' ++ digits) = ofDigits digits := by
  rw [ofDigits_eq, ofDigits_eq, Nat.ofDigitChars_append, Nat.ofDigitChars_replicate_zero,
    Nat.mul_zero]

theorem ofDigits_append_zeros (digits : List Char) (count : Nat) :
    ofDigits (digits ++ List.replicate count '0') = ofDigits digits * 10 ^ count := by
  rw [ofDigits_eq, ofDigits_eq, Nat.ofDigitChars_append, Nat.ofDigitChars_replicate_zero,
    Nat.mul_comm]

theorem isDigit_of_mem_digitsOf {value : Nat} {character : Char}
    (member : character ∈ digitsOf value) : character.isDigit = true :=
  Nat.isDigit_of_mem_toDigits (by decide) (by decide) member

/-- Digits of a whole number: at least one, and no zero in front of another one. -/
structure Whole (digits : List Char) : Prop where
  digit : ∀ character ∈ digits, character.isDigit = true
  nonempty : digits ≠ []
  leading : digits.head? = some '0' → digits = ['0']

theorem digitsOf_leading {value : Nat} (leading : (digitsOf value).head? = some '0') :
    value = 0 := by
  induction value using Nat.base_induction 10 (by decide) with
  | single value small =>
      rw [digitsOf, Nat.toDigits_of_lt_base small] at leading
      have zero : value.digitChar = '0' := Option.some.inj leading
      have itself := Nat.toNat_digitChar_sub_48_of_lt_ten small
      rw [zero] at itself
      exact itself.symm
  | digit value digit small positive inductionHypothesis =>
      rw [digitsOf, ← Nat.toDigits_append_toDigits (by decide) positive small, List.head?_append,
        List.head?_eq_some_head Nat.toDigits_ne_nil, Option.some_or,
        ← List.head?_eq_some_head Nat.toDigits_ne_nil] at leading
      exact absurd (inductionHypothesis leading) (Nat.ne_of_gt positive)

theorem whole_digitsOf (value : Nat) : Whole (digitsOf value) where
  digit := fun _ member => isDigit_of_mem_digitsOf member
  nonempty := Nat.toDigits_ne_nil
  leading := by
    intro leading
    rw [digitsOf_leading leading]
    rfl

theorem whole_single {digit : Char} (isDigit : digit.isDigit = true) : Whole [digit] where
  digit := fun _ member => List.mem_singleton.1 member ▸ isDigit
  nonempty := List.cons_ne_nil _ _
  leading := fun leading => congrArg (fun first => [first]) (Option.some.inj leading)

/-- A whole number that does not start with a zero may go on with more digits. -/
theorem Whole.append {digits more : List Char} (whole : Whole digits)
    (started : digits.head? ≠ some '0')
    (others : ∀ character ∈ more, character.isDigit = true) : Whole (digits ++ more) where
  digit := fun character member =>
    (List.mem_append.1 member).elim (whole.digit character) (others character)
  nonempty := List.append_ne_nil_of_left_ne_nil whole.nonempty more
  leading := by
    intro leading
    rw [List.head?_append, List.head?_eq_some_head whole.nonempty, Option.some_or,
      ← List.head?_eq_some_head whole.nonempty] at leading
    exact absurd leading started

/-- The front of several digits, the first of which is not a zero unless it is
the only one. -/
theorem Whole.take {digits : List Char} (whole : Whole digits) {count : Nat} (some : 0 < count)
    (short : count < digits.length) : Whole (digits.take count) where
  digit := fun character member => whole.digit character (List.mem_of_mem_take member)
  nonempty := by
    rw [ne_eq, List.take_eq_nil_iff]
    rintro (none | none)
    · omega
    · exact whole.nonempty none
  leading := by
    intro leading
    rw [List.head?_take, if_neg (Nat.ne_of_gt some)] at leading
    rw [whole.leading leading, List.length_singleton] at short
    omega

theorem isDigit_of_mem_zeros {count : Nat} {character : Char}
    (member : character ∈ List.replicate count '0') : character.isDigit = true := by
  rw [List.eq_of_mem_replicate member]
  rfl

end Courier.Decimal
