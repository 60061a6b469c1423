import Courier.Json.Printer
import Courier.Json.Reader
import Courier.Proofs.Number.Digits
import Courier.Proofs.Number.Shortest

namespace Courier.Json

open Decimal

/-! Numbers as they are written, read back.

A number ends where a comma or a bracket stands, or with the text.  Written
integers read back as integers, and a written double as a decimal of the same
value, in each of the layouts. -/

/-- The text goes on behind a document: it ends, or a list or an object goes on. -/
def Delimited (rest : List Char) : Prop :=
  ∀ character ∈ rest.head?, character = ',' ∨ character = ']' ∨ character = '\x7d'

/-- The text does not go on with a digit. -/
def Apart (rest : List Char) : Prop :=
  ∀ character ∈ rest.head?, character.isDigit = false

theorem delimited_nil : Delimited [] := by
  intro character first
  cases first

theorem apart_cons {character : Char} (other : character.isDigit = false) (rest : List Char) :
    Apart (character :: rest) := by
  intro first same
  cases same
  exact other

theorem Delimited.apart {rest : List Char} (delimited : Delimited rest) : Apart rest := by
  intro character first
  rcases delimited character first with rfl | rfl | rfl <;> decide

theorem takeWhile_digits {digits rest : List Char}
    (all : ∀ character ∈ digits, character.isDigit = true) (apart : Apart rest) :
    (digits ++ rest).takeWhile Char.isDigit = digits := by
  rw [List.takeWhile_append_of_pos all]
  cases rest with
  | nil => rw [List.takeWhile_nil, List.append_nil]
  | cons character rest =>
      rw [List.takeWhile_cons_of_neg (by rw [apart character rfl]; decide), List.append_nil]

theorem dropWhile_digits {digits rest : List Char}
    (all : ∀ character ∈ digits, character.isDigit = true) (apart : Apart rest) :
    (digits ++ rest).dropWhile Char.isDigit = rest := by
  rw [List.dropWhile_append_of_pos all]
  cases rest with
  | nil => rfl
  | cons character rest =>
      rw [List.dropWhile_cons_of_neg (by rw [apart character rfl]; decide)]

/-! The parts of a number. -/

theorem readNumber_whole {digits rest : List Char} (negative : Bool) (whole : Whole digits)
    (apart : Apart rest) :
    readNumber negative (digits ++ rest) = readFraction negative digits rest := by
  have front := takeWhile_digits whole.digit apart
  have back := dropWhile_digits whole.digit apart
  cases digits with
  | nil => exact absurd rfl whole.nonempty
  | cons digit digits =>
      by_cases zero : digit = '0'
      · subst zero
        obtain rfl : digits = [] := List.tail_eq_of_cons_eq (whole.leading rfl)
        cases rest with
        | nil => rfl
        | cons character rest =>
            simp only [List.cons_append, List.nil_append, readNumber, apart character rfl,
              Bool.false_eq_true, if_false]
      · rw [List.cons_append] at front back ⊢
        rw [readNumber]
        · rw [if_pos (whole.digit digit List.mem_cons_self), front, back]
        · exact zero

theorem finishNumber_delimited {negative : Bool} {whole fraction rest : List Char} {plain : Bool}
    {document : Json} (delimited : Delimited rest)
    (found : number? negative whole fraction 0 plain = some document) :
    finishNumber negative whole fraction rest plain = .ok (document, rest) := by
  cases rest with
  | nil => simp only [finishNumber, found]
  | cons mark rest =>
      have other : ¬ ((mark = 'e' || mark = 'E') = true) := by
        rcases delimited mark rfl with rfl | rfl | rfl <;> decide
      simp only [finishNumber, found]
      rw [if_neg other]

theorem readExponent_renderExponent {exponent : Int} {rest : List Char} (apart : Apart rest) :
    ∃ behind, renderExponent exponent ++ rest = 'e' :: behind ∧
      readExponent behind = .ok (exponent, rest) := by
  have whole := whole_digitsOf exponent.natAbs
  have front := takeWhile_digits whole.digit apart
  have back := dropWhile_digits whole.digit apart
  have value := ofDigits_digitsOf exponent.natAbs
  cases shape : digitsOf exponent.natAbs with
  | nil => exact absurd shape whole.nonempty
  | cons digit digits =>
      rw [shape] at front back value
      have first : digit.isDigit = true := whole.digit digit (shape ▸ List.mem_cons_self)
      rw [List.cons_append] at front back
      unfold renderExponent
      split
      · rename_i below
        refine ⟨'-' :: digit :: (digits ++ rest), by rw [shape]; rfl, ?_⟩
        have magnitude : -(exponent.natAbs : Int) = exponent := by omega
        simp only [readExponent, exponentSign, first, front, back, value, magnitude, if_true]
      · rename_i above
        refine ⟨'+' :: digit :: (digits ++ rest), by rw [shape]; rfl, ?_⟩
        have magnitude : (exponent.natAbs : Int) = exponent := by omega
        simp only [readExponent, exponentSign, first, front, back, value, magnitude, if_true,
          Bool.false_eq_true, if_false]

theorem finishNumber_renderExponent {negative : Bool} {whole fraction rest : List Char}
    {exponent : Int} {plain : Bool} {document : Json} (apart : Apart rest)
    (found : number? negative whole fraction exponent false = some document) :
    finishNumber negative whole fraction (renderExponent exponent ++ rest) plain =
      .ok (document, rest) := by
  obtain ⟨behind, written, read⟩ :
      ∃ behind, renderExponent exponent ++ rest = 'e' :: behind ∧
        readExponent behind = .ok (exponent, rest) := readExponent_renderExponent apart
  rw [written]
  simp only [finishNumber, read, found]
  rfl

theorem readFraction_plain {negative : Bool} {whole rest : List Char}
    (other : rest.head? ≠ some '.') :
    readFraction negative whole rest = finishNumber negative whole [] rest true := by
  rw [readFraction]
  intro behind same
  rw [same] at other
  exact other rfl

theorem Delimited.noPoint {rest : List Char} (delimited : Delimited rest) :
    rest.head? ≠ some '.' := by
  intro first
  rcases delimited '.' first with same | same | same <;> cases same

theorem readFraction_point {negative : Bool} {whole fraction rest : List Char}
    (all : ∀ character ∈ fraction, character.isDigit = true) (nonempty : fraction ≠ [])
    (apart : Apart rest) :
    readFraction negative whole ('.' :: (fraction ++ rest)) =
      finishNumber negative whole fraction rest false := by
  have front := takeWhile_digits all apart
  have back := dropWhile_digits all apart
  cases fraction with
  | nil => exact absurd rfl nonempty
  | cons digit fraction =>
      simp only [readFraction, front, back]

/-! Integers. -/

theorem readNumber_natural {value : Nat} {rest : List Char} (small : value < UInt64.size)
    (delimited : Delimited rest) :
    readNumber false (digitsOf value ++ rest) = .ok (.integer value, rest) := by
  rw [readNumber_whole false (whole_digitsOf value) delimited.apart,
    readFraction_plain delimited.noPoint]
  apply finishNumber_delimited delimited
  simp only [number?, ofDigits_digitsOf, Bool.and_false, Bool.false_and, Bool.false_eq_true,
    if_false, Bool.not_false, Bool.and_true, small, decide_true, if_true]

theorem readNumber_negative {value : Int} {rest : List Char} (below : value < 0)
    (fits : isInt64 value = true) (delimited : Delimited rest) :
    readNumber true (digitsOf value.natAbs ++ rest) = .ok (.integer value, rest) := by
  have magnitude : -(value.natAbs : Int) = value := by omega
  have nonzero : value.natAbs ≠ 0 := by omega
  rw [readNumber_whole true (whole_digitsOf value.natAbs) delimited.apart,
    readFraction_plain delimited.noPoint]
  apply finishNumber_delimited delimited
  simp only [number?, ofDigits_digitsOf, magnitude, nonzero, fits, Bool.and_true, ne_eq,
    not_false_eq_true, decide_true, if_true]

/-! Doubles. -/

theorem number?_of_value {number : Binary64} {decimal : Decimal} {whole fraction : List Char}
    {exponent : Int} {negative : Bool} (read : decimal.toBinary64? negative = some number)
    (same : (⟨ofDigits (whole ++ fraction), exponent - fraction.length⟩ : Decimal).value =
      decimal.value) :
    number? negative whole fraction exponent false = some (.double number) := by
  simp only [number?, Bool.false_and, Bool.false_eq_true, if_false]
  rw [toBinary64?_congr negative same, read, Option.map_some]

/-- Zeros written out behind the digits, and one behind the point. -/
theorem value_shift {decimal : Decimal} {zeros : Nat} (counted : decimal.exponent = zeros) :
    (⟨decimal.digits * 10 ^ (zeros + 1), 0 - (1 : Nat)⟩ : Decimal).value = decimal.value := by
  have tenth : (0 : Int) - (1 : Nat) = -1 := rfl
  rw [Decimal.value, Decimal.value, counted, tenth, zpow_natCast, Nat.cast_mul, Nat.cast_pow,
    Nat.cast_ofNat, pow_succ, zpow_neg_one]
  field_simp

theorem readNumber_point {number : Binary64} {decimal : Decimal} {negative : Bool}
    {whole fraction rest : List Char} (read : decimal.toBinary64? negative = some number)
    (started : Whole whole) (all : ∀ character ∈ fraction, character.isDigit = true)
    (nonempty : fraction ≠ [])
    (same : (⟨ofDigits (whole ++ fraction), 0 - fraction.length⟩ : Decimal).value = decimal.value)
    (delimited : Delimited rest) :
    readNumber negative (whole ++ '.' :: fraction ++ rest) = .ok (.double number, rest) := by
  rw [List.append_assoc, List.cons_append, readNumber_whole negative started (apart_cons rfl _),
    readFraction_point all nonempty delimited.apart]
  exact finishNumber_delimited delimited (number?_of_value read same)

theorem head_renderExponent (exponent : Int) (rest : List Char) :
    (renderExponent exponent ++ rest).head? = some 'e' := by
  unfold renderExponent
  split <;> rfl

theorem apart_renderExponent (exponent : Int) (rest : List Char) :
    Apart (renderExponent exponent ++ rest) := by
  intro character first
  rw [head_renderExponent] at first
  cases first
  rfl

theorem readNumber_exponent {number : Binary64} {decimal : Decimal} {negative : Bool}
    {whole rest : List Char} {exponent : Int} (read : decimal.toBinary64? negative = some number)
    (started : Whole whole) (same : (⟨ofDigits whole, exponent⟩ : Decimal).value = decimal.value)
    (delimited : Delimited rest) :
    readNumber negative (whole ++ (renderExponent exponent ++ rest)) =
      .ok (.double number, rest) := by
  have noPoint : (renderExponent exponent ++ rest).head? ≠ some '.' := by
    rw [head_renderExponent]
    decide
  rw [readNumber_whole negative started (apart_renderExponent exponent rest),
    readFraction_plain noPoint]
  refine finishNumber_renderExponent delimited.apart (number?_of_value read ?_)
  rw [List.append_nil, List.length_nil, Int.natCast_zero, Int.sub_zero]
  exact same

theorem readNumber_point_exponent {number : Binary64} {decimal : Decimal} {negative : Bool}
    {whole fraction rest : List Char} {exponent : Int}
    (read : decimal.toBinary64? negative = some number) (started : Whole whole)
    (all : ∀ character ∈ fraction, character.isDigit = true) (nonempty : fraction ≠ [])
    (same : (⟨ofDigits (whole ++ fraction), exponent - fraction.length⟩ : Decimal).value =
      decimal.value) (delimited : Delimited rest) :
    readNumber negative (whole ++ '.' :: (fraction ++ (renderExponent exponent ++ rest))) =
      .ok (.double number, rest) := by
  rw [readNumber_whole negative started (apart_cons rfl _),
    readFraction_point all nonempty (apart_renderExponent exponent rest)]
  exact finishNumber_renderExponent delimited.apart (number?_of_value read same)

/-! The layouts of a decimal. -/

section

variable {number : Binary64} {decimal : Decimal} {negative : Bool} {digits rest : List Char}

theorem value_eq_of_digits {exponent : Int} (value : ofDigits digits = decimal.digits)
    (placed : exponent = decimal.exponent) :
    (⟨ofDigits digits, exponent⟩ : Decimal).value = decimal.value := by
  rw [value, placed]

/-- A whole number with its zeros written out. -/
theorem readNumber_padded {zeros : Nat} (read : decimal.toBinary64? negative = some number)
    (value : ofDigits digits = decimal.digits) (counted : decimal.exponent = zeros)
    (padded : Whole (digits ++ List.replicate zeros '0')) (delimited : Delimited rest) :
    readNumber negative (digits ++ List.replicate zeros '0' ++ ['.', '0'] ++ rest) =
      .ok (.double number, rest) := by
  apply readNumber_point read padded
  · intro character member
    rw [List.mem_singleton.1 member]
    rfl
  · exact List.cons_ne_nil _ _
  · rw [List.append_assoc, ← List.replicate_succ', ofDigits_append_zeros, value]
    exact value_shift counted
  · exact delimited

/-- The point stands among the digits. -/
theorem readNumber_among {count : Nat} (read : decimal.toBinary64? negative = some number)
    (value : ofDigits digits = decimal.digits) (started : Whole digits) (some : 0 < count)
    (short : count < digits.length)
    (placed : decimal.exponent = (count : Int) - digits.length) (delimited : Delimited rest) :
    readNumber negative (digits.take count ++ '.' :: digits.drop count ++ rest) =
      .ok (.double number, rest) := by
  apply readNumber_point read (started.take some short)
  · intro character member
    exact started.digit character (List.mem_of_mem_drop member)
  · rw [ne_eq, List.drop_eq_nil_iff]
    omega
  · rw [List.take_append_drop, List.length_drop]
    apply value_eq_of_digits value
    omega
  · exact delimited

/-- Zeros stand between the point and the digits. -/
theorem readNumber_small {zeros : Nat} (read : decimal.toBinary64? negative = some number)
    (value : ofDigits digits = decimal.digits) (started : Whole digits)
    (placed : decimal.exponent = -(zeros : Int) - digits.length) (delimited : Delimited rest) :
    readNumber negative (['0', '.'] ++ List.replicate zeros '0' ++ digits ++ rest) =
      .ok (.double number, rest) := by
  have pointed : ['0', '.'] ++ List.replicate zeros '0' ++ digits ++ rest =
      ['0'] ++ '.' :: (List.replicate zeros '0' ++ digits) ++ rest := by
    simp only [List.cons_append, List.nil_append]
  rw [pointed]
  apply readNumber_point read (whole_single rfl)
  · intro character member
    exact (List.mem_append.1 member).elim isDigit_of_mem_zeros (started.digit character)
  · exact List.append_ne_nil_of_right_ne_nil _ started.nonempty
  · have shifted : ['0'] ++ (List.replicate zeros '0' ++ digits) =
        List.replicate (zeros + 1) '0' ++ digits := by
      rw [List.replicate_succ]
      rfl
    rw [shifted, ofDigits_zeros_append, List.length_append, List.length_replicate]
    apply value_eq_of_digits value
    omega
  · exact delimited

/-- A single digit and an exponent. -/
theorem readNumber_single {digit : Char} {exponent : Int}
    (read : decimal.toBinary64? negative = some number)
    (value : ofDigits [digit] = decimal.digits) (started : Whole [digit])
    (placed : exponent = decimal.exponent) (delimited : Delimited rest) :
    readNumber negative (digit :: renderExponent exponent ++ rest) =
      .ok (.double number, rest) := by
  rw [List.cons_append, ← List.singleton_append]
  exact readNumber_exponent read started (value_eq_of_digits value placed) delimited

/-- A digit, a fraction and an exponent. -/
theorem readNumber_scientific {digit : Char} {fraction : List Char} {exponent : Int}
    (read : decimal.toBinary64? negative = some number)
    (value : ofDigits (digit :: fraction) = decimal.digits) (started : Whole (digit :: fraction))
    (several : fraction ≠ []) (placed : exponent - fraction.length = decimal.exponent)
    (delimited : Delimited rest) :
    readNumber negative (digit :: '.' :: (fraction ++ renderExponent exponent) ++ rest) =
      .ok (.double number, rest) := by
  rw [List.cons_append, List.cons_append, List.append_assoc, ← List.singleton_append]
  refine readNumber_point_exponent read (whole_single ?_) ?_ several ?_ delimited
  · exact started.digit digit List.mem_cons_self
  · exact fun character member => started.digit character (List.mem_cons_of_mem _ member)
  · exact value_eq_of_digits value placed

end

/-- A written decimal reads back, in whichever layout it is written. -/
theorem readNumber_renderDecimal {number : Binary64} {decimal : Decimal} {negative : Bool}
    {rest : List Char} (shape : decimal = ⟨0, 0⟩ ∨ decimal.digits ≠ 0)
    (read : decimal.toBinary64? negative = some number) (delimited : Delimited rest) :
    readNumber negative (renderDecimal decimal ++ rest) = .ok (.double number, rest) := by
  have started := whole_digitsOf decimal.digits
  have value := ofDigits_digitsOf decimal.digits
  have order : decimal.order = (digitsOf decimal.digits).length + decimal.exponent := rfl
  have nonzero : decimal.digits ≠ 0 → (digitsOf decimal.digits).head? ≠ some '0' :=
    fun nonzero leading => nonzero (digitsOf_leading leading)
  obtain ⟨digits, written⟩ : ∃ digits, digitsOf decimal.digits = digits := ⟨_, rfl⟩
  rw [written] at started value order nonzero
  unfold renderDecimal
  simp only [written]
  split
  · split
    · rename_i whole
      obtain ⟨zeros, counted⟩ : ∃ zeros : Nat, decimal.exponent = zeros :=
        Int.eq_ofNat_of_zero_le whole
      rw [counted, Int.toNat_natCast]
      refine readNumber_padded read value counted ?_ delimited
      rcases shape with rfl | positive
      · obtain rfl : zeros = 0 := Int.natCast_eq_zero.1 counted.symm
        rw [List.replicate_zero, List.append_nil]
        exact started
      · exact started.append (nonzero positive) fun _ => isDigit_of_mem_zeros
    · rename_i fractional
      split
      · apply readNumber_among read value started <;> omega
      · exact readNumber_small read value started (by omega) delimited
  · split
    · exact absurd rfl started.nonempty
    · refine readNumber_single read value started ?_ delimited
      rw [order, List.length_singleton]
      omega
    · rename_i digit fraction several
      refine readNumber_scientific read value started several ?_ delimited
      rw [order, List.length_cons]
      omega

end Courier.Json
