import Courier.Number.Binary64

namespace Courier.Decimal

/-! The shortest decimal that reads back.

Among the decimals that read back to a number, `shortest` takes one with the
fewest digits, of those the nearest, and of two equally near ones the even one.
The grids of 1, 2, … 17 digits are tried in turn: on a grid only the two
neighbours of the exact value can read back if any point can.  The exact
expansion stands behind them, so there always is an answer. -/

/-- Drops trailing zeros of the digits, at most `count` of them. -/
def trimZeros : (count : Nat) → Decimal → Decimal
  | 0, decimal => decimal
  | count + 1, decimal =>
      if decimal.digits ≠ 0 && decimal.digits % 10 = 0 then
        trimZeros count ⟨decimal.digits / 10, decimal.exponent + 1⟩
      else decimal

/-- The exact value of a finite magnitude. -/
def exact (number : Binary64) : Decimal :=
  if 0 ≤ number.exponent then ⟨number.numerator, 0⟩
  else ⟨number.significand * Nat.pow 5 (-number.exponent).toNat, number.exponent⟩

/-- The decimal point on the grid of `10 ^ exponent` that reads back to the
number, the nearer of two. -/
def onGrid? (number : Binary64) (exponent : Int) : Option Decimal :=
  let dividend := number.numerator * Nat.pow 10 (-exponent).toNat
  let divisor := number.denominator * Nat.pow 10 exponent.toNat
  let below : Decimal := ⟨dividend / divisor, exponent⟩
  let above : Decimal := ⟨dividend / divisor + 1, exponent⟩
  let readsBack (decimal : Decimal) : Bool :=
    decimal.toBinary64? number.isNegative == some number
  if readsBack below then
    if readsBack above then some ⟨Binary64.roundQuotient dividend divisor, exponent⟩
    else some below
  else if readsBack above then some above
  else none

/-- The first grid, from `digits` digits on, with a decimal that reads back. -/
def firstGrid? (number : Binary64) (order : Int) : (attempts digits : Nat) → Option Decimal
  | 0, _ => none
  | attempts + 1, digits =>
      match onGrid? number (order - digits) with
      | some decimal => some decimal
      | none => firstGrid? number order attempts (digits + 1)

/-- The fewest digits that read back to a finite number, without its sign. -/
def shortest (number : Binary64) : Decimal :=
  if number.isZero then ⟨0, 0⟩
  else
    let whole := exact number
    let decimal := (firstGrid? number whole.order 17 1).getD whole
    trimZeros (digitsOf decimal.digits).length decimal

end Courier.Decimal
