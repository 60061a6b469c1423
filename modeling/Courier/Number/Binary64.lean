namespace Courier

/-! Double-precision numbers by their 64 bits.

A number is stored as the bits of its interchange form, so every payload of a
NaN and both zeros stay apart.  A finite magnitude is `significand · 2 ^ exponent`.
`nearest` finds the magnitude closest to a quotient of two naturals: it rounds
the quotient on the grid of the right exponent, and since the bits of a
magnitude count magnitudes in order, a carry moves into the exponent field by
itself. -/

structure Binary64 where
  bits : UInt64
deriving DecidableEq, Repr

namespace Binary64

/-- The place of the exponent field: above 52 bits of fraction. -/
def exponentPlace : Nat := 0x10000000000000

/-- The place of the sign bit. -/
def signPlace : Nat := 0x8000000000000000

/-- The exponent field of infinities and NaNs, all of its 11 bits set. -/
def lastExponent : Nat := 0x7FF

def fieldExponent (number : Binary64) : Nat :=
  number.bits.toNat / exponentPlace % (lastExponent + 1)

def fieldFraction (number : Binary64) : Nat :=
  number.bits.toNat % exponentPlace

def isNegative (number : Binary64) : Bool :=
  signPlace ≤ number.bits.toNat

def isFinite (number : Binary64) : Bool :=
  number.fieldExponent != lastExponent

def isNaN (number : Binary64) : Bool :=
  number.fieldExponent == lastExponent && number.fieldFraction != 0

def isZero (number : Binary64) : Bool :=
  number.bits.toNat % signPlace == 0

/-- Numeric equality: a NaN equals nothing and the two zeros are equal. -/
def equals (left right : Binary64) : Bool :=
  !left.isNaN && !right.isNaN && (left.bits == right.bits || (left.isZero && right.isZero))

/-- The integer that `2 ^ exponent` scales to the magnitude. -/
def significand (number : Binary64) : Nat :=
  if number.fieldExponent = 0 then number.fieldFraction
  else exponentPlace + number.fieldFraction

def exponent (number : Binary64) : Int :=
  (max number.fieldExponent 1 : Nat) - 1075

def numerator (number : Binary64) : Nat :=
  number.significand * Nat.pow 2 number.exponent.toNat

def denominator (number : Binary64) : Nat :=
  Nat.pow 2 (-number.exponent).toNat

def ofMagnitude (negative : Bool) (magnitude : Nat) : Binary64 :=
  ⟨UInt64.ofNat (magnitude + if negative then signPlace else 0)⟩

def infiniteMagnitude : Nat :=
  lastExponent * exponentPlace

/-- A quotient rounded to the nearest natural, a tie to the even one. -/
def roundQuotient (dividend divisor : Nat) : Nat :=
  let quotient := dividend / divisor
  let remainder := dividend % divisor
  if 2 * remainder < divisor then quotient
  else if 2 * remainder = divisor && quotient % 2 = 0 then quotient
  else quotient + 1

/-- The greatest `k` with `2 ^ k ≤ dividend / divisor`. -/
def binaryOrder (dividend divisor : Nat) : Int :=
  let estimate : Int := (dividend.log2 : Int) - divisor.log2
  if divisor * Nat.pow 2 estimate.toNat ≤ dividend * Nat.pow 2 (-estimate).toNat then estimate
  else estimate - 1

/-- The magnitude bits nearest to a quotient, a tie to the even ones.  From
`infiniteMagnitude` on the quotient is too large for a finite number. -/
def nearest (dividend divisor : Nat) : Nat :=
  if dividend = 0 then 0
  else
    let exponent := max (-1074) (binaryOrder dividend divisor - 52)
    let significand :=
      roundQuotient (dividend * Nat.pow 2 (-exponent).toNat)
        (divisor * Nat.pow 2 exponent.toNat)
    (exponent + 1074).toNat * exponentPlace + significand

def ofQuotient? (negative : Bool) (dividend divisor : Nat) : Option Binary64 :=
  let magnitude := nearest dividend divisor
  if magnitude < infiniteMagnitude then some (ofMagnitude negative magnitude) else none

def ofInt (value : Int) : Binary64 :=
  ofMagnitude (decide (value < 0)) (nearest value.natAbs 1)

end Binary64

/-- A non-negative decimal number, `digits · 10 ^ exponent`. -/
structure Decimal where
  digits : Nat
  exponent : Int
deriving DecidableEq, Repr

namespace Decimal

def digitsOf (value : Nat) : List Char :=
  Nat.toDigits 10 value

def ofDigits (digits : List Char) : Nat :=
  digits.foldl (fun value digit => value * 10 + (digit.toNat - '0'.toNat)) 0

/-- One more than the exponent of the leading digit, when there is one. -/
def order (decimal : Decimal) : Int :=
  (digitsOf decimal.digits).length + decimal.exponent

/-- The number nearest to a signed decimal, unless it is too large.  Above
`10 ^ 310` nothing is finite and below `10 ^ -330` nothing but zero is near, so
far exponents are settled without their powers. -/
def toBinary64? (negative : Bool) (decimal : Decimal) : Option Binary64 :=
  if decimal.digits = 0 || decimal.order < -330 then some (.ofMagnitude negative 0)
  else if 310 < decimal.order then none
  else
    Binary64.ofQuotient? negative (decimal.digits * Nat.pow 10 decimal.exponent.toNat)
      (Nat.pow 10 (-decimal.exponent).toNat)

end Decimal

end Courier
