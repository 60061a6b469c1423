namespace Courier.Text

/-! Digits of bases up to sixteen, letters in either case. -/

/-- The value of a digit, if it is one of the base. -/
def digit? (base : Nat) (character : Char) : Option Nat :=
  let value :=
    if '0' ≤ character && character ≤ '9' then some (character.toNat - '0'.toNat)
    else if 'a' ≤ character && character ≤ 'f' then some (character.toNat - 'a'.toNat + 10)
    else if 'A' ≤ character && character ≤ 'F' then some (character.toNat - 'A'.toNat + 10)
    else none
  value.filter (· < base)

/-- The lower-case base-16 digits of a number, without leading zeros. -/
def hexDigits (value : Nat) : List Char :=
  Nat.toDigits 16 value

/-- A number in base 16 behind its mark. -/
def hexadecimal (value : Nat) : String :=
  "0x" ++ String.ofList (hexDigits value)

end Courier.Text
