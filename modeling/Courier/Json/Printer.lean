import Courier.Json.Basic
import Courier.Number.Shortest
import Courier.Text.Digits

namespace Courier.Json

/-! JSON text.

Text is compact.  A string escapes the quote, the backslash and the characters
below U+0020 and nothing else.  A double has the fewest digits that read back
and always a fraction or an exponent, so it reads back as a double. -/

/-- The least exponent of a leading digit that is written positionally. -/
def leastPositional : Int := -5

/-- The greatest exponent of a leading digit that is written positionally. -/
def greatestPositional : Int := 15

def escaped (character : Char) : List Char :=
  if character = '"' then ['\\', '"']
  else if character = '\\' then ['\\', '\\']
  else if character.toNat = 0x08 then ['\\', 'b']
  else if character.toNat = 0x09 then ['\\', 't']
  else if character.toNat = 0x0A then ['\\', 'n']
  else if character.toNat = 0x0C then ['\\', 'f']
  else if character.toNat = 0x0D then ['\\', 'r']
  else if character.toNat < 0x10 then ['\\', 'u', '0', '0', '0'] ++ Text.hexDigits character.toNat
  else if character.toNat < 0x20 then ['\\', 'u', '0', '0'] ++ Text.hexDigits character.toNat
  else [character]

def renderString (text : String) : List Char :=
  '"' :: (text.toList.flatMap escaped ++ ['"'])

def renderInteger (value : Int) : List Char :=
  (if value < 0 then ['-'] else []) ++ Decimal.digitsOf value.natAbs

def renderExponent (exponent : Int) : List Char :=
  (if exponent < 0 then ['e', '-'] else ['e', '+']) ++ Decimal.digitsOf exponent.natAbs

/-- A decimal in positional notation near one and in scientific notation far
from it. -/
def renderDecimal (decimal : Decimal) : List Char :=
  let digits := Decimal.digitsOf decimal.digits
  let leading := decimal.order - 1
  if leastPositional ≤ leading && leading ≤ greatestPositional then
    if 0 ≤ decimal.exponent then
      digits ++ List.replicate decimal.exponent.toNat '0' ++ ['.', '0']
    else if 0 ≤ leading then
      digits.take (leading + 1).toNat ++ '.' :: digits.drop (leading + 1).toNat
    else
      ['0', '.'] ++ List.replicate (-leading - 1).toNat '0' ++ digits
  else
    match digits with
    | [] => []
    | [digit] => digit :: renderExponent leading
    | digit :: fraction => digit :: '.' :: (fraction ++ renderExponent leading)

def renderDouble (number : Binary64) : List Char :=
  (if number.isNegative then ['-'] else []) ++ renderDecimal (Decimal.shortest number)

mutual

def renderCharacters : Json → List Char
  | .null => ['n', 'u', 'l', 'l']
  | .bool true => ['t', 'r', 'u', 'e']
  | .bool false => ['f', 'a', 'l', 's', 'e']
  | .integer value => renderInteger value
  | .double value => renderDouble value
  | .string value => renderString value
  | .array [] => ['[', ']']
  | .array (item :: rest) => '[' :: (renderCharacters item ++ renderItems rest)
  | .object [] => ['{', '}']
  | .object ((key, value) :: rest) =>
      '{' :: (renderString key ++ ':' :: (renderCharacters value ++ renderMembers rest))

/-- The items after the first, and the end of the array. -/
def renderItems : List Json → List Char
  | [] => [']']
  | item :: rest => ',' :: (renderCharacters item ++ renderItems rest)

/-- The members after the first, and the end of the object. -/
def renderMembers : List (String × Json) → List Char
  | [] => ['}']
  | (key, value) :: rest =>
      ',' :: (renderString key ++ ':' :: (renderCharacters value ++ renderMembers rest))

end

def render (document : Json) : String :=
  String.ofList document.renderCharacters

end Courier.Json
