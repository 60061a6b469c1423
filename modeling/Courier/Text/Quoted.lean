import Courier.Text.Digits
import Courier.Text.Printable

namespace Courier.Text

/-! Text in double quotes, for showing a string inside a message.

A double quote and a backslash stand behind a backslash, the common controls
have a letter, and every other character that does not print is given by its
code point. -/

def quotedCharacter (character : Char) : List Char :=
  if character = '"' then ['\\', '"']
  else if character = '\\' then ['\\', '\\']
  else if character = '\n' then ['\\', 'n']
  else if character = '\r' then ['\\', 'r']
  else if character = '\t' then ['\\', 't']
  else if character.toNat = 0 then ['\\', '0']
  else if isPrintable character then [character]
  else ['\\', 'u', '{'] ++ hexDigits character.toNat ++ ['}']

def quoted (text : String) : String :=
  String.ofList ('"' :: (text.toList.flatMap quotedCharacter ++ ['"']))

end Courier.Text
