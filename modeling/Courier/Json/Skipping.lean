import Courier.Json.Reader

namespace Courier.Json

/-! Passing over a JSON value that nobody wants.

Only the grammar counts here: the value may nest to any depth, a number may be
of any size, and an escape may be half of a surrogate pair. -/

def skipDigits? : List Char → Option (List Char)
  | [] => none
  | character :: rest =>
      if character.isDigit then some (rest.dropWhile Char.isDigit) else none

def skipExponent? : List Char → Option (List Char)
  | 'e' :: rest => skipDigits? (exponentSign rest).2
  | 'E' :: rest => skipDigits? (exponentSign rest).2
  | text => some text

/-- The text behind the fraction and the exponent of a number, either of which
may be missing. -/
def skipFraction? : List Char → Option (List Char)
  | '.' :: rest => (skipDigits? rest).bind skipExponent?
  | text => skipExponent? text

/-- The text behind a number that has lost its sign.  Digits behind a leading
zero stay; no value goes on with them. -/
def skipNumber? : List Char → Option (List Char)
  | '0' :: rest => skipFraction? rest
  | text => (skipDigits? text).bind skipFraction?

def isHexDigit (character : Char) : Bool :=
  (Text.digit? 16 character).isSome

/-- The characters that make an escape behind a backslash without any digits. -/
def plainEscapes : List Char :=
  ['"', '\\', '/', 'b', 'f', 'n', 'r', 't']

/-- The text behind a string that has lost its opening quote. -/
def skipString? : List Char → Option (List Char)
  | [] => none
  | '"' :: rest => some rest
  | '\\' :: 'u' :: first :: second :: third :: fourth :: rest =>
      if [first, second, third, fourth].all isHexDigit then skipString? rest else none
  | '\\' :: character :: rest =>
      if plainEscapes.contains character then skipString? rest else none
  | character :: rest => if character.toNat < 0x20 then none else skipString? rest

def skipKey? (text : List Char) : Option (List Char) :=
  match text with
  | '"' :: rest =>
      match (skipString? rest).map skipBlanks with
      | some (':' :: rest) => some rest
      | _ => none
  | _ => none

mutual

/-- The text behind a value.  Fuel is spent as in reading. -/
def skipValue? : (fuel : Nat) → (text : List Char) → Option (List Char)
  | 0, _ => none
  | fuel + 1, text =>
      match skipBlanks text with
      | 'n' :: 'u' :: 'l' :: 'l' :: rest => some rest
      | 't' :: 'r' :: 'u' :: 'e' :: rest => some rest
      | 'f' :: 'a' :: 'l' :: 's' :: 'e' :: rest => some rest
      | '"' :: rest => skipString? rest
      | '-' :: rest => skipNumber? rest
      | '[' :: rest =>
          match skipBlanks rest with
          | ']' :: rest => some rest
          | rest => skipItems? fuel rest
      | '{' :: rest =>
          match skipBlanks rest with
          | '}' :: rest => some rest
          | rest => skipMembers? fuel rest
      | rest => skipNumber? rest

/-- The text behind an array, from one of its items on. -/
def skipItems? : (fuel : Nat) → (text : List Char) → Option (List Char)
  | 0, _ => none
  | fuel + 1, text =>
      match (skipValue? fuel text).map skipBlanks with
      | some (']' :: rest) => some rest
      | some (',' :: rest) => skipItems? fuel rest
      | _ => none

/-- The text behind an object, from one of its members on. -/
def skipMembers? : (fuel : Nat) → (text : List Char) → Option (List Char)
  | 0, _ => none
  | fuel + 1, text =>
      match skipKey? (skipBlanks text) with
      | none => none
      | some rest =>
          match (skipValue? fuel rest).map skipBlanks with
          | some ('}' :: rest) => some rest
          | some (',' :: rest) => skipMembers? fuel rest
          | _ => none

end

end Courier.Json
