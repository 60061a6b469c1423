import Courier.Json.Basic
import Courier.Number.Binary64
import Courier.Text.Digits

namespace Courier.Json

/-! Reading JSON text.

The reader works on what is left of the text.  A refusal keeps the cause and the
place: the text left there, and the number of bytes of it that lie in front of
the place.  Places are places among the bytes of the text, so one may fall
inside a character or behind a line feed.  Lines and columns are computed once
reading has ended.

Arrays and objects nest at most 127 deep.  A number without fraction and
exponent that fits 64 bits is an integer, except that negative zero is a
double; every other number is the nearest double, and one too large for that is
refused. -/

inductive Cause where
  | endOfList
  | endOfObject
  | endOfString
  | endOfValue
  | expectedColon
  | expectedListCommaOrEnd
  | expectedObjectCommaOrEnd
  | expectedIdent
  | expectedValue
  | invalidEscape
  | invalidNumber
  | numberOutOfRange
  | controlCharacter
  | keyNotString
  | loneSurrogate
  | trailingComma
  | trailingCharacters
  | unexpectedEndOfEscape
  | tooDeep
deriving DecidableEq, Repr

def Cause.message : Cause → String
  | .endOfList => "EOF while parsing a list"
  | .endOfObject => "EOF while parsing an object"
  | .endOfString => "EOF while parsing a string"
  | .endOfValue => "EOF while parsing a value"
  | .expectedColon => "expected `:`"
  | .expectedListCommaOrEnd => "expected `,` or `]`"
  | .expectedObjectCommaOrEnd => "expected `,` or `\x7d`"
  | .expectedIdent => "expected ident"
  | .expectedValue => "expected value"
  | .invalidEscape => "invalid escape"
  | .invalidNumber => "invalid number"
  | .numberOutOfRange => "number out of range"
  | .controlCharacter =>
      "control character (\\u0000-\\u001F) found while parsing a string"
  | .keyNotString => "key must be a string"
  | .loneSurrogate => "lone leading surrogate in hex escape"
  | .trailingComma => "trailing comma"
  | .trailingCharacters => "trailing characters"
  | .unexpectedEndOfEscape => "unexpected end of hex escape"
  | .tooDeep => "recursion limit exceeded"

/-- A refusal, `beyond` bytes behind the start of the text `left`. -/
structure Refusal where
  cause : Cause
  left : List Char
  beyond : Nat

abbrev Reading (α : Type) := Except Refusal (α × List Char)

/-- Refuses behind the next byte. -/
def refuse {α : Type} (cause : Cause) (left : List Char) : Except Refusal α :=
  .error ⟨cause, left, 1⟩

/-- Refuses in front of the next byte. -/
def refuseBefore {α : Type} (cause : Cause) (left : List Char) : Except Refusal α :=
  .error ⟨cause, left, 0⟩

def isBlank (character : Char) : Bool :=
  character = ' ' || character = '\n' || character = '\t' || character = '\r'

def skipBlanks (text : List Char) : List Char :=
  text.dropWhile isBlank

def readWord (value : Json) : (word text : List Char) → Reading Json
  | [], text => .ok (value, text)
  | _ :: _, [] => refuseBefore .endOfValue []
  | expected :: word, character :: text =>
      if character = expected then readWord value word text
      else refuse .expectedIdent (character :: text)

/-- The document of a number's parts: its sign, its integer digits, and its
fraction digits and exponent, if it has any. -/
def number? (negative : Bool) (whole fraction : List Char) (exponent : Int)
    (plain : Bool) : Option Json :=
  let value := Decimal.ofDigits whole
  if plain && negative && value ≠ 0 && isInt64 (-(value : Int)) then
    some (.integer (-(value : Int)))
  else if plain && !negative && value < UInt64.size then some (.integer value)
  else
    (Decimal.toBinary64? negative
      ⟨Decimal.ofDigits (whole ++ fraction), exponent - fraction.length⟩).map Json.double

def exponentSign : List Char → Bool × List Char
  | '-' :: rest => (true, rest)
  | '+' :: rest => (false, rest)
  | text => (false, text)

def readExponent (text : List Char) : Reading Int :=
  let (negative, text) := exponentSign text
  match text with
  | [] => refuseBefore .endOfValue []
  | character :: rest =>
      if character.isDigit then
        let value : Int := Decimal.ofDigits (text.takeWhile Char.isDigit)
        .ok (if negative then -value else value, text.dropWhile Char.isDigit)
      else refuse .invalidNumber (character :: rest)

/-- The text behind the digits of an exponent, or behind the first of them that
takes it past 31 bits; `value` is the number that the digits before them make. -/
def exponentEnd (value : Nat) : List Char → List Char
  | [] => []
  | character :: rest =>
      match Text.digit? 10 character with
      | none => character :: rest
      | some digit =>
          let value := value * 10 + digit
          if value > Int32.maxValue.toInt.toNat then rest else exponentEnd value rest

/-- Reads what may follow the fraction of a number.  A number that is too large
is refused where its exponent gets too large, at the latest behind its end. -/
def finishNumber (negative : Bool) (whole fraction text : List Char) (plain : Bool) :
    Reading Json :=
  match text with
  | mark :: rest =>
      if mark = 'e' || mark = 'E' then
        match readExponent rest with
        | .error refusal => .error refusal
        | .ok (exponent, behind) =>
            match number? negative whole fraction exponent false with
            | some value => .ok (value, behind)
            | none => refuseBefore .numberOutOfRange (exponentEnd 0 (exponentSign rest).2)
      else
        match number? negative whole fraction 0 plain with
        | some value => .ok (value, text)
        | none => refuseBefore .numberOutOfRange text
  | [] =>
      match number? negative whole fraction 0 plain with
      | some value => .ok (value, [])
      | none => refuseBefore .numberOutOfRange []

def readFraction (negative : Bool) (whole text : List Char) : Reading Json :=
  match text with
  | '.' :: rest =>
      match rest.takeWhile Char.isDigit, rest with
      | [], [] => refuse .endOfValue []
      | [], rest => refuse .invalidNumber rest
      | fraction, rest =>
          finishNumber negative whole fraction (rest.dropWhile Char.isDigit) false
  | text => finishNumber negative whole [] text true

def readNumber (negative : Bool) (text : List Char) : Reading Json :=
  match text with
  | [] => refuseBefore .endOfValue []
  | '0' :: rest =>
      match rest with
      | [] => readFraction negative ['0'] []
      | character :: _ =>
          if character.isDigit then refuse .invalidNumber rest
          else readFraction negative ['0'] rest
  | character :: rest =>
      if character.isDigit then
        readFraction negative (text.takeWhile Char.isDigit) (text.dropWhile Char.isDigit)
      else refuse .invalidNumber (character :: rest)

/-- Reads the four digits of an escaped 16-bit unit.  They stand in the next
four bytes, and something else in these is refused behind them. -/
def readUnit (text : List Char) : Reading Nat :=
  match text with
  | first :: second :: third :: fourth :: rest =>
      match Text.digit? 16 first, Text.digit? 16 second, Text.digit? 16 third,
          Text.digit? 16 fourth with
      | some a, some b, some c, some d => .ok (((a * 16 + b) * 16 + c) * 16 + d, rest)
      | _, _, _, _ => .error ⟨.invalidEscape, text, 4⟩
  | few =>
      if (Utf8.encode few).length < 4 then refuseBefore .endOfString []
      else .error ⟨.invalidEscape, few, 4⟩

def isHighSurrogate (unit : Nat) : Bool :=
  0xD800 ≤ unit && unit ≤ 0xDBFF

def isLowSurrogate (unit : Nat) : Bool :=
  0xDC00 ≤ unit && unit ≤ 0xDFFF

/-- Reads the unit escapes of one character behind the first `u`. -/
def readUnits (text : List Char) : Reading Char :=
  match readUnit text with
  | .error refusal => .error refusal
  | .ok (unit, rest) =>
      if isLowSurrogate unit then refuseBefore .loneSurrogate rest
      else if isHighSurrogate unit then
        match rest with
        | [] => refuseBefore .endOfString []
        | '\\' :: 'u' :: rest =>
            match readUnit rest with
            | .error refusal => .error refusal
            | .ok (low, rest) =>
                if isLowSurrogate low then
                  .ok (Char.ofNat (0x10000 + (unit - 0xD800) * 0x400 + (low - 0xDC00)), rest)
                else refuseBefore .loneSurrogate rest
        | '\\' :: [] => refuseBefore .endOfString []
        | '\\' :: other => refuse .unexpectedEndOfEscape other
        | other => refuse .unexpectedEndOfEscape other
      else .ok (Char.ofNat unit, rest)

def readEscape (text : List Char) : Reading Char :=
  match text with
  | [] => refuseBefore .endOfString []
  | '"' :: rest => .ok ('"', rest)
  | '\\' :: rest => .ok ('\\', rest)
  | '/' :: rest => .ok ('/', rest)
  | 'b' :: rest => .ok (Char.ofNat 0x08, rest)
  | 'f' :: rest => .ok (Char.ofNat 0x0C, rest)
  | 'n' :: rest => .ok ('\n', rest)
  | 'r' :: rest => .ok ('\r', rest)
  | 't' :: rest => .ok ('\t', rest)
  | 'u' :: rest => readUnits rest
  | other => refuse .invalidEscape other

/-- Reads a string behind its opening quote, at most `fuel` characters of it;
`read` holds the characters before them, the last one first. -/
def readStringFrom : (fuel : Nat) → (read text : List Char) → Reading String
  | 0, _, text => refuseBefore .endOfString text
  | fuel + 1, read, text =>
      match text with
      | [] => refuseBefore .endOfString []
      | '"' :: rest => .ok (String.ofList read.reverse, rest)
      | '\\' :: rest =>
          match readEscape rest with
          | .error refusal => .error refusal
          | .ok (character, rest) => readStringFrom fuel (character :: read) rest
      | character :: rest =>
          if character.toNat < 0x20 then refuse .controlCharacter (character :: rest)
          else readStringFrom fuel (character :: read) rest

def readString (fuel : Nat) (text : List Char) : Reading String :=
  readStringFrom fuel [] text

/-- Reads a key in front of its opening quote, at most `fuel` characters of it,
and the colon behind it. -/
def readKey (fuel : Nat) (text : List Char) : Reading String :=
  match text with
  | '"' :: rest =>
      match readString fuel rest with
      | .error refusal => .error refusal
      | .ok (key, rest) =>
          match skipBlanks rest with
          | ':' :: rest => .ok (key, rest)
          | [] => refuse .endOfObject []
          | other => refuse .expectedColon other
  | other => refuse .keyNotString other

mutual

/-- Reads a document that may nest `depth` levels of arrays and objects.  Every
step takes one unit of fuel, and a step or the one after it takes a character,
so twice the length of the text suffices, for the strings in it as well. -/
def readValue : (fuel depth : Nat) → (text : List Char) → Reading Json
  | 0, _, text => refuse .tooDeep text
  | fuel + 1, depth, text =>
      match skipBlanks text with
      | [] => refuse .endOfValue []
      | 'n' :: rest => readWord .null ['u', 'l', 'l'] rest
      | 't' :: rest => readWord (.bool true) ['r', 'u', 'e'] rest
      | 'f' :: rest => readWord (.bool false) ['a', 'l', 's', 'e'] rest
      | '-' :: rest => readNumber true rest
      | '"' :: rest =>
          match readString fuel rest with
          | .error refusal => .error refusal
          | .ok (value, rest) => .ok (.string value, rest)
      | '[' :: rest =>
          match depth with
          | 0 => refuse .tooDeep ('[' :: rest)
          | depth + 1 =>
              match skipBlanks rest with
              | ']' :: rest => .ok (.array [], rest)
              | [] => refuse .endOfList []
              | rest => readItems fuel depth [] rest
      | '{' :: rest =>
          match depth with
          | 0 => refuse .tooDeep ('{' :: rest)
          | depth + 1 =>
              match skipBlanks rest with
              | '}' :: rest => .ok (.object [], rest)
              | [] => refuse .endOfObject []
              | rest => readMembers fuel depth [] rest
      | character :: rest =>
          if character.isDigit then readNumber false (character :: rest)
          else refuse .expectedValue (character :: rest)

/-- Reads the items of an array from the next one on; `read` holds the items
before it, the last one first. -/
def readItems : (fuel depth : Nat) → (read : List Json) → (text : List Char) → Reading Json
  | 0, _, _, text => refuse .tooDeep text
  | fuel + 1, depth, read, text =>
      match readValue fuel depth text with
      | .error refusal => .error refusal
      | .ok (item, rest) =>
          match skipBlanks rest with
          | [] => refuse .endOfList []
          | ']' :: rest => .ok (.array (item :: read).reverse, rest)
          | ',' :: rest =>
              match skipBlanks rest with
              | [] => refuse .endOfValue []
              | ']' :: rest => refuse .trailingComma (']' :: rest)
              | rest => readItems fuel depth (item :: read) rest
          | other => refuse .expectedListCommaOrEnd other

/-- Reads the members of an object from the next one on; `read` holds the
members before it, the last one first. -/
def readMembers : (fuel depth : Nat) → (read : List (String × Json)) → (text : List Char) →
    Reading Json
  | 0, _, _, text => refuse .tooDeep text
  | fuel + 1, depth, read, text =>
      match readKey fuel text with
      | .error refusal => .error refusal
      | .ok (key, rest) =>
          match readValue fuel depth rest with
          | .error refusal => .error refusal
          | .ok (value, rest) =>
              match skipBlanks rest with
              | [] => refuse .endOfObject []
              | '}' :: rest => .ok (.object ((key, value) :: read).reverse, rest)
              | ',' :: rest =>
                  match skipBlanks rest with
                  | [] => refuse .endOfValue []
                  | '}' :: rest => refuse .trailingComma ('}' :: rest)
                  | rest => readMembers fuel depth ((key, value) :: read) rest
              | other => refuse .expectedObjectCommaOrEnd other

end

def maxDepth : Nat := 127

/-- Reads a document and nothing behind it but blanks. -/
def readDocument (text : List Char) : Except Refusal Json :=
  match readValue (2 * text.length + 2) maxDepth text with
  | .error refusal => .error refusal
  | .ok (document, rest) =>
      match skipBlanks rest with
      | [] => .ok document
      | other => refuse .trailingCharacters other

structure SyntaxError where
  cause : Cause
  line : Nat
  column : Nat
deriving DecidableEq, Repr

def SyntaxError.message (fault : SyntaxError) : String :=
  fault.cause.message ++ " at line " ++ toString fault.line ++ " column " ++
    toString fault.column

def lineFeed : UInt8 := 0x0A

/-- The place of a refusal: the line counts line feeds and the column counts the
bytes behind the last of them. -/
def Refusal.locate (text : List Char) (refusal : Refusal) : SyntaxError :=
  let bytes := Utf8.encode text
  let before := bytes.take (bytes.length - (Utf8.encode refusal.left).length + refusal.beyond)
  { cause := refusal.cause
    line := before.count lineFeed + 1
    column := (before.reverse.takeWhile fun byte => byte != lineFeed).length }

def parse (text : String) : Except SyntaxError Json :=
  match readDocument text.toList with
  | .ok document => .ok document
  | .error refusal => .error (refusal.locate text.toList)

end Courier.Json
