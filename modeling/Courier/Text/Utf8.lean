namespace Courier.Utf8

/-! Text as UTF-8 bytes.

`bytes` writes a string and `decode` reads one back, telling where the first
fault lies.  A fault is either a sequence that no character starts with, given
by its length, or a sequence that the end of the input cuts short. -/

def encode (characters : List Char) : List UInt8 :=
  characters.flatMap String.utf8EncodeChar

def bytes (text : String) : List UInt8 :=
  encode text.toList

/-- Why bytes are not UTF-8, and where the first fault starts. -/
inductive Flaw where
  | invalid (length index : Nat)
  | incomplete (index : Nat)
deriving DecidableEq, Repr

def Flaw.message : Flaw → String
  | .invalid length index =>
      "invalid utf-8 sequence of " ++ toString length ++ " bytes from index " ++ toString index
  | .incomplete index => "incomplete utf-8 byte sequence from index " ++ toString index

/-- What stands at the front of a byte sequence. -/
inductive Front where
  | character (value : Char) (rest : List UInt8)
  | invalid (length : Nat)
  | incomplete
  | none

def isContinuation (byte : UInt8) : Bool :=
  0x80 ≤ byte && byte ≤ 0xBF

/-- The bytes that may follow the lead byte of a character of three or four
bytes: an overlong form, a surrogate or a number above the last code point
shows in the second byte. -/
def mayFollow (lead second : UInt8) : Bool :=
  if lead = 0xE0 then 0xA0 ≤ second && second ≤ 0xBF
  else if lead = 0xED then 0x80 ≤ second && second ≤ 0x9F
  else if lead = 0xF0 then 0x90 ≤ second && second ≤ 0xBF
  else if lead = 0xF4 then 0x80 ≤ second && second ≤ 0x8F
  else isContinuation second

def payload (byte : UInt8) : Nat :=
  byte.toNat % 64

def front : List UInt8 → Front
  | [] => .none
  | lead :: rest =>
      if lead < 0x80 then .character (Char.ofNat lead.toNat) rest
      else if 0xC2 ≤ lead && lead ≤ 0xDF then
        match rest with
        | [] => .incomplete
        | second :: rest =>
            if isContinuation second then
              .character (Char.ofNat (lead.toNat % 32 * 64 + payload second)) rest
            else .invalid 1
      else if 0xE0 ≤ lead && lead ≤ 0xEF then
        match rest with
        | [] => .incomplete
        | second :: rest =>
            if mayFollow lead second then
              match rest with
              | [] => .incomplete
              | third :: rest =>
                  if isContinuation third then
                    .character
                      (Char.ofNat
                        (lead.toNat % 16 * 4096 + payload second * 64 + payload third))
                      rest
                  else .invalid 2
            else .invalid 1
      else if 0xF0 ≤ lead && lead ≤ 0xF4 then
        match rest with
        | [] => .incomplete
        | second :: rest =>
            if mayFollow lead second then
              match rest with
              | [] => .incomplete
              | third :: rest =>
                  if isContinuation third then
                    match rest with
                    | [] => .incomplete
                    | fourth :: rest =>
                        if isContinuation fourth then
                          .character
                            (Char.ofNat
                              (lead.toNat % 8 * 262144 + payload second * 4096 +
                                payload third * 64 + payload fourth))
                            rest
                        else .invalid 3
                  else .invalid 2
            else .invalid 1
      else .invalid 1

/-- Reads at most `count` characters of the bytes from `index` on; `read` holds
the characters before them, the last one first. -/
def decodeFrom : (count index : Nat) → (read : List Char) → List UInt8 →
    Except Flaw (List Char)
  | 0, _, read, _ => .ok read.reverse
  | count + 1, index, read, remaining =>
      match front remaining with
      | .none => .ok read.reverse
      | .character value rest =>
          decodeFrom count (index + value.utf8Size) (value :: read) rest
      | .invalid length => .error (.invalid length index)
      | .incomplete => .error (.incomplete index)

def decode (encoded : List UInt8) : Except Flaw (List Char) :=
  decodeFrom encoded.length 0 [] encoded

def string (encoded : List UInt8) : Except Flaw String :=
  (decode encoded).map String.ofList

theorem bytes_injective {left right : String} (same : bytes left = bytes right) :
    left = right := by
  have encoded := congrArg List.toByteArray same
  simp only [bytes, encode] at encoded
  change left.toList.utf8Encode = right.toList.utf8Encode at encoded
  rw [String.utf8Encode_toList, String.utf8Encode_toList] at encoded
  exact String.toByteArray_inj.1 encoded

end Courier.Utf8
