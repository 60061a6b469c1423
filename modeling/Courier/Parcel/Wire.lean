import Courier.Bytes
import Courier.Fault
import Courier.Number.Binary64

namespace Courier.Wire

/-! The byte forms of the primitive fields of a parcel.

Numbers are little-endian.  A string or byte array is its length in bytes, or
-1 when absent, and its bytes, filled up with zeros to a multiple of four; a
string has a NUL behind its last byte, which the length does not count. -/

/-- The zeros that fill `size` bytes up to a multiple of four. -/
def padding (size : Nat) : List UInt8 :=
  List.replicate ((4 - size % 4) % 4) 0

def padded (size : Nat) : Nat :=
  size + (4 - size % 4) % 4

def uint32 (value : UInt32) : List UInt8 :=
  littleEndian 4 value.toNat

def int32 (value : Int32) : List UInt8 :=
  littleEndian 4 value.toUInt32.toNat

def int64 (value : Int64) : List UInt8 :=
  littleEndian 8 value.toUInt64.toNat

def float64 (value : Binary64) : List UInt8 :=
  littleEndian 8 value.bits.toNat

def bool (value : Bool) : List UInt8 :=
  int32 (if value then 1 else 0)

/-- A count as a word.  Counts from `2 ^ 31` on wrap. -/
def count (size : Nat) : List UInt8 :=
  int32 (Int32.ofNat size)

/-- The length that stands for an absent string or byte array. -/
def absent : Int32 := -1

def terminated (text : List UInt8) : List UInt8 :=
  text ++ 0 :: padding (text.length + 1)

def string (text : String) : List UInt8 :=
  let encoded := Utf8.bytes text
  count encoded.length ++ terminated encoded

def string? : Option String → List UInt8
  | some text => string text
  | none => int32 absent

def byteArray (bytes : List UInt8) : List UInt8 :=
  count bytes.length ++ (bytes ++ padding bytes.length)

def byteArray? : Option (List UInt8) → List UInt8
  | some bytes => byteArray bytes
  | none => int32 absent

/-- The token in front of a request: which interface it speaks to. -/
def interfaceToken (descriptor : String) : List UInt8 :=
  int32 Limits.strictMode ++ string descriptor

def noException : List UInt8 :=
  int32 0

def exception (fault : Fault) : List UInt8 :=
  int32 fault.exceptionCode ++ string fault.message

end Courier.Wire
