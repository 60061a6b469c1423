import Courier.Parcel.Wire

namespace Courier

/-! Reading fields off the unread bytes of a parcel.

A decoder that fails keeps what it had consumed before the field that failed:
its cursor stays where it was when the failing field began. -/

/-- The unread bytes of a parcel, and how many bytes stand before them. -/
structure Cursor where
  offset : Nat
  unread : List UInt8
deriving DecidableEq, Repr

/-- A step that reads a value or fails, and moves the cursor either way. -/
abbrev Decoder (α : Type) := EStateM Fault Cursor α

namespace Decoder

variable {α : Type}

def fail (defect : Defect) : Decoder α :=
  throw (.malformed defect)

def holds : (bytes : List UInt8) → (size : Nat) → Bool
  | _, 0 => true
  | [], _ + 1 => false
  | _ :: rest, size + 1 => holds rest size

def take (field : Field) (size : Nat) : Decoder (List UInt8) := fun cursor =>
  if holds cursor.unread size then
    .ok (cursor.unread.take size) ⟨cursor.offset + size, cursor.unread.drop size⟩
  else
    .error
      (.malformed
        (.truncated field size cursor.offset (cursor.offset + cursor.unread.length)))
      cursor

def offset : Decoder Nat := fun cursor =>
  .ok cursor.offset cursor

/-- The unread bytes suffice for `count` items of at least `width` bytes. -/
def roomFor (count width : Nat) : Decoder Bool := fun cursor =>
  .ok (holds cursor.unread (count * width)) cursor

def uint32 : Decoder UInt32 := do
  let bytes ← take .uint32 4
  return UInt32.ofNat (ofLittleEndian bytes)

def int32 : Decoder Int32 := do
  let bytes ← take .int32 4
  return (UInt32.ofNat (ofLittleEndian bytes)).toInt32

def int64 : Decoder Int64 := do
  let bytes ← take .int64 8
  return (UInt64.ofNat (ofLittleEndian bytes)).toInt64

def float64 : Decoder Binary64 := do
  let bytes ← take .float64 8
  return ⟨UInt64.ofNat (ofLittleEndian bytes)⟩

def bool : Decoder Bool := do
  let word ← int32
  return word ≠ 0

/-- Reads a length, which is absent when it is -1. -/
def length? (field : Field) : Decoder (Option Nat) := do
  let length ← int32
  if length = Wire.absent then return none
  else if length < 0 then fail (.negativeLength field length)
  else return some length.toNatClampNeg

def string? : Decoder (Option String) := do
  match ← length? .string with
  | none => return none
  | some length =>
      let raw ← take .string (Wire.padded (length + 1))
      if raw[length]? ≠ some 0 then fail .missingTerminator
      else
        match Utf8.string (raw.take length) with
        | .ok text => return some text
        | .error flaw => fail (.invalidText flaw)

def byteArray? : Decoder (Option (List UInt8)) := do
  match ← length? .byteArray with
  | none => return none
  | some length =>
      let raw ← take .byteArray (Wire.padded length)
      return some (raw.take length)

/-- Reads an interface token and checks that it names `expected`.  An absent
name is reported as an empty one. -/
def enforceInterface (expected : String) : Decoder Unit := do
  let _ ← int32
  let actual ← string?
  if actual = some expected then return ()
  else throw (.interfaceMismatch expected (actual.getD ""))

/-- Reads the header of a reply and raises the fault that it carries. -/
def exception : Decoder Unit := do
  let code ← int32
  if code = 0 then return ()
  else
    let message ← string?
    throw (.remote code (message.getD ""))

/-- Reads an object behind the word that says whether there is one. -/
def typed (object : Decoder α) : Decoder (Option α) := do
  let present ← int32
  if present = 0 then return none
  else return some (← object)

/-- Reads `count` more items; `read` holds the items before them, the last one
first. -/
def repeatFrom (item : Decoder α) : (count : Nat) → (read : List α) → Decoder (List α)
  | 0, read, cursor => .ok read.reverse cursor
  | count + 1, read, cursor =>
      match item cursor with
      | .ok value cursor => repeatFrom item count (value :: read) cursor
      | .error fault cursor => .error fault cursor

def repeated (count : Nat) (item : Decoder α) : Decoder (List α) :=
  repeatFrom item count []

end Decoder

end Courier
