import Courier.Bundle.Wire

namespace Courier

/-! Parcels: bytes with a read cursor.

Writing appends at the end, whatever the cursor says; reading starts at the
cursor and moves it, also when it fails midway. -/

structure Parcel where
  bytes : List UInt8 := []
  position : Nat := 0
deriving DecidableEq, Repr

namespace Parcel

def empty : Parcel := {}

def ofBytes (bytes : List UInt8) : Parcel :=
  { bytes := bytes }

def size (parcel : Parcel) : Nat :=
  parcel.bytes.length

def available (parcel : Parcel) : Nat :=
  parcel.size - parcel.position

/-- Drops all contents and rewinds the cursor. -/
def clear (parcel : Parcel) : Parcel :=
  { parcel with bytes := [], position := 0 }

/-- Moves the cursor, to the end at most. -/
def seek (parcel : Parcel) (position : Nat) : Parcel :=
  { parcel with position := min position parcel.size }

def append (parcel : Parcel) (bytes : List UInt8) : Parcel :=
  { parcel with bytes := parcel.bytes ++ bytes }

/-- Replaces the word at an offset, if all of it lies inside. -/
def overwrite (parcel : Parcel) (offset : Nat) (value : Int32) : Parcel :=
  if offset + 4 ≤ parcel.size then
    { parcel with
      bytes := parcel.bytes.take offset ++ (Wire.int32 value ++ parcel.bytes.drop (offset + 4)) }
  else parcel

def write (parcel : Parcel) (draft : Draft) : Except Fault Unit × Parcel :=
  (match draft.fault with
    | none => .ok ()
    | some fault => .error fault,
   parcel.append draft.bytes)

def read {α : Type} (parcel : Parcel) (decoder : Decoder α) : Except Fault α × Parcel :=
  match decoder ⟨parcel.position, parcel.bytes.drop parcel.position⟩ with
  | .ok value cursor => (.ok value, { parcel with position := cursor.offset })
  | .error fault cursor => (.error fault, { parcel with position := cursor.offset })

inductive Operation where
  | writeInt32 (value : Int32)
  | writeUInt32 (value : UInt32)
  | writeInt64 (value : Int64)
  | writeFloat64 (value : Binary64)
  | writeBool (value : Bool)
  | writeString (text : Option String)
  | writeByteArray (bytes : Option (List UInt8))
  | writeInterfaceToken (descriptor : String)
  | writeNoException
  | writeException (fault : Fault)
  | writeTyped (bundle : Option Bundle)
  | writeBundle (bundle : Bundle)
  | append (bytes : List UInt8)
  | overwrite (offset : Nat) (value : Int32)
  | clear
  | seek (position : Nat)
  | readInt32
  | readUInt32
  | readInt64
  | readFloat64
  | readBool
  | readString
  | readByteArray
  | readTyped
  | readBundle
  | readException
  | enforceInterface (expected : String)

inductive Reading where
  | done
  | int32 (value : Int32)
  | uint32 (value : UInt32)
  | int64 (value : Int64)
  | float64 (value : Binary64)
  | bool (value : Bool)
  | string (text : Option String)
  | byteArray (bytes : Option (List UInt8))
  | typed (bundle : Option Bundle)
  | bundle (bundle : Bundle)

namespace Operation

private def put (parcel : Parcel) (bytes : List UInt8) : Except Fault Reading × Parcel :=
  (.ok .done, parcel.append bytes)

/-- Appends what a writer put out, which may have stopped early. -/
private def putDraft (parcel : Parcel) (draft : Draft) : Except Fault Reading × Parcel :=
  let (outcome, parcel) := parcel.write draft
  (outcome.map fun _ => .done, parcel)

private def get {α : Type} (parcel : Parcel) (decoder : Decoder α) (reading : α → Reading) :
    Except Fault Reading × Parcel :=
  let (outcome, parcel) := parcel.read decoder
  (outcome.map reading, parcel)

def run (parcel : Parcel) : Operation → Except Fault Reading × Parcel
  | .writeInt32 value => put parcel (Wire.int32 value)
  | .writeUInt32 value => put parcel (Wire.uint32 value)
  | .writeInt64 value => put parcel (Wire.int64 value)
  | .writeFloat64 value => put parcel (Wire.float64 value)
  | .writeBool value => put parcel (Wire.bool value)
  | .writeString text => put parcel (Wire.string? text)
  | .writeByteArray bytes => put parcel (Wire.byteArray? bytes)
  | .writeInterfaceToken descriptor => put parcel (Wire.interfaceToken descriptor)
  | .writeNoException => put parcel Wire.noException
  | .writeException fault => put parcel (Wire.exception fault)
  | .writeTyped bundle => putDraft parcel (Bundle.writeTyped bundle)
  | .writeBundle bundle => putDraft parcel bundle.write
  | .append bytes => put parcel bytes
  | .overwrite offset value => (.ok .done, parcel.overwrite offset value)
  | .clear => (.ok .done, parcel.clear)
  | .seek position => (.ok .done, parcel.seek position)
  | .readInt32 => get parcel Decoder.int32 .int32
  | .readUInt32 => get parcel Decoder.uint32 .uint32
  | .readInt64 => get parcel Decoder.int64 .int64
  | .readFloat64 => get parcel Decoder.float64 .float64
  | .readBool => get parcel Decoder.bool .bool
  | .readString => get parcel Decoder.string? .string
  | .readByteArray => get parcel Decoder.byteArray? .byteArray
  | .readTyped => get parcel (Decoder.typed Decoder.bundle) .typed
  | .readBundle => get parcel Decoder.bundle .bundle
  | .readException => get parcel Decoder.exception fun _ => .done
  | .enforceInterface expected => get parcel (Decoder.enforceInterface expected) fun _ => .done

def runAll (parcel : Parcel) : List Operation → List (Except Fault Reading) × Parcel
  | [] => ([], parcel)
  | operation :: rest =>
      let (outcome, parcel) := run parcel operation
      let (outcomes, parcel) := runAll parcel rest
      (outcome :: outcomes, parcel)

end Operation

end Parcel

end Courier
