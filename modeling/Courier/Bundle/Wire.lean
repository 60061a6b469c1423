import Courier.Bundle.Basic
import Courier.Parcel.Decoder

namespace Courier

/-! The byte form of a bundle.

A bundle is the length of its payload, a magic word, and the payload: the number
of entries, and for every entry its key, the tag of its value and the value.
Bundles nest at most `Limits.bundleDepth` deep; a writer that meets a deeper one
stops there, and what it put out before stays, with the lengths of the
unfinished bundles left at zero. -/

/-- What a writer put out, and why it stopped early, if it did. -/
structure Draft where
  bytes : List UInt8
  fault : Option Fault := none
deriving DecidableEq, Repr

namespace Draft

/-- Goes on with `next` unless the draft stopped early. -/
def andThen (draft : Draft) (next : Unit → Draft) : Draft :=
  match draft.fault with
  | some _ => draft
  | none =>
      let continued := next ()
      ⟨draft.bytes ++ continued.bytes, continued.fault⟩

end Draft

namespace Bundle

def magic : Int32 := 0x4C444E42

end Bundle

namespace Value

/-! Tags. -/

def nullTag : Int32 := -1
def stringTag : Int32 := 0
def intTag : Int32 := 1
def bundleTag : Int32 := 3
def longTag : Int32 := 6
def doubleTag : Int32 := 8
def boolTag : Int32 := 9
def bytesTag : Int32 := 13
def stringsTag : Int32 := 14

/-- A bundle of `size` entries around the draft of its entries. -/
def framed (size : Nat) (entries : Draft) : Draft :=
  let payload := Wire.count size ++ entries.bytes
  match entries.fault with
  | none => ⟨Wire.count payload.length ++ (Wire.int32 Bundle.magic ++ payload), none⟩
  | some fault => ⟨Wire.int32 0 ++ (Wire.int32 Bundle.magic ++ payload), some fault⟩

mutual

/-- Writes a value of a bundle that stands at a nesting depth. -/
def write (depth : Nat) : Value → Draft
  | .null => ⟨Wire.int32 nullTag, none⟩
  | .bool value => ⟨Wire.int32 boolTag ++ Wire.bool value, none⟩
  | .int value => ⟨Wire.int32 intTag ++ Wire.int32 value, none⟩
  | .long value => ⟨Wire.int32 longTag ++ Wire.int64 value, none⟩
  | .double value => ⟨Wire.int32 doubleTag ++ Wire.float64 value, none⟩
  | .string text => ⟨Wire.int32 stringTag ++ Wire.string text, none⟩
  | .strings items =>
      ⟨Wire.int32 stringsTag ++ (Wire.count items.length ++ items.flatMap Wire.string), none⟩
  | .bytes value => ⟨Wire.int32 bytesTag ++ Wire.byteArray value, none⟩
  | .bundle entries =>
      Draft.andThen ⟨Wire.int32 bundleTag, none⟩ fun _ =>
        if Limits.bundleDepth < depth + 1 then ⟨[], some (.unencodable .nestedTooDeep)⟩
        else framed entries.length (writeEntries (depth + 1) entries)

def writeEntries (depth : Nat) : List (String × Value) → Draft
  | [] => ⟨[], none⟩
  | (key, value) :: rest =>
      Draft.andThen ⟨Wire.string key, none⟩ fun _ =>
        (value.write depth).andThen fun _ => writeEntries depth rest

end

end Value

namespace Bundle

def write (bundle : Bundle) : Draft :=
  Value.framed bundle.size (Value.writeEntries 0 bundle.entries)

/-- Writes an optional bundle behind the word that says whether there is one. -/
def writeTyped : Option Bundle → Draft
  | none => ⟨Wire.int32 0, none⟩
  | some bundle => Draft.andThen ⟨Wire.int32 1, none⟩ fun _ => bundle.write

end Bundle

namespace Decoder

/-- Reads the items of a string array; an absent item is empty. -/
def strings : Decoder (List String) := do
  let count ← int32
  let fits ← roomFor count.toNatClampNeg 4
  if count < 0 || !fits then fail (.invalidArrayLength count)
  else
    repeated count.toNatClampNeg do
      let item ← string?
      return item.getD ""

/-- Reads a tagged value; `nested` reads a bundle one level down. -/
def value (nested : Decoder Bundle) : Decoder Stored := do
  let tag ← int32
  if tag = Value.nullTag then return ⟨.null, trivial⟩
  else if tag = Value.boolTag then return ⟨.bool (← bool), trivial⟩
  else if tag = Value.intTag then return ⟨.int (← int32), trivial⟩
  else if tag = Value.longTag then return ⟨.long (← int64), trivial⟩
  else if tag = Value.doubleTag then return ⟨.double (← float64), trivial⟩
  else if tag = Value.stringTag then
    match ← string? with
    | some text => return ⟨.string text, trivial⟩
    | none => fail .nullString
  else if tag = Value.stringsTag then return ⟨.strings (← strings), trivial⟩
  else if tag = Value.bytesTag then return ⟨.bytes ((← byteArray?).getD []), trivial⟩
  else if tag = Value.bundleTag then return (← nested).toStored
  else fail (.unknownTag tag)

def entry (nested : Decoder Bundle) : Decoder (String × Stored) := do
  match ← string? with
  | none => fail .nullKey
  | some key => return (key, ← value nested)

/-- Reads a bundle that nests less than `levels` deep. -/
def bundleWithin : (levels : Nat) → Decoder Bundle
  | 0 => fail .nestedTooDeep
  | levels + 1 => do
      let length ← int32
      if length < 0 then fail (.negativePayload length)
      else
        let magic ← int32
        if magic ≠ Bundle.magic then fail (.badMagic magic)
        else
          let start ← offset
          let count ← int32
          if count < 0 then fail (.negativeCount count)
          else
            let entries ← repeated count.toNatClampNeg (entry (bundleWithin levels))
            let stop ← offset
            if stop - start ≠ length.toNatClampNeg then
              fail (.payloadMismatch length (stop - start))
            else return Bundle.ofList entries

def bundle : Decoder Bundle :=
  bundleWithin (Limits.bundleDepth + 1)

end Decoder

end Courier
