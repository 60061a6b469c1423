import Courier.Proofs.Bundle.Form

namespace Courier

/-! The canonical forms of bundles.

A form is canonical if nothing in it is left open: keys ascend, filler bytes are
zero, a word for true is one, and no item and no byte array is absent. -/

namespace Decoder

structure CanonicalString (form : List UInt8) (text : String) : Prop where
  spelled : StringForm form (some text)
  /-- The terminator and the bytes behind it. -/
  filled : ∀ byte ∈ form.drop (4 + (Utf8.bytes text).length), byte = 0

structure CanonicalByteArray (form bytes : List UInt8) : Prop where
  spelled : ByteArrayForm form (some bytes)
  filled : ∀ byte ∈ form.drop (4 + bytes.length), byte = 0

theorem drop_int32 (word : Int32) (body rest : List UInt8) :
    (Wire.int32 word ++ (body ++ rest)).drop (4 + body.length) = rest := by
  have width : (Wire.int32 word ++ body).length = 4 + body.length := by simp [Wire.int32]
  rw [← List.append_assoc, ← width, List.drop_left]

theorem canonicalString_string {text : String} (bounded : (Wire.string text).length < 2 ^ 31) :
    CanonicalString (Wire.string text) text := by
  refine ⟨stringForm_string bounded, ?_⟩
  rw [Wire.string, Wire.count, Wire.terminated, drop_int32]
  simp [Wire.padding]

theorem canonicalByteArray_byteArray {bytes : List UInt8}
    (bounded : (Wire.byteArray bytes).length < 2 ^ 31) :
    CanonicalByteArray (Wire.byteArray bytes) bytes := by
  refine ⟨byteArrayForm_byteArray bounded, ?_⟩
  rw [Wire.byteArray, Wire.count, drop_int32]
  simp [Wire.padding]

theorem CanonicalString.item {form : List UInt8} {text : String}
    (spelled : CanonicalString form text) : ItemForm form text :=
  @ItemForm.item _ (some text) spelled.spelled

end Decoder

open Decoder

mutual

inductive CanonicalValue : (depth : Nat) → List UInt8 → Stored → Prop where
  | null {depth : Nat} : CanonicalValue depth (Wire.int32 Value.nullTag) ⟨.null, trivial⟩
  | bool {depth : Nat} (word : Int32) (unit : word = 0 ∨ word = 1) :
      CanonicalValue depth (Wire.int32 Value.boolTag ++ Wire.int32 word)
        ⟨.bool (word ≠ 0), trivial⟩
  | int {depth : Nat} (value : Int32) :
      CanonicalValue depth (Wire.int32 Value.intTag ++ Wire.int32 value) ⟨.int value, trivial⟩
  | long {depth : Nat} (value : Int64) :
      CanonicalValue depth (Wire.int32 Value.longTag ++ Wire.int64 value) ⟨.long value, trivial⟩
  | double {depth : Nat} (value : Binary64) :
      CanonicalValue depth (Wire.int32 Value.doubleTag ++ Wire.float64 value)
        ⟨.double value, trivial⟩
  | string {depth : Nat} {form : List UInt8} {text : String}
      (spelled : CanonicalString form text) :
      CanonicalValue depth (Wire.int32 Value.stringTag ++ form) ⟨.string text, trivial⟩
  | strings {depth : Nat} {form : List UInt8} {count : Int32} {items : List String}
      (counted : count.toInt = items.length) (listed : Forms CanonicalString form items) :
      CanonicalValue depth (Wire.int32 Value.stringsTag ++ (Wire.int32 count ++ form))
        ⟨.strings items, trivial⟩
  | bytes {depth : Nat} {form bytes : List UInt8} (spelled : CanonicalByteArray form bytes) :
      CanonicalValue depth (Wire.int32 Value.bytesTag ++ form) ⟨.bytes bytes, trivial⟩
  | bundle {depth : Nat} {form : List UInt8} {bundle : Bundle}
      (nested : CanonicalBundle (depth + 1) form bundle) :
      CanonicalValue depth (Wire.int32 Value.bundleTag ++ form) bundle.toStored

inductive CanonicalEntries :
    (depth : Nat) → List UInt8 → List (String × Stored) → Prop where
  | nil {depth : Nat} : CanonicalEntries depth [] []
  | cons {depth : Nat} {keyForm valueForm later : List UInt8} {key : String} {value : Stored}
      {entries : List (String × Stored)} (named : CanonicalString keyForm key)
      (typed : CanonicalValue depth valueForm value)
      (tail : CanonicalEntries depth later entries) :
      CanonicalEntries depth (keyForm ++ valueForm ++ later) ((key, value) :: entries)

inductive CanonicalBundle : (depth : Nat) → List UInt8 → Bundle → Prop where
  | payload {depth : Nat} {form : List UInt8} {length count : Int32} {bundle : Bundle}
      {entries : List (String × Stored)} (shallow : depth ≤ Limits.bundleDepth)
      (measured : length.toInt = (Wire.int32 count ++ form).length)
      (counted : count.toInt = entries.length) (listed : CanonicalEntries depth form entries)
      (ascending : Keyed.Ascending entries) (gathered : bundle.Gathers entries) :
      CanonicalBundle depth
        (Wire.int32 length ++ (Wire.int32 Bundle.magic ++ (Wire.int32 count ++ form))) bundle

end

/-! Canonical forms are forms. -/

mutual

theorem CanonicalValue.valueForm {depth : Nat} {form : List UInt8} {value : Stored} :
    CanonicalValue depth form value → ValueForm depth form value
  | .null => .null
  | .bool word _ => .bool word
  | .int value => .int value
  | .long value => .long value
  | .double value => .double value
  | .string spelled => .string spelled.spelled
  | .strings counted listed => .strings counted (listed.imp fun _ _ spelled => spelled.item)
  | .bytes spelled => .bytes spelled.spelled
  | .bundle nested => .bundle nested.bundleForm

theorem CanonicalEntries.entriesForm {depth : Nat} {form : List UInt8}
    {entries : List (String × Stored)} :
    CanonicalEntries depth form entries → EntriesForm depth form entries
  | .nil => .nil
  | .cons named typed tail => .cons named.spelled typed.valueForm tail.entriesForm

theorem CanonicalBundle.bundleForm {depth : Nat} {form : List UInt8} {bundle : Bundle} :
    CanonicalBundle depth form bundle → BundleForm depth form bundle
  | .payload shallow measured counted listed _ gathered =>
      .payload shallow measured counted listed.entriesForm gathered

end

end Courier
