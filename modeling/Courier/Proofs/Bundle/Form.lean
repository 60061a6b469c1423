import Courier.Bundle.Wire
import Courier.Proofs.Keyed
import Courier.Proofs.Parcel.Fields

namespace Courier

/-! The grammar of bundles in a parcel.

`BundleForm depth` relates the bytes of a bundle that nests `depth` levels below
the top one to the bundle that they stand for.  The grammar is wider than what
`Bundle.write` puts out: keys may come in any order and more than once, filler
bytes and words for true are free, and items and byte arrays may be absent. -/

/-- Under every key the bundle holds what the entries list last under it. -/
def Bundle.Gathers (bundle : Bundle) (entries : List (String × Stored)) : Prop :=
  ∀ key, bundle.find? key = (Keyed.find? key entries.reverse).map Subtype.val

open Decoder

/-- An item of a string array, where an absent string is an empty one. -/
inductive ItemForm : List UInt8 → String → Prop where
  | item {form : List UInt8} {text : Option String} (spelled : StringForm form text) :
      ItemForm form (text.getD "")

mutual

/-- The tag of a value and what follows it. -/
inductive ValueForm : (depth : Nat) → List UInt8 → Stored → Prop where
  | null {depth : Nat} : ValueForm depth (Wire.int32 Value.nullTag) ⟨.null, trivial⟩
  | bool {depth : Nat} (word : Int32) :
      ValueForm depth (Wire.int32 Value.boolTag ++ Wire.int32 word) ⟨.bool (word ≠ 0), trivial⟩
  | int {depth : Nat} (value : Int32) :
      ValueForm depth (Wire.int32 Value.intTag ++ Wire.int32 value) ⟨.int value, trivial⟩
  | long {depth : Nat} (value : Int64) :
      ValueForm depth (Wire.int32 Value.longTag ++ Wire.int64 value) ⟨.long value, trivial⟩
  | double {depth : Nat} (value : Binary64) :
      ValueForm depth (Wire.int32 Value.doubleTag ++ Wire.float64 value) ⟨.double value, trivial⟩
  | string {depth : Nat} {form : List UInt8} {text : String}
      (spelled : StringForm form (some text)) :
      ValueForm depth (Wire.int32 Value.stringTag ++ form) ⟨.string text, trivial⟩
  | strings {depth : Nat} {form : List UInt8} {count : Int32} {items : List String}
      (counted : count.toInt = items.length) (listed : Forms ItemForm form items) :
      ValueForm depth (Wire.int32 Value.stringsTag ++ (Wire.int32 count ++ form))
        ⟨.strings items, trivial⟩
  | bytes {depth : Nat} {form : List UInt8} {bytes : Option (List UInt8)}
      (spelled : ByteArrayForm form bytes) :
      ValueForm depth (Wire.int32 Value.bytesTag ++ form) ⟨.bytes (bytes.getD []), trivial⟩
  | bundle {depth : Nat} {form : List UInt8} {bundle : Bundle}
      (nested : BundleForm (depth + 1) form bundle) :
      ValueForm depth (Wire.int32 Value.bundleTag ++ form) bundle.toStored

/-- Keys and their values. -/
inductive EntriesForm : (depth : Nat) → List UInt8 → List (String × Stored) → Prop where
  | nil {depth : Nat} : EntriesForm depth [] []
  | cons {depth : Nat} {keyForm valueForm later : List UInt8} {key : String} {value : Stored}
      {entries : List (String × Stored)} (named : StringForm keyForm (some key))
      (typed : ValueForm depth valueForm value) (tail : EntriesForm depth later entries) :
      EntriesForm depth (keyForm ++ valueForm ++ later) ((key, value) :: entries)

/-- The length of the payload, the magic word and the payload: the number of
entries and the entries. -/
inductive BundleForm : (depth : Nat) → List UInt8 → Bundle → Prop where
  | payload {depth : Nat} {form : List UInt8} {length count : Int32} {bundle : Bundle}
      {entries : List (String × Stored)} (shallow : depth ≤ Limits.bundleDepth)
      (measured : length.toInt = (Wire.int32 count ++ form).length)
      (counted : count.toInt = entries.length) (listed : EntriesForm depth form entries)
      (gathered : bundle.Gathers entries) :
      BundleForm depth
        (Wire.int32 length ++ (Wire.int32 Bundle.magic ++ (Wire.int32 count ++ form))) bundle

end

/-- A key and its value. -/
inductive EntryForm (depth : Nat) : List UInt8 → String × Stored → Prop where
  | entry {keyForm valueForm : List UInt8} {key : String} {value : Stored}
      (named : StringForm keyForm (some key)) (typed : ValueForm depth valueForm value) :
      EntryForm depth (keyForm ++ valueForm) (key, value)

theorem entriesForm_iff {depth : Nat} {form : List UInt8} {entries : List (String × Stored)} :
    EntriesForm depth form entries ↔ Forms (EntryForm depth) form entries := by
  constructor
  · intro listed
    induction entries generalizing form with
    | nil => cases listed; exact .nil
    | cons entry rest inductionHypothesis =>
        cases listed with
        | cons named typed tail => exact .cons (.entry named typed) (inductionHypothesis tail)
  · intro forms
    induction forms with
    | nil => exact .nil
    | cons head tail inductionHypothesis =>
        cases head with
        | entry named typed => exact .cons named typed inductionHypothesis

namespace Decoder

theorem StringForm.four_le_length {form : List UInt8} {text : Option String}
    (spelled : StringForm form text) : 4 ≤ form.length := by
  cases spelled <;> simp [Wire.int32]

/-- Items are never too many for the bytes that they take. -/
theorem items_fit {form : List UInt8} {items : List String} (listed : Forms ItemForm form items) :
    items.length * 4 ≤ form.length := by
  apply listed.length_mul_le
  rintro form _ ⟨spelled⟩
  exact spelled.four_le_length

end Decoder

end Courier
