import Courier.Proofs.Bundle.Reading
import Courier.Proofs.Parcel.Headers

namespace Courier.Parcel

/-! Items written one behind the other and read back in the same order.

Every item has a form, which the operation that writes it appends and the
operation that reads it consumes, whether that one succeeds or raises what the
item carries.  So a run of reads finds each item where the run of writes put it,
whatever the parcel held before. -/

/-- What can be written with one operation and read with another. -/
inductive Item where
  | int32 (value : Int32)
  | uint32 (value : UInt32)
  | int64 (value : Int64)
  | float64 (value : Binary64)
  | bool (value : Bool)
  | string (text : Option String)
  | byteArray (bytes : Option (List UInt8))
  /-- The token of an interface, and the interface that its reader expects. -/
  | token (descriptor expected : String)
  | noException
  | exception (fault : Fault)

namespace Item

def form : Item → List UInt8
  | .int32 value => Wire.int32 value
  | .uint32 value => Wire.uint32 value
  | .int64 value => Wire.int64 value
  | .float64 value => Wire.float64 value
  | .bool value => Wire.bool value
  | .string text => Wire.string? text
  | .byteArray bytes => Wire.byteArray? bytes
  | .token descriptor _ => Wire.interfaceToken descriptor
  | .noException => Wire.noException
  | .exception fault => Wire.exception fault

def writing : Item → Operation
  | .int32 value => .writeInt32 value
  | .uint32 value => .writeUInt32 value
  | .int64 value => .writeInt64 value
  | .float64 value => .writeFloat64 value
  | .bool value => .writeBool value
  | .string text => .writeString text
  | .byteArray bytes => .writeByteArray bytes
  | .token descriptor _ => .writeInterfaceToken descriptor
  | .noException => .writeNoException
  | .exception fault => .writeException fault

def reading : Item → Operation
  | .int32 _ => .readInt32
  | .uint32 _ => .readUInt32
  | .int64 _ => .readInt64
  | .float64 _ => .readFloat64
  | .bool _ => .readBool
  | .string _ => .readString
  | .byteArray _ => .readByteArray
  | .token _ expected => .enforceInterface expected
  | .noException => .readException
  | .exception _ => .readException

/-- What reading the item tells: the item itself, that a token names another
interface, or the fault that was written. -/
def outcome : Item → Except Fault Reading
  | .int32 value => .ok (.int32 value)
  | .uint32 value => .ok (.uint32 value)
  | .int64 value => .ok (.int64 value)
  | .float64 value => .ok (.float64 value)
  | .bool value => .ok (.bool value)
  | .string text => .ok (.string text)
  | .byteArray bytes => .ok (.byteArray bytes)
  | .token descriptor expected =>
      if descriptor = expected then .ok .done
      else .error (.interfaceMismatch expected descriptor)
  | .noException => .ok .done
  | .exception fault => .error (.remote fault.exceptionCode fault.message)

/-- The length of every text and byte array is a length, and a fault that is
written has an exception code. -/
def Fits : Item → Prop
  | .string text => (Utf8.bytes (text.getD "")).length < 2 ^ 31
  | .byteArray bytes => (bytes.getD []).length < 2 ^ 31
  | .token descriptor _ => (Utf8.bytes descriptor).length < 2 ^ 31
  | .exception fault => fault.exceptionCode ≠ 0 ∧ (Utf8.bytes fault.message).length < 2 ^ 31
  | .int32 _ | .uint32 _ | .int64 _ | .float64 _ | .bool _ | .noException => True

instance : (item : Item) → Decidable item.Fits
  | .string text => inferInstanceAs (Decidable ((Utf8.bytes (text.getD "")).length < 2 ^ 31))
  | .byteArray bytes => inferInstanceAs (Decidable ((bytes.getD []).length < 2 ^ 31))
  | .token descriptor _ => inferInstanceAs (Decidable ((Utf8.bytes descriptor).length < 2 ^ 31))
  | .exception fault =>
      inferInstanceAs (Decidable (fault.exceptionCode ≠ 0 ∧
        (Utf8.bytes fault.message).length < 2 ^ 31))
  | .int32 _ | .uint32 _ | .int64 _ | .float64 _ | .bool _ | .noException =>
      inferInstanceAs (Decidable True)

end Item

/-! One item. -/

section

variable {α : Type} {parcel : Parcel} {decoder : Decoder α} {form rest : List UInt8}

theorem reading_taken {value : α} (reading : α → Reading) (taken : decoder.Takes form value)
    (unread : parcel.bytes.drop parcel.position = form ++ rest) :
    ((parcel.read decoder).1.map reading, (parcel.read decoder).2) =
      (.ok (reading value), { parcel with position := parcel.position + form.length }) := by
  rw [read_taken taken unread]
  rfl

theorem reading_raised {fault : Fault} (reading : α → Reading) (raised : decoder.Raises form fault)
    (unread : parcel.bytes.drop parcel.position = form ++ rest) :
    ((parcel.read decoder).1.map reading, (parcel.read decoder).2) =
      (.error fault, { parcel with position := parcel.position + form.length }) := by
  rw [read_raised raised unread]
  rfl

end

namespace Item

open Decoder

theorem run_writing (item : Item) (parcel : Parcel) :
    item.writing.run parcel = (.ok .done, parcel.append item.form) := by
  cases item <;> rfl

theorem stringForm_string? {text : Option String}
    (bounded : (Utf8.bytes (text.getD "")).length < 2 ^ 31) :
    StringForm (Wire.string? text) text := by
  cases text with
  | none => exact .absent
  | some text => exact stringForm_of_text bounded

theorem byteArrayForm_byteArray? {bytes : Option (List UInt8)}
    (bounded : (bytes.getD []).length < 2 ^ 31) :
    ByteArrayForm (Wire.byteArray? bytes) bytes := by
  cases bytes with
  | none => exact .absent
  | some bytes => exact byteArrayForm_of_bytes bounded

theorem takes_bool (value : Bool) : Decoder.bool.Takes (Wire.bool value) value := by
  cases value
  · exact Decoder.takes_bool 0
  · exact Decoder.takes_bool 1

/-- Where the form of an item stands at the cursor, it is consumed, and its reader
tells what it should. -/
theorem run_reading {item : Item} (fits : item.Fits) {parcel : Parcel} {rest : List UInt8}
    (unread : parcel.bytes.drop parcel.position = item.form ++ rest) :
    item.reading.run parcel =
      (item.outcome, { parcel with position := parcel.position + item.form.length }) := by
  cases item with
  | int32 value => exact reading_taken .int32 (takes_int32 value) unread
  | uint32 value => exact reading_taken .uint32 (takes_uint32 value) unread
  | int64 value => exact reading_taken .int64 (takes_int64 value) unread
  | float64 value => exact reading_taken .float64 (takes_float64 value) unread
  | bool value => exact reading_taken .bool (takes_bool value) unread
  | string text =>
      exact reading_taken .string (takes_string? (stringForm_string? fits)) unread
  | byteArray bytes =>
      exact reading_taken .byteArray (takes_byteArray? (byteArrayForm_byteArray? fits)) unread
  | token descriptor expected =>
      have spelled := stringForm_of_text fits
      rw [outcome]
      split
      · rename_i same
        subst same
        have taken := takes_enforceInterface (.token Limits.strictMode spelled)
        exact reading_taken (fun _ => .done) taken unread
      · rename_i other
        have raised := raises_enforceInterface Limits.strictMode spelled
          fun same => other (Option.some.inj same)
        exact reading_raised (fun _ => .done) raised unread
  | noException => exact reading_taken (fun _ => .done) takes_noException unread
  | exception fault =>
      exact reading_raised (fun _ => .done) (raises_exception fits.1 fits.2) unread

end Item

/-! Runs of items. -/

theorem runAll_writing (items : List Item) (parcel : Parcel) :
    Operation.runAll parcel (items.map Item.writing) =
      (items.map fun _ => .ok .done, parcel.append (items.flatMap Item.form)) := by
  induction items generalizing parcel with
  | nil => simp [Operation.runAll, append]
  | cons item rest inductionHypothesis =>
      simp [Operation.runAll, item.run_writing, inductionHypothesis, append]

theorem runAll_reading {items : List Item} (fits : ∀ item ∈ items, item.Fits) {parcel : Parcel}
    {rest : List UInt8}
    (unread : parcel.bytes.drop parcel.position = items.flatMap Item.form ++ rest) :
    Operation.runAll parcel (items.map Item.reading) =
      (items.map Item.outcome,
        { parcel with position := parcel.position + (items.flatMap Item.form).length }) := by
  induction items generalizing parcel with
  | nil => simp [Operation.runAll]
  | cons item later inductionHypothesis =>
      obtain ⟨fitsHead, fitsLater⟩ := List.forall_mem_cons.1 fits
      rw [List.flatMap_cons, List.append_assoc] at unread
      have head := Item.run_reading fitsHead unread
      have behind : parcel.bytes.drop (parcel.position + item.form.length) =
          later.flatMap Item.form ++ rest := by
        rw [← List.drop_drop, unread, List.drop_left]
      have tail := @inductionHypothesis fitsLater
        { parcel with position := parcel.position + item.form.length } behind
      simp [Operation.runAll, head, tail, Nat.add_assoc]

/-- Items that are written behind whatever a parcel holds are read back in order,
each unchanged, from where the parcel ended, and the last read ends where the
parcel ends.  A token passes if it names the interface that is expected, and else
is reported with the name that was written.  A fault comes back as a remote one. -/
theorem items_read_back (parcel : Parcel) {items : List Item} (fits : ∀ item ∈ items, item.Fits) :
    ∃ filled : Parcel,
      Operation.runAll parcel (items.map Item.writing) = (items.map fun _ => .ok .done, filled) ∧
      Operation.runAll (filled.seek parcel.size) (items.map Item.reading) =
        (items.map Item.outcome, filled.seek filled.size) := by
  refine ⟨_, runAll_writing items parcel, ?_⟩
  have unread : (parcel.bytes ++ items.flatMap Item.form).drop parcel.size =
      items.flatMap Item.form ++ [] := by
    rw [List.append_nil]
    exact List.drop_left
  have found := @runAll_reading items fits
    ⟨parcel.bytes ++ items.flatMap Item.form, parcel.size⟩ [] unread
  rw [seek_append, found]
  simp [append, seek, size]

/-- An item of every kind, a text that is no whole words, and a token that names
another interface. -/
def mixedItems : List Item :=
  [.string (some "é"), .int32 (-5), .byteArray (some [1, 2, 3]), .string none, .bool true,
    .token "courier" "courier", .uint32 4294967295, .token "courier" "postman", .int64 (-1),
    .byteArray none, .exception (.other "late"), .noException, .float64 ⟨0x7FF8000000000001⟩]

theorem items_read_back_mixed :
    (∀ item ∈ mixedItems, item.Fits) ∧ ∃ filled : Parcel,
      Operation.runAll (ofBytes [7]) (mixedItems.map Item.writing) =
        (mixedItems.map fun _ => .ok .done, filled) ∧
      Operation.runAll (filled.seek 1) (mixedItems.map Item.reading) =
        ([.ok (.string (some "é")), .ok (.int32 (-5)), .ok (.byteArray (some [1, 2, 3])),
          .ok (.string none), .ok (.bool true), .ok .done, .ok (.uint32 4294967295),
          .error (.interfaceMismatch "postman" "courier"), .ok (.int64 (-1)),
          .ok (.byteArray none), .error (.remote Fault.illegalState "late"), .ok .done,
          .ok (.float64 ⟨0x7FF8000000000001⟩)], filled.seek filled.size) := by
  have fits : ∀ item ∈ mixedItems, item.Fits := by decide +kernel
  exact ⟨fits, items_read_back (ofBytes [7]) fits⟩

end Courier.Parcel
