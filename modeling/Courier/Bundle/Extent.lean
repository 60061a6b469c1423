import Courier.Parcel.Basic

namespace Courier

/-! How long the byte form of a bundle is.

The sizes come from what the bundle holds, so none of its bytes is needed. -/

/-- The size of the form of a string. -/
def Wire.stringSize (text : String) : Nat :=
  4 + padded (text.utf8ByteSize + 1)

mutual

/-- The size of the form of a value, its tag included. -/
def Value.extent : Value → Nat
  | .null => 4
  | .bool _ | .int _ => 8
  | .long _ | .double _ => 12
  | .string text => 4 + Wire.stringSize text
  | .strings items => 8 + items.foldr (fun item size => Wire.stringSize item + size) 0
  | .bytes value => 8 + Wire.padded value.length
  | .bundle entries => 16 + Value.extentOfEntries entries

def Value.extentOfEntries : List (String × Value) → Nat
  | [] => 0
  | (key, value) :: rest => Wire.stringSize key + value.extent + Value.extentOfEntries rest

end

namespace Bundle

/-- The size of the payload of a bundle: the number of entries and the entries. -/
def payload (bundle : Bundle) : Nat :=
  4 + Value.extentOfEntries bundle.entries

/-- Writes a bundle to a parcel of its own and reads it back; also tells how many
bytes are left. -/
def writtenAndRead (bundle : Bundle) : Except Fault (Bundle × Nat) :=
  match Parcel.empty.write bundle.write with
  | (.error fault, _) => .error fault
  | (.ok (), parcel) =>
      match parcel.read Decoder.bundle with
      | (.error fault, _) => .error fault
      | (.ok read, parcel) => .ok (read, parcel.available)

end Bundle

end Courier
