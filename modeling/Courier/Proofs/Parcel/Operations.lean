import Courier.Parcel.Basic
import Courier.Proofs.Parcel.Fields

namespace Courier

/-! What the operations of a parcel do to it.

Everything that is written is whole words, also where writing stops early, and
every read moves over whole words, also where it fails.  `Parcel.Changes` lists
the effects of the operations; under all of them the cursor stays within the
bytes. -/

/-! Reading. -/

namespace Decoder

variable {α β : Type}

/-- The cursor behind a step, whether it succeeded or failed. -/
def behind : EStateM.Result Fault Cursor α → Cursor
  | .ok _ cursor => cursor
  | .error _ cursor => cursor

/-- The decoder moves forward over whole words, whether it succeeds or fails. -/
def Strides (decoder : Decoder α) : Prop :=
  ∀ before : Cursor, ∃ form : List UInt8,
    before.Consumes form (behind (decoder before)) ∧ form.length % 4 = 0

theorem strides_of_still {decoder : Decoder α} (still : ∀ before, behind (decoder before) = before) :
    decoder.Strides := by
  intro before
  rw [still before]
  exact ⟨[], .refl before, rfl⟩

theorem strides_pure (value : α) : Strides (pure value) :=
  strides_of_still fun _ => rfl

theorem strides_throw (fault : Fault) : Strides (throw fault : Decoder α) :=
  strides_of_still fun _ => rfl

theorem strides_fail (defect : Defect) : Strides (fail defect : Decoder α) :=
  strides_throw (.malformed defect)

theorem Strides.bind {decoder : Decoder α} {next : α → Decoder β} (strides : decoder.Strides)
    (goesOn : ∀ value, (next value).Strides) : (decoder >>= next).Strides := by
  intro before
  obtain ⟨first, consumed, aligned⟩ := strides before
  change ∃ form, before.Consumes form (behind (EStateM.bind decoder next before)) ∧ _
  unfold EStateM.bind
  cases read : decoder before with
  | error fault middle =>
      rw [read] at consumed
      exact ⟨first, consumed, aligned⟩
  | ok value middle =>
      rw [read] at consumed
      obtain ⟨later, consumedLater, alignedLater⟩ := goesOn value middle
      refine ⟨first ++ later, consumed.trans consumedLater, ?_⟩
      rw [List.length_append]
      omega

/-- A pure step at the end moves no further. -/
theorem Strides.map {decoder : Decoder α} {next : α → Decoder β} (strides : decoder.Strides)
    (make : α → β) (yields : ∀ read, next read = pure (make read)) : (decoder >>= next).Strides :=
  strides.bind fun read => yields read ▸ strides_pure (make read)

theorem strides_take (field : Field) {size : Nat} (aligned : size % 4 = 0) :
    (take field size).Strides := by
  intro before
  cases read : take field size before with
  | ok bytes after =>
      obtain ⟨form, consumed, rfl, measured⟩ := sound_take field size read
      exact ⟨form, consumed, measured ▸ aligned⟩
  | error fault after =>
      unfold take at read
      split at read
      · contradiction
      · cases read
        exact ⟨[], .refl before, rfl⟩

theorem strides_uint32 : uint32.Strides :=
  (strides_take .uint32 rfl).map _ fun _ => rfl

theorem strides_int32 : int32.Strides :=
  (strides_take .int32 rfl).map _ fun _ => rfl

theorem strides_int64 : int64.Strides :=
  (strides_take .int64 rfl).map _ fun _ => rfl

theorem strides_float64 : float64.Strides :=
  (strides_take .float64 rfl).map _ fun _ => rfl

theorem strides_bool : bool.Strides :=
  strides_int32.map _ fun _ => rfl

theorem strides_length? (field : Field) : (length? field).Strides := by
  refine strides_int32.bind fun length => ?_
  split
  · exact strides_pure none
  · split
    · exact strides_fail _
    · exact strides_pure _

theorem padded_mod_four (size : Nat) : Wire.padded size % 4 = 0 := by
  unfold Wire.padded
  omega

theorem strides_string? : string?.Strides := by
  refine (strides_length? .string).bind fun length => ?_
  split
  · exact strides_pure none
  · refine (strides_take .string (padded_mod_four _)).bind fun raw => ?_
    split
    · exact strides_fail _
    · split
      · exact strides_pure _
      · exact strides_fail _

theorem strides_byteArray? : byteArray?.Strides := by
  refine (strides_length? .byteArray).bind fun length => ?_
  split
  · exact strides_pure none
  · exact (strides_take .byteArray (padded_mod_four _)).map _ fun _ => rfl

theorem strides_enforceInterface (expected : String) : (enforceInterface expected).Strides := by
  refine strides_int32.bind fun _ => strides_string?.bind fun actual => ?_
  split
  · exact strides_pure ()
  · exact strides_throw _

theorem strides_exception : exception.Strides := by
  refine strides_int32.bind fun code => ?_
  split
  · exact strides_pure ()
  · exact strides_string?.bind fun _ => strides_throw _

theorem strides_typed {object : Decoder α} (strides : object.Strides) : (typed object).Strides := by
  refine strides_int32.bind fun present => ?_
  split
  · exact strides_pure none
  · exact strides.map some fun _ => rfl

theorem strides_repeatFrom {item : Decoder α} (strides : item.Strides) (count : Nat)
    (read : List α) : (repeatFrom item count read).Strides := by
  induction count generalizing read with
  | zero => exact strides_pure read.reverse
  | succ count inductionHypothesis =>
      rw [repeatFrom_succ]
      exact strides.bind fun value => inductionHypothesis (value :: read)

theorem strides_strings : strings.Strides := by
  refine strides_int32.bind fun count => ?_
  have room : (roomFor count.toNatClampNeg 4).Strides := strides_of_still fun _ => rfl
  refine room.bind fun fits => ?_
  split
  · exact strides_fail _
  · exact strides_repeatFrom (strides_string?.map _ fun _ => rfl) _ []

theorem strides_value {nested : Decoder Bundle} (descends : nested.Strides) :
    (value nested).Strides := by
  refine strides_int32.bind fun tag => ?_
  split
  · exact strides_pure _
  split
  · exact strides_bool.map _ fun _ => rfl
  split
  · exact strides_int32.map _ fun _ => rfl
  split
  · exact strides_int64.map _ fun _ => rfl
  split
  · exact strides_float64.map _ fun _ => rfl
  split
  · refine strides_string?.bind fun text => ?_
    cases text with
    | none => exact strides_fail .nullString
    | some text => exact strides_pure _
  split
  · exact strides_strings.map _ fun _ => rfl
  split
  · exact strides_byteArray?.map _ fun _ => rfl
  split
  · exact descends.map _ fun _ => rfl
  · exact strides_fail (.unknownTag tag)

theorem strides_entry {nested : Decoder Bundle} (descends : nested.Strides) :
    (entry nested).Strides := by
  refine strides_string?.bind fun key => ?_
  cases key with
  | none => exact strides_fail .nullKey
  | some key => exact (strides_value descends).map _ fun _ => rfl

theorem strides_bundleWithin (levels : Nat) : (bundleWithin levels).Strides := by
  have offset : offset.Strides := strides_of_still fun _ => rfl
  induction levels with
  | zero => exact strides_fail .nestedTooDeep
  | succ levels inductionHypothesis =>
      refine strides_int32.bind fun length => ?_
      split
      · exact strides_fail _
      refine strides_int32.bind fun magic => ?_
      split
      · exact strides_fail _
      refine offset.bind fun start => strides_int32.bind fun count => ?_
      split
      · exact strides_fail _
      refine (strides_repeatFrom (strides_entry inductionHypothesis) _ []).bind fun entries => ?_
      refine offset.bind fun stop => ?_
      split
      · exact strides_fail _
      · exact strides_pure _

theorem strides_bundle : bundle.Strides :=
  strides_bundleWithin (Limits.bundleDepth + 1)

end Decoder

/-! Writing. -/

namespace Wire

@[simp] theorem length_int32 (value : Int32) : (int32 value).length = 4 :=
  length_littleEndian 4 _

@[simp] theorem length_count (size : Nat) : (count size).length = 4 :=
  length_int32 _

theorem string_mod_four (text : String) : (string text).length % 4 = 0 := by
  simp only [string, terminated, padding, List.length_append, List.length_cons, length_count,
    List.length_replicate]
  omega

theorem byteArray_mod_four (bytes : List UInt8) : (byteArray bytes).length % 4 = 0 := by
  simp only [byteArray, padding, List.length_append, length_count, List.length_replicate]
  omega

theorem strings_mod_four (items : List String) : (items.flatMap string).length % 4 = 0 := by
  induction items with
  | nil => rfl
  | cons item rest inductionHypothesis =>
      have aligned := string_mod_four item
      rw [List.flatMap_cons, List.length_append]
      omega

end Wire

namespace Draft

/-- What was put out is whole words. -/
def Aligned (draft : Draft) : Prop :=
  draft.bytes.length % 4 = 0

theorem aligned_int32 (value : Int32) (fault : Option Fault) : Aligned ⟨Wire.int32 value, fault⟩ := by
  simp [Aligned]

theorem Aligned.andThen {draft : Draft} {next : Unit → Draft} (aligned : draft.Aligned)
    (alignedNext : (next ()).Aligned) : (draft.andThen next).Aligned := by
  unfold Draft.andThen
  cases draft.fault with
  | some fault => exact aligned
  | none =>
      simp only [Aligned, List.length_append] at aligned alignedNext ⊢
      omega

end Draft

namespace Value

theorem aligned_framed (size : Nat) {entries : Draft} (aligned : entries.Aligned) :
    (framed size entries).Aligned := by
  simp only [Draft.Aligned] at aligned
  unfold framed
  cases entries.fault <;> simp [Draft.Aligned, aligned]

mutual

theorem aligned_write (value : Value) (depth : Nat) : (value.write depth).Aligned := by
  cases value with
  | null => exact Draft.aligned_int32 nullTag none
  | bool value => simp [write, Draft.Aligned, Wire.bool]
  | int value => simp [write, Draft.Aligned]
  | long value => simp [write, Draft.Aligned, Wire.int64]
  | double value => simp [write, Draft.Aligned, Wire.float64]
  | string text => simp [write, Draft.Aligned, Wire.string_mod_four]
  | strings items =>
      have aligned := Wire.strings_mod_four items
      simp only [write, Draft.Aligned, List.length_append, Wire.length_int32, Wire.length_count]
      omega
  | bytes value => simp [write, Draft.Aligned, Wire.byteArray_mod_four]
  | bundle entries =>
      rw [write]
      apply (Draft.aligned_int32 bundleTag none).andThen
      split
      · exact (rfl : 0 % 4 = 0)
      · exact aligned_framed _ (aligned_writeEntries entries (depth + 1))

theorem aligned_writeEntries (entries : List (String × Value)) (depth : Nat) :
    (writeEntries depth entries).Aligned := by
  cases entries with
  | nil => exact (rfl : 0 % 4 = 0)
  | cons entry rest =>
      obtain ⟨key, value⟩ := entry
      rw [writeEntries]
      exact Draft.Aligned.andThen (Wire.string_mod_four key)
        ((aligned_write value depth).andThen (aligned_writeEntries rest depth))

end

end Value

namespace Bundle

theorem aligned_write (bundle : Bundle) : bundle.write.Aligned :=
  Value.aligned_framed _ (Value.aligned_writeEntries bundle.entries 0)

theorem aligned_writeTyped (bundle : Option Bundle) : (writeTyped bundle).Aligned := by
  cases bundle with
  | none => exact Draft.aligned_int32 0 none
  | some bundle => exact (Draft.aligned_int32 1 none).andThen bundle.aligned_write

end Bundle

/-! Operations. -/

namespace Parcel

namespace Operation

/-- The operations that write a value behind the bytes. -/
def writes : Operation → Bool
  | .writeInt32 _ | .writeUInt32 _ | .writeInt64 _ | .writeFloat64 _ | .writeBool _
  | .writeString _ | .writeByteArray _ | .writeInterfaceToken _ | .writeNoException
  | .writeException _ | .writeTyped _ | .writeBundle _ => true
  | _ => false

/-- The operations that read from the cursor on. -/
def reads : Operation → Bool
  | .readInt32 | .readUInt32 | .readInt64 | .readFloat64 | .readBool | .readString
  | .readByteArray | .readTyped | .readBundle | .readException | .enforceInterface _ => true
  | _ => false

end Operation

/-- What an operation makes of a parcel, with whatever outcome. -/
inductive Changes (before : Parcel) : Operation → (after : Parcel) → Prop where
  | wrote {operation : Operation} {form : List UInt8} (writes : operation.writes = true)
      (aligned : form.length % 4 = 0) :
      Changes before operation ⟨before.bytes ++ form, before.position⟩
  | read {operation : Operation} {moved : Nat} (reads : operation.reads = true)
      (inside : before.position + moved ≤ before.size) (aligned : moved % 4 = 0) :
      Changes before operation ⟨before.bytes, before.position + moved⟩
  | appended (bytes : List UInt8) :
      Changes before (.append bytes) ⟨before.bytes ++ bytes, before.position⟩
  | overwritten {offset : Nat} {value : Int32} {bytes : List UInt8}
      (inside : offset + 4 ≤ before.size) (length : bytes.length = before.size)
      (word : (bytes.drop offset).take 4 = Wire.int32 value)
      (others : ∀ index, index < offset ∨ offset + 4 ≤ index → bytes[index]? = before.bytes[index]?) :
      Changes before (.overwrite offset value) ⟨bytes, before.position⟩
  | ignored {offset : Nat} {value : Int32} (outside : before.size < offset + 4) :
      Changes before (.overwrite offset value) before
  | cleared : Changes before .clear .empty
  | sought (position : Nat) :
      Changes before (.seek position) ⟨before.bytes, min position before.size⟩

theorem Changes.inside {before after : Parcel} {operation : Operation}
    (changes : Changes before operation after) (inside : before.position ≤ before.size) :
    after.position ≤ after.size := by
  cases changes with
  | wrote writes aligned | appended bytes =>
      simp only [size, List.length_append] at inside ⊢
      omega
  | read reads within aligned => exact within
  | overwritten within length word others => exact inside.trans_eq length.symm
  | ignored outside => exact inside
  | cleared => exact Nat.zero_le 0
  | sought position => exact Nat.min_le_right _ _

/-- A read moves the cursor over whole words that are there. -/
theorem changes_read {α : Type} {decoder : Decoder α} (strides : decoder.Strides) {parcel : Parcel}
    (inside : parcel.position ≤ parcel.size) {operation : Operation}
    (reads : operation.reads = true) : Changes parcel operation (parcel.read decoder).2 := by
  obtain ⟨form, consumed, aligned⟩ := strides ⟨parcel.position, parcel.bytes.drop parcel.position⟩
  have moved : (parcel.read decoder).2 = ⟨parcel.bytes, parcel.position + form.length⟩ := by
    have forward := consumed.2
    unfold Parcel.read
    cases read : decoder ⟨parcel.position, parcel.bytes.drop parcel.position⟩ <;>
      · rw [read] at forward
        simpa [Decoder.behind] using forward
  have within : form.length ≤ (parcel.bytes.drop parcel.position).length := by
    have unread := congrArg List.length consumed.1
    rw [List.length_append] at unread
    exact unread ▸ Nat.le_add_right _ _
  rw [moved]
  refine .read reads ?_ aligned
  rw [List.length_drop] at within
  simp only [size] at inside ⊢
  omega

theorem changes_overwrite (parcel : Parcel) (offset : Nat) (value : Int32) :
    Changes parcel (.overwrite offset value) (parcel.overwrite offset value) := by
  unfold overwrite
  split
  · rename_i inside
    have width := Wire.length_int32 value
    have front : (parcel.bytes.take offset).length = offset := by
      rw [List.length_take]
      exact Nat.min_eq_left (Nat.le_trans (Nat.le_add_right _ _) inside)
    refine .overwritten inside ?_ ?_ ?_
    · simp only [List.length_append, front, width, List.length_drop]
      simp only [size] at inside ⊢
      omega
    · rw [List.drop_left' front, List.take_left' width]
    · rintro index (before | behind)
      · rw [List.getElem?_append_left (by omega), List.getElem?_take_of_lt before]
      · rw [List.getElem?_append_right (by omega), List.getElem?_append_right (by omega),
          List.getElem?_drop, front, width]
        congr 1
        omega
  · rename_i outside
    exact .ignored (Nat.not_le.1 outside)

/-- Every operation does what its kind does, whether it succeeds or fails. -/
theorem changes_run {parcel : Parcel} (inside : parcel.position ≤ parcel.size)
    (operation : Operation) : Changes parcel operation (operation.run parcel).2 := by
  cases operation with
  | writeInt32 value => exact .wrote rfl (by simp)
  | writeUInt32 value => exact .wrote rfl (by simp [Wire.uint32])
  | writeInt64 value => exact .wrote rfl (by simp [Wire.int64])
  | writeFloat64 value => exact .wrote rfl (by simp [Wire.float64])
  | writeBool value => exact .wrote rfl (by simp [Wire.bool])
  | writeString text =>
      cases text with
      | none => exact .wrote rfl (by simp [Wire.string?])
      | some text => exact .wrote rfl (Wire.string_mod_four text)
  | writeByteArray bytes =>
      cases bytes with
      | none => exact .wrote rfl (by simp [Wire.byteArray?])
      | some bytes => exact .wrote rfl (Wire.byteArray_mod_four bytes)
  | writeInterfaceToken descriptor =>
      exact .wrote rfl (by simp [Wire.interfaceToken, Wire.string_mod_four])
  | writeNoException => exact .wrote rfl (by simp [Wire.noException])
  | writeException fault => exact .wrote rfl (by simp [Wire.exception, Wire.string_mod_four])
  | writeTyped bundle => exact .wrote rfl (Bundle.aligned_writeTyped bundle)
  | writeBundle bundle => exact .wrote rfl bundle.aligned_write
  | append bytes => exact .appended bytes
  | overwrite offset value => exact changes_overwrite parcel offset value
  | clear => exact .cleared
  | seek position => exact .sought position
  | readInt32 => exact changes_read Decoder.strides_int32 inside rfl
  | readUInt32 => exact changes_read Decoder.strides_uint32 inside rfl
  | readInt64 => exact changes_read Decoder.strides_int64 inside rfl
  | readFloat64 => exact changes_read Decoder.strides_float64 inside rfl
  | readBool => exact changes_read Decoder.strides_bool inside rfl
  | readString => exact changes_read Decoder.strides_string? inside rfl
  | readByteArray => exact changes_read Decoder.strides_byteArray? inside rfl
  | readTyped => exact changes_read (Decoder.strides_typed Decoder.strides_bundle) inside rfl
  | readBundle => exact changes_read Decoder.strides_bundle inside rfl
  | readException => exact changes_read Decoder.strides_exception inside rfl
  | enforceInterface expected =>
      exact changes_read (Decoder.strides_enforceInterface expected) inside rfl

theorem inside_runAll {parcel : Parcel} (inside : parcel.position ≤ parcel.size)
    (operations : List Operation) :
    (Operation.runAll parcel operations).2.position ≤ (Operation.runAll parcel operations).2.size := by
  induction operations generalizing parcel with
  | nil => exact inside
  | cons operation rest inductionHypothesis =>
      exact inductionHypothesis ((changes_run inside operation).inside inside)

/-- In every parcel that operations can lead to, the cursor is within the bytes,
and the next operation does what its kind does and nothing else. -/
theorem operations_contained (bytes : List UInt8) (operations : List Operation) :
    ∃ (outcomes : List (Except Fault Reading)) (reached : Parcel),
      Operation.runAll (.ofBytes bytes) operations = (outcomes, reached) ∧
      reached.position ≤ reached.size ∧
      ∀ operation : Operation, Changes reached operation (operation.run reached).2 := by
  have inside := @inside_runAll (.ofBytes bytes) (Nat.zero_le _) operations
  exact ⟨_, _, rfl, inside, changes_run inside⟩

end Parcel

end Courier
