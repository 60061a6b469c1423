import Courier.Proofs.Parcel.Decoding
import Courier.Proofs.Text.Utf8
import Mathlib.Algebra.Group.Nat.Defs

namespace Courier.Decoder

/-! The forms of the primitive fields.

A word has one form.  A string and a byte array may be absent, and the bytes
that fill them up to a multiple of four are of no account. -/

/-- A string: its length, its UTF-8 form, a NUL and less than four bytes up to a
multiple of four. -/
inductive StringForm : List UInt8 → Option String → Prop where
  | absent : StringForm (Wire.int32 Wire.absent) none
  | present {length : Int32} {text : String} {filler : List UInt8}
      (counted : length.toInt = (Utf8.bytes text).length) (short : filler.length < 4)
      (aligned : ((Utf8.bytes text).length + 1 + filler.length) % 4 = 0) :
      StringForm (Wire.int32 length ++ (Utf8.bytes text ++ 0 :: filler)) (some text)

/-- A byte array: its length, its bytes and less than four bytes up to a multiple
of four. -/
inductive ByteArrayForm : List UInt8 → Option (List UInt8) → Prop where
  | absent : ByteArrayForm (Wire.int32 Wire.absent) none
  | present {length : Int32} {bytes filler : List UInt8}
      (counted : length.toInt = bytes.length) (short : filler.length < 4)
      (aligned : (bytes.length + filler.length) % 4 = 0) :
      ByteArrayForm (Wire.int32 length ++ (bytes ++ filler)) (some bytes)

/-- A text whose length does not wrap is written in one of its forms. -/
theorem stringForm_of_text {text : String} (bounded : (Utf8.bytes text).length < 2 ^ 31) :
    StringForm (Wire.string text) (some text) := by
  refine .present (Int32.toInt_ofNat_of_lt bounded) ?_ ?_
  · rw [Wire.padding, List.length_replicate]
    omega
  · rw [Wire.padding, List.length_replicate]
    omega

theorem stringForm_string {text : String} (bounded : (Wire.string text).length < 2 ^ 31) :
    StringForm (Wire.string text) (some text) := by
  simp only [Wire.string, Wire.terminated, List.length_append, List.length_cons] at bounded
  exact stringForm_of_text (by omega)

theorem byteArrayForm_of_bytes {bytes : List UInt8} (bounded : bytes.length < 2 ^ 31) :
    ByteArrayForm (Wire.byteArray bytes) (some bytes) := by
  refine .present (Int32.toInt_ofNat_of_lt bounded) ?_ ?_
  · rw [Wire.padding, List.length_replicate]
    omega
  · rw [Wire.padding, List.length_replicate]
    omega

theorem byteArrayForm_byteArray {bytes : List UInt8}
    (bounded : (Wire.byteArray bytes).length < 2 ^ 31) :
    ByteArrayForm (Wire.byteArray bytes) (some bytes) := by
  simp only [Wire.byteArray, List.length_append] at bounded
  exact byteArrayForm_of_bytes (by omega)

/-! Words. -/

theorem holds_iff {bytes : List UInt8} {size : Nat} :
    holds bytes size = true ↔ size ≤ bytes.length := by
  fun_induction holds bytes size <;> simp_all

theorem takes_take (field : Field) (bytes : List UInt8) :
    (take field bytes.length).Takes bytes bytes := by
  intro before after consumed
  have enough : holds before.unread bytes.length = true := by
    rw [holds_iff, consumed.1]
    simp
  unfold take
  rw [if_pos enough, consumed.1, List.take_left, List.drop_left, ← consumed.2]

theorem sound_take (field : Field) (size : Nat) :
    (take field size).Sound fun form bytes => form = bytes ∧ bytes.length = size := by
  intro before after bytes decoded
  unfold take at decoded
  split at decoded
  · rename_i enough
    cases decoded
    have taken : (before.unread.take size).length = size := by
      rw [List.length_take, Nat.min_eq_left (holds_iff.1 enough)]
    exact ⟨_, ⟨(List.take_append_drop _ _).symm, by rw [taken]⟩, rfl, taken⟩
  · contradiction

theorem confined_take {size : Nat} (field : Field) {needed : Nat} (short : needed < 2 ^ 32) :
    Confined size (take field needed) fun bytes => bytes.length = needed ∧ needed ≤ size := by
  constructor
  · intro before after bytes whole decoded
    obtain ⟨_, consumed, rfl, measured⟩ := sound_take field needed decoded
    obtain ⟨unread, moved⟩ := consumed
    rw [Cursor.size, unread, List.length_append] at whole
    rw [Cursor.size, moved]
    exact ⟨by omega, measured, by omega⟩
  · intro before after fault whole failed
    unfold take at failed
    split at failed
    · contradiction
    · cases failed
      exact ⟨whole, _, rfl, short, by rw [← whole, Cursor.size]; omega, whole⟩

/-- A word of `width` bytes, and what is made of its digits. -/
theorem takes_word {α : Type} (field : Field) (width number : Nat) (make : Nat → α)
    (bounded : number < span width) :
    (do let bytes ← take field width
        return make (ofLittleEndian bytes)).Takes (littleEndian width number) (make number) := by
  have taken := takes_take field (littleEndian width number)
  rw [length_littleEndian] at taken
  refine taken.map ?_
  rw [ofLittleEndian_littleEndian, Nat.mod_eq_of_lt bounded]

theorem sound_word {α : Type} (field : Field) (width : Nat) (make : Nat → α) :
    (do let bytes ← take field width
        return make (ofLittleEndian bytes)).Sound fun form value =>
      ∃ number, number < span width ∧ value = make number ∧ form = littleEndian width number := by
  refine ((sound_take field width).map _).imp ?_
  rintro form value ⟨bytes, rfl, rfl, rfl⟩
  exact ⟨_, ofLittleEndian_lt form, rfl, (littleEndian_ofLittleEndian form).symm⟩

theorem confined_word {α : Type} {size : Nat} (field : Field) {width : Nat} (short : width < 2 ^ 32)
    (make : Nat → α) :
    Confined size (do let bytes ← take field width
                      return make (ofLittleEndian bytes)) fun _ => True :=
  (confined_take field short).bind fun _ _ => confined_pure trivial

theorem takes_uint32 (value : UInt32) : uint32.Takes (Wire.uint32 value) value := by
  have taken := takes_word .uint32 4 value.toNat UInt32.ofNat value.toNat_lt
  rwa [UInt32.ofNat_toNat] at taken

theorem takes_int32 (value : Int32) : int32.Takes (Wire.int32 value) value := by
  have taken := takes_word .int32 4 value.toUInt32.toNat (fun number => (UInt32.ofNat number).toInt32)
    value.toUInt32.toNat_lt
  rwa [UInt32.ofNat_toNat, Int32.toInt32_toUInt32] at taken

theorem sound_int32 : int32.Sound fun form value => form = Wire.int32 value := by
  refine (sound_word .int32 4 fun number => (UInt32.ofNat number).toInt32).imp ?_
  rintro form value ⟨number, bounded, rfl, rfl⟩
  rw [Wire.int32, UInt32.toUInt32_toInt32, UInt32.toNat_ofNat_of_lt' bounded]

theorem confined_int32 {size : Nat} : Confined size int32 fun _ => True :=
  confined_word .int32 (by decide) fun number => (UInt32.ofNat number).toInt32

theorem takes_int64 (value : Int64) : int64.Takes (Wire.int64 value) value := by
  have taken := takes_word .int64 8 value.toUInt64.toNat (fun number => (UInt64.ofNat number).toInt64)
    value.toUInt64.toNat_lt
  rwa [UInt64.ofNat_toNat, Int64.toInt64_toUInt64] at taken

theorem sound_int64 : int64.Sound fun form value => form = Wire.int64 value := by
  refine (sound_word .int64 8 fun number => (UInt64.ofNat number).toInt64).imp ?_
  rintro form value ⟨number, bounded, rfl, rfl⟩
  rw [Wire.int64, UInt64.toUInt64_toInt64, UInt64.toNat_ofNat_of_lt' bounded]

theorem confined_int64 {size : Nat} : Confined size int64 fun _ => True :=
  confined_word .int64 (by decide) fun number => (UInt64.ofNat number).toInt64

theorem takes_float64 (value : Binary64) : float64.Takes (Wire.float64 value) value := by
  have taken := takes_word .float64 8 value.bits.toNat
    (fun number => (⟨UInt64.ofNat number⟩ : Binary64))
    value.bits.toNat_lt
  rwa [UInt64.ofNat_toNat] at taken

theorem sound_float64 : float64.Sound fun form value => form = Wire.float64 value := by
  refine (sound_word .float64 8 fun number => (⟨UInt64.ofNat number⟩ : Binary64)).imp ?_
  rintro form value ⟨number, bounded, rfl, rfl⟩
  rw [Wire.float64, UInt64.toNat_ofNat_of_lt' bounded]

theorem confined_float64 {size : Nat} : Confined size float64 fun _ => True :=
  confined_word .float64 (by decide) fun number => (⟨UInt64.ofNat number⟩ : Binary64)

theorem takes_bool (word : Int32) : bool.Takes (Wire.int32 word) (word ≠ 0) :=
  (takes_int32 word).map rfl

theorem sound_bool :
    bool.Sound fun form value =>
      ∃ word : Int32, form = Wire.int32 word ∧ value = decide (word ≠ 0) := by
  refine (sound_int32.map _).imp ?_
  rintro form value ⟨word, rfl, rfl⟩
  exact ⟨word, rfl, rfl⟩

theorem confined_bool {size : Nat} : Confined size bool fun _ => True :=
  confined_int32.bind fun _ _ => confined_pure trivial

/-! Lengths. -/

theorem nonnegative_of_counted {length : Int32} {size : Nat} (counted : length.toInt = size) :
    ¬ length < 0 := by
  rw [Int32.lt_iff_toInt_lt, counted]
  simp

theorem toNatClampNeg_of_counted {length : Int32} {size : Nat} (counted : length.toInt = size) :
    length.toNatClampNeg = size := by
  simp [Int32.toNatClampNeg, counted]

theorem counted_of_nonnegative {length : Int32} (nonnegative : ¬ length < 0) :
    length.toInt = length.toNatClampNeg := by
  rw [Int32.lt_iff_toInt_lt, Int32.toInt_zero] at nonnegative
  simp only [Int32.toNatClampNeg]
  omega

theorem takes_length?_absent (field : Field) :
    (length? field).Takes (Wire.int32 Wire.absent) none :=
  (takes_int32 Wire.absent).map rfl

theorem takes_length? (field : Field) {length : Int32} {size : Nat}
    (counted : length.toInt = size) : (length? field).Takes (Wire.int32 length) (some size) := by
  have nonnegative := nonnegative_of_counted counted
  have present : length ≠ Wire.absent := by
    rintro rfl
    exact nonnegative (by decide)
  refine (takes_int32 length).map ?_
  rw [if_neg present, if_neg nonnegative, toNatClampNeg_of_counted counted]

theorem sound_length? (field : Field) :
    (length? field).Sound fun form size? =>
      (form = Wire.int32 Wire.absent ∧ size? = none) ∨
        ∃ (length : Int32) (size : Nat),
          length.toInt = size ∧ form = Wire.int32 length ∧ size? = some size := by
  intro before after size? decoded
  obtain ⟨length, middle, begun, ended⟩ := bind_ok.1 decoded
  obtain ⟨form, consumed, rfl⟩ := sound_int32 begun
  split at ended
  · rename_i absent
    cases ended
    exact ⟨_, consumed, .inl ⟨by rw [absent], rfl⟩⟩
  · split at ended
    · contradiction
    · rename_i nonnegative
      cases ended
      exact ⟨_, consumed, .inr ⟨length, _, counted_of_nonnegative nonnegative, rfl, rfl⟩⟩

theorem confined_length? {size : Nat} (field : Field) :
    Confined size (length? field) fun size? => ∀ length, size? = some length → length < 2 ^ 31 := by
  refine confined_int32.bind fun length _ => ?_
  split
  · exact confined_pure nofun
  · split
    · exact confined_fail (.negativeLength field length) trivial
    · refine confined_pure ?_
      rintro _ ⟨⟩
      exact length.toNatClampNeg_lt

/-! Strings and byte arrays. -/

theorem padded_eq {size fill : Nat} (short : fill < 4) (aligned : (size + fill) % 4 = 0) :
    Wire.padded size = size + fill := by
  unfold Wire.padded
  omega

theorem takes_string? {form : List UInt8} {text : Option String} (spelled : StringForm form text) :
    string?.Takes form text := by
  cases spelled with
  | absent => exact (takes_length?_absent .string).map rfl
  | @present length text filler counted short aligned =>
      have size : Wire.padded ((Utf8.bytes text).length + 1) =
          (Utf8.bytes text ++ 0 :: filler).length := by
        rw [padded_eq short aligned]
        simp only [List.length_append, List.length_cons]
        omega
      refine (takes_length? .string counted).bind ?_
      simp only [size]
      refine (takes_take .string _).map ?_
      simp [Utf8.string_bytes]

theorem eq_terminated {raw : List UInt8} {size : Nat} (terminated : raw[size]? = some 0) :
    raw = raw.take size ++ 0 :: raw.drop (size + 1) := by
  obtain ⟨inside, found⟩ := List.getElem?_eq_some_iff.1 terminated
  have split := List.take_append_drop size raw
  rw [List.drop_eq_getElem_cons inside, found] at split
  exact split.symm

theorem sound_string? : string?.Sound StringForm := by
  intro before after text? decoded
  obtain ⟨size?, middle, begun, ended⟩ := bind_ok.1 decoded
  obtain ⟨header, consumed, ⟨rfl, rfl⟩ | ⟨length, size, counted, rfl, rfl⟩⟩ :=
    sound_length? .string begun
  · cases ended
    exact ⟨_, consumed, .absent⟩
  · obtain ⟨raw, last, taken, checked⟩ := bind_ok.1 ended
    obtain ⟨body, consumedBody, rfl, bodySize⟩ := sound_take .string _ taken
    split at checked
    · contradiction
    · rename_i terminated
      have shape := eq_terminated (Decidable.of_not_not terminated)
      cases read : Utf8.string (body.take size) with
      | error flaw =>
          simp only [read] at checked
          contradiction
      | ok text =>
          simp only [read] at checked
          cases checked
          have textShape := Utf8.string_eq_ok.1 read
          have textSize : (Utf8.bytes text).length = size := by
            rw [← textShape, List.length_take, bodySize, Wire.padded]
            omega
          have fillerSize : (body.drop (size + 1)).length = (4 - (size + 1) % 4) % 4 := by
            rw [List.length_drop, bodySize, Wire.padded]
            omega
          rw [shape, textShape] at consumedBody
          exact ⟨_, consumed.trans consumedBody,
            .present (by rw [counted, textSize]) (by omega) (by omega)⟩

theorem confined_string? {size : Nat} : Confined size string? fun _ => True := by
  refine (confined_length? .string).bind fun size? counted => ?_
  split
  · exact confined_pure trivial
  · rename_i length
    have short : Wire.padded (length + 1) < 2 ^ 32 := by
      have bounded := counted length rfl
      rw [Wire.padded]
      omega
    refine (confined_take .string short).bind fun raw taken => ?_
    split
    · exact confined_fail .missingTerminator trivial
    · split
      · exact confined_pure trivial
      · rename_i flaw flawed
        refine confined_fail (.invalidText flaw) ?_
        have inside : (raw.take length).length ≤ size := by
          rw [List.length_take]
          omega
        exact Utf8.within_of_string flawed inside

theorem takes_byteArray? {form : List UInt8} {bytes : Option (List UInt8)}
    (spelled : ByteArrayForm form bytes) : byteArray?.Takes form bytes := by
  cases spelled with
  | absent => exact (takes_length?_absent .byteArray).map rfl
  | @present length bytes filler counted short aligned =>
      have size : Wire.padded bytes.length = (bytes ++ filler).length := by
        rw [padded_eq short aligned, List.length_append]
      refine (takes_length? .byteArray counted).bind ?_
      simp only [size]
      refine (takes_take .byteArray _).map ?_
      simp

theorem sound_byteArray? : byteArray?.Sound ByteArrayForm := by
  intro before after bytes? decoded
  obtain ⟨size?, middle, begun, ended⟩ := bind_ok.1 decoded
  obtain ⟨header, consumed, ⟨rfl, rfl⟩ | ⟨length, size, counted, rfl, rfl⟩⟩ :=
    sound_length? .byteArray begun
  · cases ended
    exact ⟨_, consumed, .absent⟩
  · obtain ⟨raw, last, taken, yielded⟩ := bind_ok.1 ended
    obtain ⟨body, consumedBody, rfl, bodySize⟩ := sound_take .byteArray _ taken
    cases yielded
    have takenSize : (body.take size).length = size := by
      rw [List.length_take, bodySize, Wire.padded]
      omega
    have fillerSize : (body.drop size).length = (4 - size % 4) % 4 := by
      rw [List.length_drop, bodySize, Wire.padded]
      omega
    rw [← List.take_append_drop size body] at consumedBody
    exact ⟨_, consumed.trans consumedBody,
      .present (by rw [counted, takenSize]) (by omega) (by omega)⟩

theorem confined_byteArray? {size : Nat} : Confined size byteArray? fun _ => True := by
  refine (confined_length? .byteArray).bind fun size? counted => ?_
  split
  · exact confined_pure trivial
  · rename_i length
    have short : Wire.padded length < 2 ^ 32 := by
      have bounded := counted length rfl
      rw [Wire.padded]
      omega
    exact (confined_take .byteArray short).bind fun raw _ => confined_pure trivial

end Courier.Decoder
