import Courier.Bundle.Extent
import Courier.Proofs.Bundle.RoundTrip
import Courier.Proofs.Parcel.Operations

namespace Courier

/-! Bundles that are too long for the length in front of them.

How long the payload of a bundle is follows from what the bundle holds.  Writing
does not look at it, so from `2 ^ 31` bytes on the length that is written is not
that of the payload. -/

namespace Wire

theorem length_string (text : String) : (string text).length = stringSize text := by
  simp only [string, terminated, padding, stringSize, padded, List.length_append, length_count,
    List.length_cons, List.length_replicate, Utf8.length_bytes]
  omega

theorem length_byteArray (bytes : List UInt8) :
    (byteArray bytes).length = 4 + padded bytes.length := by
  simp [byteArray, padding, padded]

theorem length_strings (items : List String) :
    (items.flatMap string).length =
      items.foldr (fun item size => stringSize item + size) 0 := by
  induction items with
  | nil => rfl
  | cons item rest inductionHypothesis =>
      rw [List.flatMap_cons, List.length_append, length_string, inductionHypothesis,
        List.foldr_cons]

end Wire

namespace Value

mutual

theorem length_write (value : Value) {depth : Nat} (finished : (value.write depth).fault = none) :
    (value.write depth).bytes.length = value.extent := by
  cases value with
  | null => rfl
  | bool value => rfl
  | int value => rfl
  | long value => rfl
  | double value => rfl
  | string text => simp [write, extent, Wire.length_string]
  | strings items =>
      simp only [write, extent, List.length_append, Wire.length_int32, Wire.length_count,
        Wire.length_strings]
      omega
  | bytes value => simp [write, extent, Wire.length_byteArray, ← Nat.add_assoc]
  | bundle entries =>
      rw [write, Draft.fault_andThen, Option.none_or] at finished
      rw [write, Draft.bytes_andThen rfl]
      split at finished
      · contradiction
      · rename_i shallow
        rw [fault_framed] at finished
        rw [if_neg shallow, bytes_framed finished]
        simp only [List.length_append, Wire.length_int32, Wire.length_count,
          length_writeEntries entries finished, extent]
        omega

theorem length_writeEntries (entries : List (String × Value)) {depth : Nat}
    (finished : (writeEntries depth entries).fault = none) :
    (writeEntries depth entries).bytes.length = extentOfEntries entries := by
  cases entries with
  | nil => rfl
  | cons entry rest =>
      obtain ⟨key, value⟩ := entry
      rw [writeEntries, Draft.fault_andThen, Option.none_or, Draft.fault_andThen] at finished
      obtain ⟨finishedValue, finishedRest⟩ := Option.or_eq_none_iff.1 finished
      rw [writeEntries, Draft.bytes_andThen rfl, Draft.bytes_andThen finishedValue]
      simp only [List.length_append, Wire.length_string, length_write value finishedValue,
        length_writeEntries rest finishedRest, extentOfEntries]
      omega

end

end Value

namespace Bundle

variable {bundle : Bundle}

theorem length_payload (finished : bundle.write.fault = none) :
    (Wire.count bundle.size ++ (Value.writeEntries 0 bundle.entries).bytes).length =
      bundle.payload := by
  rw [write, Value.fault_framed] at finished
  rw [List.length_append, Wire.length_count, Value.length_writeEntries _ finished, payload]

theorem bytes_write (finished : bundle.write.fault = none) :
    bundle.write.bytes = Wire.count bundle.payload ++ (Wire.int32 magic ++
      (Wire.count bundle.size ++ (Value.writeEntries 0 bundle.entries).bytes)) := by
  rw [← length_payload finished]
  rw [write, Value.fault_framed] at finished
  exact Value.bytes_framed finished

theorem length_write (finished : bundle.write.fault = none) :
    bundle.write.bytes.length = 8 + bundle.payload := by
  rw [bytes_write finished, List.length_append, List.length_append, length_payload finished,
    Wire.length_count, Wire.length_int32]
  omega

/-- All counts and lengths in what is written, at every level, are true exactly if
that of the whole payload has a word. -/
theorem canonicalBundle_iff (finished : bundle.write.fault = none) :
    CanonicalBundle 0 bundle.write.bytes bundle ↔ bundle.payload < 2 ^ 31 := by
  constructor
  · intro canonical
    have whole := length_write finished
    generalize bundle.write.bytes = form at canonical whole
    cases canonical with
    | @payload _ _ length _ _ _ _ measured _ _ _ _ =>
        have largest := length.toInt_lt
        simp only [List.length_append, Wire.length_int32] at whole measured
        omega
  · intro bounded
    exact canonicalBundle_payload finished (by rwa [length_payload finished])

/-- A payload of which the length wraps below zero is refused at that length. -/
theorem raises_wrapped (wrapped : Int32.ofNat bundle.payload < 0) :
    Decoder.bundle.Raises (Wire.count bundle.payload)
      (.malformed (.negativePayload (Int32.ofNat bundle.payload))) :=
  (Decoder.takes_int32 _).raises (if_pos wrapped)

theorem writtenAndRead_wrapped (finished : bundle.write.fault = none)
    (wrapped : Int32.ofNat bundle.payload < 0) :
    bundle.writtenAndRead = .error (.malformed (.negativePayload (Int32.ofNat bundle.payload))) := by
  have refused := @Parcel.read_raised _ _ _ _ _ (raises_wrapped wrapped)
    (Parcel.empty.append bundle.write.bytes) (bytes_write finished)
  rw [writtenAndRead, Parcel.write_finished finished]
  simp only [refused]

/-- In front of what is written stands the length of the payload, as far as a word
holds it. -/
theorem read_length (finished : bundle.write.fault = none) (parcel : Parcel) :
    (((parcel.append bundle.write.bytes).seek parcel.size).read Decoder.int32).1 =
      .ok (Int32.ofNat bundle.payload) := by
  have first : (parcel.bytes ++ bundle.write.bytes).drop parcel.size = _ :=
    List.drop_left.trans (bytes_write finished)
  rw [Parcel.seek_append, Parcel.read_taken (Decoder.takes_int32 _) first]

/-- Writing a bundle is refused if bundles nest too deep in it, and never for its
size.  What is written has the size of the bundle, and its first word is the length
of the payload as far as a word holds it.  All counts and lengths in it, at every
level, are true as long as the payload is shorter than `2 ^ 31` bytes, and no longer
than that. -/
theorem counts_exact_iff (bundle : Bundle) (parcel : Parcel) :
    ((parcel.write bundle.write).1 = .ok () ↔ bundle.depth ≤ Limits.bundleDepth) ∧
    ∀ after : Parcel, parcel.write bundle.write = (.ok (), after) →
      after.size = parcel.size + 8 + bundle.payload ∧
      ((after.seek parcel.size).read Decoder.int32).1 = .ok (Int32.ofNat bundle.payload) ∧
      (CanonicalBundle 0 (after.bytes.drop parcel.size) bundle ↔ bundle.payload < 2 ^ 31) := by
  constructor
  · rw [(Parcel.write_read_bundle bundle parcel).1]
    split <;> simp_all
  · intro after written
    obtain ⟨finished, rfl⟩ := Parcel.write_eq_ok.1 written
    have behind : (parcel.append bundle.write.bytes).bytes.drop parcel.size = bundle.write.bytes :=
      List.drop_left
    rw [Parcel.size_append, length_write finished, read_length finished, behind,
      canonicalBundle_iff finished, Nat.add_assoc]
    exact ⟨rfl, rfl, Iff.rfl⟩

theorem counts_exact_iff_nested :
    ((Parcel.ofBytes [7]).write Parcel.nestedSample.write).1 = .ok () ∧
    Parcel.nestedSample.payload < 2 ^ 31 ∧
    ∃ after, (Parcel.ofBytes [7]).write Parcel.nestedSample.write = (.ok (), after) ∧
      after.size = 1 + 8 + Parcel.nestedSample.payload ∧
      CanonicalBundle 0 (after.bytes.drop 1) Parcel.nestedSample := by
  obtain ⟨refused, written⟩ := counts_exact_iff Parcel.nestedSample (.ofBytes [7])
  have accepted := refused.2 (by decide)
  have bounded : Parcel.nestedSample.payload < 2 ^ 31 := by decide +kernel
  obtain ⟨grown, _, exact⟩ := written _ (Prod.ext accepted rfl)
  exact ⟨accepted, bounded, _, Prod.ext accepted rfl, grown, exact.2 bounded⟩

/-- A bundle with a text of so many letters. -/
def lettered (count : Nat) : Bundle where
  entries := [("k", .string (String.ofList (List.replicate count 'a')))]
  ordered := ⟨List.pairwise_singleton _ _, trivial, trivial⟩

theorem payload_lettered (count : Nat) :
    (lettered count).payload = 20 + Wire.padded (count + 1) := by
  have letters : (String.ofList (List.replicate count 'a')).utf8ByteSize = count := by
    have letter : 'a'.utf8Size = 1 := rfl
    simp [← Utf8.length_bytes, Utf8.bytes, Utf8.encode, List.length_flatMap, letter]
  have key : Wire.stringSize "k" = 8 := rfl
  have text : Wire.stringSize (String.ofList (List.replicate count 'a')) =
      4 + Wire.padded (count + 1) := by
    rw [Wire.stringSize, letters]
  simp only [payload, lettered, Value.extentOfEntries, Value.extent, key, text]
  omega

/-- Copies of a bundle under sixteen keys of one letter. -/
def sixteenfold (bundle : Bundle) : Bundle where
  entries :=
    ["a", "b", "c", "d", "e", "f", "g", "h", "i", "j", "k", "l", "m", "n", "o", "p"].map fun key =>
      (key, .bundle bundle.entries)
  ordered := by
    refine ⟨List.pairwise_map.2 (show List.Pairwise Keyed.Precedes _ by decide), ?_⟩
    refine Value.orderedEntries_iff.2 fun entry member => ?_
    obtain ⟨key, _, rfl⟩ := List.mem_map.1 member
    exact bundle.ordered

theorem payload_sixteenfold (bundle : Bundle) :
    bundle.sixteenfold.payload = 4 + 16 * (20 + bundle.payload) := by
  have copies (keys : List String) (short : ∀ key ∈ keys, Wire.stringSize key = 8) :
      Value.extentOfEntries (keys.map fun key => (key, .bundle bundle.entries)) =
        keys.length * (20 + bundle.payload) := by
    induction keys with
    | nil => simp [Value.extentOfEntries]
    | cons key rest inductionHypothesis =>
        obtain ⟨first, later⟩ := List.forall_mem_cons.1 short
        simp only [List.map_cons, Value.extentOfEntries, Value.extent, first,
          inductionHypothesis later, List.length_cons, payload, Nat.add_mul, Nat.one_mul]
        omega
  rw [payload, sixteenfold, copies _ (by decide)]
  rfl

/-- Sixteen texts of `2 ^ 27` bytes are written without complaint, and the length of
the payload wraps. -/
theorem payload_length_wraps :
    (Parcel.empty.write (lettered (2 ^ 27)).sixteenfold.write).1 = .ok () ∧
    (lettered (2 ^ 27)).sixteenfold.payload = 2147484356 ∧
    (((Parcel.empty.write (lettered (2 ^ 27)).sixteenfold.write).2.seek 0).read
      Decoder.int32).1 = .ok (-2147482940) ∧
    ¬ CanonicalBundle 0 (lettered (2 ^ 27)).sixteenfold.write.bytes (lettered (2 ^ 27)).sixteenfold ∧
    (lettered (2 ^ 27)).sixteenfold.writtenAndRead =
      .error (.malformed (.negativePayload (-2147482940))) := by
  have finished : (lettered (2 ^ 27)).sixteenfold.write.fault = none := by
    rw [fault_write]
    exact if_pos (by decide)
  have size : (lettered (2 ^ 27)).sixteenfold.payload = 2147484356 := by
    rw [payload_sixteenfold, payload_lettered]
    rfl
  -- From here on the bundle is never opened: its form is far too long to compute.
  generalize (lettered (2 ^ 27)).sixteenfold = bundle at finished size ⊢
  have word : Int32.ofNat bundle.payload = -2147482940 := by
    rw [size]
    decide
  have refused := writtenAndRead_wrapped finished (by rw [word]; decide)
  have first := read_length finished .empty
  rw [word] at refused first
  rw [Parcel.write_finished finished, canonicalBundle_iff finished, size]
  exact ⟨rfl, rfl, first, by decide, refused⟩

end Bundle

end Courier
