import Courier.Proofs.Bundle.RoundTrip

namespace Courier

/-! Writing a bundle that was read.

Whatever is read can be written, in at most twice the bytes: an absent item of
four bytes becomes an empty one of eight, and nothing else grows.  What is
written is what was read exactly if that was canonical. -/

open Decoder

theorem Wire.count_of_counted {count : Int32} {size : Nat} (counted : count.toInt = size) :
    Wire.count size = Wire.int32 count := by
  rw [Wire.count, ← Int32.ofInt_eq_ofNat, ← counted, Int32.ofInt_toInt]

theorem eq_padding {filler : List UInt8} {size : Nat} (short : filler.length < 4)
    (aligned : (size + filler.length) % 4 = 0) (zero : ∀ byte ∈ filler, byte = 0) :
    filler = Wire.padding size := by
  apply List.eq_replicate_iff.2
  exact ⟨by omega, zero⟩

namespace Decoder

theorem CanonicalString.eq_string {form : List UInt8} {text : String}
    (canonical : CanonicalString form text) : Wire.string text = form := by
  obtain ⟨spelled, filled⟩ := canonical
  cases spelled with
  | present counted short aligned =>
      rw [drop_int32] at filled
      have zero := (List.forall_mem_cons.1 filled).2
      rw [Wire.string, Wire.terminated, Wire.count_of_counted counted,
        ← eq_padding short aligned zero]

theorem CanonicalByteArray.eq_byteArray {form bytes : List UInt8}
    (canonical : CanonicalByteArray form bytes) : Wire.byteArray bytes = form := by
  obtain ⟨spelled, filled⟩ := canonical
  cases spelled with
  | present counted short aligned =>
      rw [drop_int32] at filled
      rw [Wire.byteArray, Wire.count_of_counted counted, ← eq_padding short aligned filled]

theorem flatMap_string {form : List UInt8} {items : List String}
    (listed : Forms CanonicalString form items) : items.flatMap Wire.string = form := by
  induction listed with
  | nil => rfl
  | cons head tail inductionHypothesis =>
      rw [List.flatMap_cons, head.eq_string, inductionHypothesis]

/-! How much longer a field gets. -/

theorem StringForm.length_string {form : List UInt8} {text : Option String}
    (spelled : StringForm form text) :
    (Wire.string (text.getD "")).length ≤ 2 * form.length := by
  cases spelled with
  | absent => decide
  | present counted short aligned =>
      simp only [Wire.string, Wire.terminated, Wire.count, Wire.int32, Wire.padding,
        Option.getD_some, List.length_append, List.length_cons, List.length_replicate,
        length_littleEndian]
      omega

theorem ByteArrayForm.length_byteArray {form : List UInt8} {bytes : Option (List UInt8)}
    (spelled : ByteArrayForm form bytes) :
    (Wire.byteArray (bytes.getD [])).length ≤ 2 * form.length := by
  cases spelled with
  | absent => decide
  | present counted short aligned =>
      simp only [Wire.byteArray, Wire.count, Wire.int32, Wire.padding, Option.getD_some,
        List.length_append, List.length_replicate, length_littleEndian]
      omega

theorem length_flatMap_string {form : List UInt8} {items : List String}
    (listed : Forms ItemForm form items) :
    (items.flatMap Wire.string).length ≤ 2 * form.length := by
  induction listed with
  | nil => simp
  | cons head tail inductionHypothesis =>
      cases head with
      | item spelled =>
          have item := spelled.length_string
          simp only [List.flatMap_cons, List.length_append]
          omega

end Decoder

/-- The draft is finished, and in at most `size` bytes. -/
structure Draft.Within (draft : Draft) (size : Nat) : Prop where
  finished : draft.fault = none
  short : draft.bytes.length ≤ size

theorem Draft.Within.andThen {draft : Draft} {next : Unit → Draft} {first later : Nat}
    (head : draft.Within first) (tail : (next ()).Within later) :
    (draft.andThen next).Within (first + later) := by
  constructor
  · rw [Draft.fault_andThen, head.finished, Option.none_or, tail.finished]
  · rw [Draft.bytes_andThen head.finished, List.length_append]
    exact Nat.add_le_add head.short tail.short

theorem Draft.Within.mono {draft : Draft} {size larger : Nat} (within : draft.Within size)
    (room : size ≤ larger) : draft.Within larger :=
  ⟨within.finished, Nat.le_trans within.short room⟩

namespace Value

variable {depth : Nat}

theorem within_cons {key : String} {value : Value} {rest : List (String × Value)} {size : Nat} :
    (writeEntries depth ((key, value) :: rest)).Within size ↔
      (value.write depth).fault = none ∧ (writeEntries depth rest).fault = none ∧
        (Wire.string key).length + (value.write depth).bytes.length +
          (writeEntries depth rest).bytes.length ≤ size := by
  have fault : (writeEntries depth ((key, value) :: rest)).fault = none ↔
      (value.write depth).fault = none ∧ (writeEntries depth rest).fault = none := by
    rw [writeEntries, Draft.fault_andThen, Option.none_or, Draft.fault_andThen,
      Option.or_eq_none_iff]
  have bytes (finished : (value.write depth).fault = none) :
      (writeEntries depth ((key, value) :: rest)).bytes.length =
        (Wire.string key).length + (value.write depth).bytes.length +
          (writeEntries depth rest).bytes.length := by
    rw [writeEntries, Draft.bytes_andThen rfl, Draft.bytes_andThen finished, List.length_append,
      List.length_append, Nat.add_assoc]
  constructor
  · rintro ⟨finished, short⟩
    obtain ⟨finishedValue, finishedRest⟩ := fault.1 finished
    exact ⟨finishedValue, finishedRest, bytes finishedValue ▸ short⟩
  · rintro ⟨finishedValue, finishedRest, short⟩
    exact ⟨fault.2 ⟨finishedValue, finishedRest⟩, (bytes finishedValue).symm ▸ short⟩

/-- An entry adds no more than its own bytes, whether it is kept or not. -/
theorem within_insertNew {key : String} {value : Value} {entries : List (String × Value)}
    {keySize valueSize size : Nat} (named : (Wire.string key).length ≤ keySize)
    (typed : (value.write depth).Within valueSize) (listed : (writeEntries depth entries).Within size) :
    (writeEntries depth (Keyed.insertNew key value entries)).Within
      (keySize + valueSize + size) := by
  have short := typed.short
  induction entries generalizing size with
  | nil =>
      apply within_cons.2
      exact ⟨typed.finished, rfl, by simp [writeEntries]; omega⟩
  | cons entry rest inductionHypothesis =>
      obtain ⟨other, stored⟩ := entry
      unfold Keyed.insertNew
      split
      · have shortRest := listed.short
        exact within_cons.2 ⟨typed.finished, listed.finished, by omega⟩
      · split
        · exact listed.mono (Nat.le_add_left _ _)
        · obtain ⟨finished, finishedRest, shortRest⟩ := within_cons.1 listed
          have inserted := inductionHypothesis ⟨finishedRest, Nat.le_refl _⟩
          have shortInserted := inserted.short
          exact within_cons.2 ⟨finished, inserted.finished, by omega⟩

theorem within_framed {entries : Draft} {size : Nat} (count : Nat) (listed : entries.Within size) :
    (framed count entries).Within (12 + size) := by
  obtain ⟨finished, short⟩ := listed
  constructor
  · rw [fault_framed, finished]
  · rw [bytes_framed finished]
    simp only [Wire.count, Wire.int32, List.length_append, length_littleEndian]
    omega

end Value

/-! What was read can be written. -/

mutual

theorem ValueForm.within_write {depth : Nat} {form : List UInt8} {value : Stored} :
    ValueForm depth form value → (value.1.write depth).Within (2 * form.length)
  | .null => ⟨rfl, by simp [Value.write]; omega⟩
  | .bool word => ⟨rfl, by simp [Value.write, Wire.bool, Wire.int32]⟩
  | .int value => ⟨rfl, by simp [Value.write]; omega⟩
  | .long value => ⟨rfl, by simp [Value.write]; omega⟩
  | .double value => ⟨rfl, by simp [Value.write]; omega⟩
  | .string spelled => by
      have written := spelled.length_string
      refine ⟨rfl, ?_⟩
      simp only [Option.getD_some] at written
      simp only [Value.write, List.length_append]
      omega
  | .strings counted listed => by
      have written := length_flatMap_string listed
      refine ⟨rfl, ?_⟩
      simp only [Value.write, Wire.count, Wire.int32, List.length_append, length_littleEndian]
      omega
  | .bytes spelled => by
      have written := spelled.length_byteArray
      refine ⟨rfl, ?_⟩
      simp only [Value.write, List.length_append]
      omega
  | .bundle nested => by
      obtain ⟨shallow, written⟩ := nested.within_framed
      have tag : Draft.Within ⟨Wire.int32 Value.bundleTag, none⟩ 4 := ⟨rfl, Nat.le_refl _⟩
      rw [Bundle.toStored, Value.write, if_neg (Nat.not_lt.2 shallow)]
      refine (tag.andThen written).mono ?_
      simp only [Wire.int32, List.length_append, length_littleEndian]
      omega

theorem EntriesForm.within_writeEntries {depth : Nat} {form : List UInt8}
    {entries : List (String × Stored)} :
    EntriesForm depth form entries →
      (Value.writeEntries depth (Bundle.ofList entries).entries).Within (2 * form.length)
  | .nil => ⟨rfl, Nat.le_refl _⟩
  | .cons named typed tail => by
      have inserted := Value.within_insertNew named.length_string typed.within_write
        tail.within_writeEntries
      refine inserted.mono ?_
      simp only [List.length_append]
      omega

theorem BundleForm.within_framed {depth : Nat} {form : List UInt8} {bundle : Bundle} :
    BundleForm depth form bundle → depth ≤ Limits.bundleDepth ∧
      (Value.framed bundle.size (Value.writeEntries depth bundle.entries)).Within
        (2 * form.length)
  | .payload shallow measured counted listed gathered => by
      refine ⟨shallow, ?_⟩
      rw [gathered.eq_ofList]
      refine (Value.within_framed _ listed.within_writeEntries).mono ?_
      simp only [Wire.int32, List.length_append, length_littleEndian]
      omega

end

/-! What was read from a canonical form is written as it was. -/

theorem Bundle.Gathers.entries_eq {bundle : Bundle} {entries : List (String × Stored)}
    (gathered : bundle.Gathers entries) (ascending : Keyed.Ascending entries) :
    bundle.entries = entries.map fun entry => (entry.1, entry.2.1) := by
  apply Keyed.eq_of_find? bundle.ordered.1 (Keyed.ascending_map.2 ascending)
  intro key
  rw [Keyed.find?_map, ← Keyed.find?_reverse ascending]
  exact gathered key

mutual

theorem CanonicalValue.write_eq {depth : Nat} {form : List UInt8} {value : Stored} :
    CanonicalValue depth form value → value.1.write depth = ⟨form, none⟩
  | .null => rfl
  | .bool word unit => by rcases unit with rfl | rfl <;> rfl
  | .int value => rfl
  | .long value => rfl
  | .double value => rfl
  | .string spelled => by rw [Value.write, spelled.eq_string]
  | .strings counted listed => by
      rw [Value.write, Wire.count_of_counted counted, flatMap_string listed]
  | .bytes spelled => by rw [Value.write, spelled.eq_byteArray]
  | .bundle nested => by
      obtain ⟨shallow, written⟩ := nested.framed_eq
      rw [Bundle.toStored, Value.write, if_neg (Nat.not_lt.2 shallow)]
      exact congrArg (Draft.andThen ⟨Wire.int32 Value.bundleTag, none⟩ fun _ => ·) written

theorem CanonicalEntries.writeEntries_eq {depth : Nat} {form : List UInt8}
    {entries : List (String × Stored)} :
    CanonicalEntries depth form entries →
      Value.writeEntries depth (entries.map fun entry => (entry.1, entry.2.1)) = ⟨form, none⟩
  | .nil => rfl
  | .cons named typed tail => by
      rw [List.map_cons, Value.writeEntries, named.eq_string, typed.write_eq, tail.writeEntries_eq]
      simp [Draft.andThen]

theorem CanonicalBundle.framed_eq {depth : Nat} {form : List UInt8} {bundle : Bundle} :
    CanonicalBundle depth form bundle → depth ≤ Limits.bundleDepth ∧
      Value.framed bundle.size (Value.writeEntries depth bundle.entries) = ⟨form, none⟩
  | .payload shallow measured counted listed ascending gathered => by
      have entries := gathered.entries_eq ascending
      refine ⟨shallow, ?_⟩
      rw [Bundle.size, entries, listed.writeEntries_eq, List.length_map, Value.framed,
        Wire.count_of_counted counted, Wire.count_of_counted measured]

end

namespace Parcel

/-- The bytes between the cursors before and after reading. -/
def consumed (before after : Parcel) : List UInt8 :=
  (before.bytes.take after.position).drop before.position

theorem consumed_eq {parcel : Parcel} {form rest : List UInt8}
    (unread : parcel.bytes.drop parcel.position = form ++ rest) :
    parcel.consumed { parcel with position := parcel.position + form.length } = form := by
  rw [consumed, List.drop_take, unread, Nat.add_sub_cancel_left, List.take_left]

/-- A bundle that was read from less than a gibibyte can be written into any
parcel and is read back from there.  It takes at most twice the bytes that it was
read from, and these bytes themselves if and only if they were canonical. -/
theorem reencode_read_bundle {parcel after : Parcel} {bundle : Bundle}
    (small : parcel.size < 2 ^ 30) (read : parcel.read Decoder.bundle = (.ok bundle, after)) :
    (∀ target : Parcel, target.write bundle.write = (.ok (), target.append bundle.write.bytes) ∧
      ∀ suffix : List UInt8,
        (((target.append bundle.write.bytes).append suffix).seek target.size).read
            Decoder.bundle =
          (.ok bundle, ((target.append bundle.write.bytes).append suffix).seek
            (target.append bundle.write.bytes).size)) ∧
    bundle.write.bytes.length ≤ 2 * (parcel.consumed after).length ∧
    (bundle.write.bytes = parcel.consumed after ↔
      ∃ spelled, CanonicalBundle 0 (parcel.consumed after) spelled) := by
  have whole : 0 + (Limits.bundleDepth + 1) = Limits.bundleDepth + 1 := Nat.zero_add _
  have forms := @read_eq_ok_iff_form _ _ _ (Decoder.sound_bundleWithin whole)
    (fun _ _ => Decoder.takes_bundleWithin whole)
  obtain ⟨form, rest, unread, spelled, rfl⟩ := forms.1 read
  rw [consumed_eq unread]
  have written : bundle.write.Within (2 * form.length) := spelled.within_framed.2
  have inside : form.length ≤ parcel.size := by
    have split := congrArg List.length unread
    rw [List.length_drop, List.length_append] at split
    rw [size]
    omega
  have bounded : bundle.write.bytes.length < 2 ^ 31 := by
    have short := written.short
    omega
  have shallow := Bundle.depth_le_of_finished written.finished
  refine ⟨fun target => ⟨write_finished written.finished, fun suffix => ?_⟩, written.short, ?_⟩
  · exact read_appended (Bundle.takes_write shallow bounded) target suffix
  · constructor
    · intro same
      exact ⟨bundle, same ▸ Bundle.canonicalBundle_write shallow bounded⟩
    · rintro ⟨other, canonical⟩
      -- No form stands for two bundles.
      have again := read_taken (Decoder.takes_bundleWithin whole canonical.bundleForm) unread
      cases (congrArg Prod.fst read).symm.trans (congrArg Prod.fst again)
      exact congrArg Draft.bytes canonical.framed_eq.2

/-- What `looseForm` stands for. -/
def looseBundle : Bundle where
  entries := [("k", .int 5)]
  ordered := ⟨by decide, trivial, trivial⟩

theorem reencode_read_bundle_loose :
    size ⟨[1] ++ (looseForm ++ [2]), 1⟩ < 2 ^ 30 ∧
    read ⟨[1] ++ (looseForm ++ [2]), 1⟩ Decoder.bundle =
      (.ok looseBundle, ⟨[1] ++ (looseForm ++ [2]), 45⟩) ∧
    (((ofBytes [3]).append looseBundle.write.bytes).seek 1).read Decoder.bundle =
      (.ok looseBundle, ((ofBytes [3]).append looseBundle.write.bytes).seek 29) ∧
    looseBundle.write.bytes.length ≤ 2 * looseForm.length ∧
    ¬ ∃ spelled, CanonicalBundle 0 looseForm spelled := by
  have small : size ⟨[1] ++ (looseForm ++ [2]), 1⟩ < 2 ^ 30 := by decide +kernel
  have found : read ⟨[1] ++ (looseForm ++ [2]), 1⟩ Decoder.bundle =
      (.ok looseBundle, ⟨[1] ++ (looseForm ++ [2]), 45⟩) := rfl
  obtain ⟨written, short, canonical⟩ := reencode_read_bundle small found
  refine ⟨small, found, ?_, short, fun spelled => ?_⟩
  · exact (written (ofBytes [3])).2 []
  · exact absurd (canonical.2 spelled) (by decide +kernel)

end Parcel

end Courier
