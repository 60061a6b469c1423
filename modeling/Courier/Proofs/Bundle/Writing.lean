import Courier.Proofs.Bundle.Canonical

namespace Courier

/-! What `Bundle.write` puts out.

It stops early exactly where bundles nest too deep.  Otherwise what it puts out
is the canonical form of the bundle, unless it is so long that a count wraps. -/

namespace Draft

theorem fault_andThen (draft : Draft) (next : Unit → Draft) :
    (draft.andThen next).fault = draft.fault.or (next ()).fault := by
  unfold andThen
  cases stopped : draft.fault with
  | none => rfl
  | some fault => exact stopped

theorem bytes_andThen {draft : Draft} (finished : draft.fault = none) (next : Unit → Draft) :
    (draft.andThen next).bytes = draft.bytes ++ (next ()).bytes := by
  simp only [andThen, finished]

theorem andThen_stopped {draft : Draft} (stopped : draft.fault ≠ none) (next : Unit → Draft) :
    draft.andThen next = draft := by
  unfold andThen
  cases found : draft.fault with
  | none => contradiction
  | some fault => rfl

end Draft

open Decoder

theorem canonical_strings {items : List String}
    (bounded : (items.flatMap Wire.string).length < 2 ^ 31) :
    Forms CanonicalString (items.flatMap Wire.string) items := by
  induction items with
  | nil => exact .nil
  | cons item rest inductionHypothesis =>
      rw [List.flatMap_cons, List.length_append] at bounded
      exact .cons (canonicalString_string (by omega)) (inductionHypothesis (by omega))

namespace Value

theorem fault_framed (size : Nat) (entries : Draft) :
    (framed size entries).fault = entries.fault := by
  unfold framed
  cases entries.fault <;> rfl

theorem bytes_framed {size : Nat} {entries : Draft} (finished : entries.fault = none) :
    (framed size entries).bytes =
      Wire.count (Wire.count size ++ entries.bytes).length ++
        (Wire.int32 Bundle.magic ++ (Wire.count size ++ entries.bytes)) := by
  simp only [framed, finished]

theorem bytes_framed_stopped {size : Nat} {entries : Draft} (stopped : entries.fault ≠ none) :
    (framed size entries).bytes =
      Wire.int32 0 ++ (Wire.int32 Bundle.magic ++ (Wire.count size ++ entries.bytes)) := by
  unfold framed
  cases found : entries.fault with
  | none => contradiction
  | some fault => rfl

/-! Where writing stops. -/

mutual

theorem fault_write (value : Value) {depth : Nat} (shallow : depth ≤ Limits.bundleDepth) :
    (value.write depth).fault =
      if depth + value.levels ≤ Limits.bundleDepth then none
      else some (.unencodable .nestedTooDeep) := by
  cases value with
  | bundle entries =>
      rw [write, Draft.fault_andThen, Option.none_or, levels]
      split
      · rw [if_neg (by omega)]
      · rw [fault_framed, fault_writeEntries entries (by omega), Nat.add_right_comm, Nat.add_assoc]
  | _ => simp [write, levels, shallow]

theorem fault_writeEntries (entries : List (String × Value)) {depth : Nat}
    (shallow : depth ≤ Limits.bundleDepth) :
    (writeEntries depth entries).fault =
      if depth + levelsOfEntries entries ≤ Limits.bundleDepth then none
      else some (.unencodable .nestedTooDeep) := by
  cases entries with
  | nil => simp [writeEntries, levelsOfEntries, shallow]
  | cons entry rest =>
      obtain ⟨key, value⟩ := entry
      rw [writeEntries, Draft.fault_andThen, Option.none_or, Draft.fault_andThen,
        fault_write value shallow, fault_writeEntries rest shallow, levelsOfEntries]
      split
      · rw [Option.none_or]
        congr 1
        simp only [eq_iff_iff]
        omega
      · rw [Option.some_or, if_neg (by omega)]

end

/-- The entries with the proofs that their values may be stored. -/
def storedEntries : (entries : List (String × Value)) → OrderedEntries entries →
    List (String × Stored)
  | [], _ => []
  | (key, value) :: rest, ordered => (key, ⟨value, ordered.1⟩) :: storedEntries rest ordered.2

theorem length_storedEntries (entries : List (String × Value)) (ordered : OrderedEntries entries) :
    (storedEntries entries ordered).length = entries.length := by
  induction entries with
  | nil => rfl
  | cons entry rest inductionHypothesis =>
      rw [storedEntries, List.length_cons, inductionHypothesis, List.length_cons]

theorem map_storedEntries (entries : List (String × Value)) (ordered : OrderedEntries entries) :
    (storedEntries entries ordered).map (fun entry => (entry.1, entry.2.1)) = entries := by
  induction entries with
  | nil => rfl
  | cons entry rest inductionHypothesis =>
      rw [storedEntries, List.map_cons, inductionHypothesis]

theorem ascending_storedEntries {entries : List (String × Value)}
    (ascending : Keyed.Ascending entries) (ordered : OrderedEntries entries) :
    Keyed.Ascending (storedEntries entries ordered) := by
  rw [← map_storedEntries entries ordered] at ascending
  exact Keyed.ascending_map.1 ascending

end Value

namespace Bundle

/-- A bundle gathers its own entries. -/
theorem gathers_storedEntries (bundle : Bundle) :
    bundle.Gathers (Value.storedEntries bundle.entries bundle.ordered.2) := by
  intro key
  rw [← Keyed.find?_map, List.map_reverse, Value.map_storedEntries,
    Keyed.find?_reverse bundle.ordered.1]
  rfl

end Bundle

namespace Value

/-! What is written is canonical. -/

theorem length_le_of_entriesForm {depth : Nat} {form : List UInt8} {entries : List (String × Stored)}
    (listed : EntriesForm depth form entries) : entries.length ≤ form.length := by
  rw [← Nat.mul_one entries.length]
  apply (entriesForm_iff.1 listed).length_mul_le
  rintro form _ ⟨named, typed⟩
  have wide := named.four_le_length
  rw [List.length_append]
  omega

theorem canonicalBundle_framed {depth : Nat} (bundle : Bundle) (shallow : depth ≤ Limits.bundleDepth)
    (finished : (writeEntries depth bundle.entries).fault = none)
    (bounded : (Wire.count bundle.size ++ (writeEntries depth bundle.entries).bytes).length < 2 ^ 31)
    (listed : (writeEntries depth bundle.entries).bytes.length < 2 ^ 31 →
      CanonicalEntries depth (writeEntries depth bundle.entries).bytes
        (storedEntries bundle.entries bundle.ordered.2)) :
    CanonicalBundle depth (framed bundle.size (writeEntries depth bundle.entries)).bytes bundle := by
  rw [bytes_framed finished]
  have entriesBounded := bounded
  rw [List.length_append] at entriesBounded
  have canonical := listed (by omega)
  have few := length_le_of_entriesForm canonical.entriesForm
  rw [length_storedEntries] at few
  refine .payload shallow (Int32.toInt_ofNat_of_lt bounded) ?_ canonical
    (ascending_storedEntries bundle.ordered.1 _) bundle.gathers_storedEntries
  rw [length_storedEntries]
  exact Int32.toInt_ofNat_of_lt (by change bundle.entries.length < _; omega)

mutual

theorem canonicalValue_write (value : Value) {depth : Nat} (ordered : value.Ordered)
    (finished : (value.write depth).fault = none)
    (bounded : (value.write depth).bytes.length < 2 ^ 31) :
    CanonicalValue depth (value.write depth).bytes ⟨value, ordered⟩ := by
  cases value with
  | null => exact .null
  | bool value =>
      cases value with
      | true => exact .bool 1 (.inr rfl)
      | false => exact .bool 0 (.inl rfl)
  | int value => exact .int value
  | long value => exact .long value
  | double value => exact .double value
  | string text =>
      simp only [write, List.length_append] at bounded
      exact .string (canonicalString_string (by omega))
  | strings items =>
      simp only [write, List.length_append] at bounded
      have listed : Forms CanonicalString (items.flatMap Wire.string) items :=
        canonical_strings (by omega)
      have few := items_fit (listed.imp fun _ _ spelled => spelled.item)
      exact .strings (Int32.toInt_ofNat_of_lt (by omega)) listed
  | bytes value =>
      simp only [write, List.length_append] at bounded
      exact .bytes (canonicalByteArray_byteArray (by omega))
  | bundle entries =>
      rw [write, Draft.fault_andThen, Option.none_or] at finished
      rw [write, Draft.bytes_andThen rfl] at bounded ⊢
      split at finished
      · contradiction
      · rename_i shallow
        rw [fault_framed] at finished
        rw [if_neg shallow] at bounded ⊢
        rw [bytes_framed finished] at bounded
        simp only [List.length_append] at bounded
        have payloadBounded : (Wire.count entries.length ++
            (writeEntries (depth + 1) entries).bytes).length < 2 ^ 31 := by
          rw [List.length_append]
          omega
        exact .bundle (canonicalBundle_framed ⟨entries, ordered⟩ (Nat.not_lt.1 shallow) finished
          payloadBounded (canonicalEntries_writeEntries entries ordered.2 finished))

theorem canonicalEntries_writeEntries (entries : List (String × Value)) {depth : Nat}
    (ordered : OrderedEntries entries) (finished : (writeEntries depth entries).fault = none)
    (bounded : (writeEntries depth entries).bytes.length < 2 ^ 31) :
    CanonicalEntries depth (writeEntries depth entries).bytes (storedEntries entries ordered) := by
  cases entries with
  | nil => exact .nil
  | cons entry rest =>
      obtain ⟨key, value⟩ := entry
      rw [writeEntries, Draft.fault_andThen, Option.none_or, Draft.fault_andThen] at finished
      obtain ⟨finishedValue, finishedRest⟩ := Option.or_eq_none_iff.1 finished
      rw [writeEntries, Draft.bytes_andThen rfl, Draft.bytes_andThen finishedValue] at bounded ⊢
      simp only [List.length_append] at bounded
      rw [← List.append_assoc]
      exact .cons (canonicalString_string (by omega))
        (canonicalValue_write value ordered.1 finishedValue (by omega))
        (canonicalEntries_writeEntries rest ordered.2 finishedRest (by omega))

end

end Value

namespace Bundle

theorem fault_write (bundle : Bundle) :
    bundle.write.fault =
      if bundle.depth ≤ Limits.bundleDepth then none else some (.unencodable .nestedTooDeep) := by
  rw [write, Value.fault_framed, Value.fault_writeEntries bundle.entries (Nat.zero_le _),
    Nat.zero_add]
  rfl

theorem depth_le_of_finished {bundle : Bundle} (finished : bundle.write.fault = none) :
    bundle.depth ≤ Limits.bundleDepth := by
  by_contra deep
  rw [fault_write, if_neg deep] at finished
  contradiction

/-- What is written is canonical as long as the length of the payload has a word. -/
theorem canonicalBundle_payload {bundle : Bundle} (finished : bundle.write.fault = none)
    (bounded : (Wire.count bundle.size ++ (Value.writeEntries 0 bundle.entries).bytes).length <
      2 ^ 31) :
    CanonicalBundle 0 bundle.write.bytes bundle := by
  rw [write, Value.fault_framed] at finished
  exact Value.canonicalBundle_framed bundle (Nat.zero_le _) finished bounded
    (Value.canonicalEntries_writeEntries bundle.entries bundle.ordered.2 finished)

theorem canonicalBundle_write {bundle : Bundle} (shallow : bundle.depth ≤ Limits.bundleDepth)
    (bounded : bundle.write.bytes.length < 2 ^ 31) :
    CanonicalBundle 0 bundle.write.bytes bundle := by
  have finished := bundle.fault_write
  rw [if_pos shallow] at finished
  apply canonicalBundle_payload finished
  rw [write, Value.fault_framed] at finished
  rw [write, Value.bytes_framed finished] at bounded
  simp only [List.length_append] at bounded ⊢
  omega

end Bundle

end Courier
