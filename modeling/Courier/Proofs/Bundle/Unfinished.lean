import Courier.Proofs.Bundle.RoundTrip

namespace Courier

/-! What a bundle reads as that could not be written to its end.

A writer that stops leaves the entries before the bundle that nests too deep, the
tag of that bundle, and above it bundles with all their entries announced and no
length.  A reader follows it down to that tag and stops there as well, unless the
number of entries that a bundle on the way announces is not a word. -/

/-- A bundle that writing leaves unfinished: how many entries it has, and how many of
them are finished. -/
structure Unfinished where
  entries : Nat
  finished : Nat
deriving DecidableEq, Repr

namespace Unfinished

/-- The word in front announces more entries than are finished. -/
def Announced (level : Unfinished) : Prop :=
  (level.finished : Int) < (Int32.ofNat level.entries).toInt

instance (level : Unfinished) : Decidable level.Announced :=
  inferInstanceAs (Decidable ((level.finished : Int) < (Int32.ofNat level.entries).toInt))

/-- A number of entries that is a word is announced as it is. -/
theorem announced_of_lt {level : Unfinished} (begun : level.finished < level.entries)
    (few : level.entries < 2 ^ 31) : level.Announced := by
  rw [Announced, Int32.toInt_ofNat_of_lt few]
  exact Int.ofNat_lt.2 begun

end Unfinished

namespace Value

def finishedEntries (depth : Nat) (entries : List (String × Value)) : Nat :=
  (entries.takeWhile fun entry => (entry.2.write depth).fault.isNone).length

mutual

/-- The bundles that a writer which stops in a value leaves unfinished, from the
outermost one in. -/
def unfinished (depth : Nat) : Value → List Unfinished
  | .bundle entries =>
      if Limits.bundleDepth < depth + 1 then []
      else ⟨entries.length, finishedEntries (depth + 1) entries⟩ ::
        unfinishedBelow (depth + 1) entries
  | .null | .bool _ | .int _ | .long _ | .double _ | .string _ | .strings _ | .bytes _ => []

/-- Those in the entry at which the writer stops. -/
def unfinishedBelow (depth : Nat) : List (String × Value) → List Unfinished
  | [] => []
  | (_, value) :: rest =>
      if (value.write depth).fault.isNone then unfinishedBelow depth rest else value.unfinished depth

end

theorem unfinished_bundle {depth : Nat} (shallow : ¬ Limits.bundleDepth < depth + 1)
    (entries : List (String × Value)) :
    (Value.bundle entries).unfinished depth =
      ⟨entries.length, finishedEntries (depth + 1) entries⟩ :: unfinishedBelow (depth + 1) entries := by
  rw [unfinished, if_neg shallow]

theorem unfinished_bundle_deep {depth : Nat} (deep : Limits.bundleDepth < depth + 1)
    (entries : List (String × Value)) : (Value.bundle entries).unfinished depth = [] := by
  rw [unfinished, if_pos deep]

theorem finishedEntries_cons_finished {key : String} {value : Value} {depth : Nat}
    (finished : (value.write depth).fault = none) (rest : List (String × Value)) :
    finishedEntries depth ((key, value) :: rest) = finishedEntries depth rest + 1 := by
  simp [finishedEntries, finished]

theorem finishedEntries_cons_stopped {key : String} {value : Value} {depth : Nat}
    (stopped : (value.write depth).fault ≠ none) (rest : List (String × Value)) :
    finishedEntries depth ((key, value) :: rest) = 0 := by
  simp [finishedEntries, stopped]

theorem unfinishedBelow_cons_finished {key : String} {value : Value} {depth : Nat}
    (finished : (value.write depth).fault = none) (rest : List (String × Value)) :
    unfinishedBelow depth ((key, value) :: rest) = unfinishedBelow depth rest := by
  rw [unfinishedBelow, if_pos (Option.isNone_iff_eq_none.2 finished)]

theorem unfinishedBelow_cons_stopped {key : String} {value : Value} {depth : Nat}
    (stopped : (value.write depth).fault ≠ none) (rest : List (String × Value)) :
    unfinishedBelow depth ((key, value) :: rest) = value.unfinished depth := by
  rw [unfinishedBelow, if_neg (fun isNone => stopped (Option.isNone_iff_eq_none.1 isNone))]

/-- Not all entries are finished where the writer stops. -/
theorem finishedEntries_lt {depth : Nat} {entries : List (String × Value)}
    (stopped : (writeEntries depth entries).fault ≠ none) :
    finishedEntries depth entries < entries.length := by
  induction entries with
  | nil => exact absurd rfl stopped
  | cons entry rest inductionHypothesis =>
      obtain ⟨key, value⟩ := entry
      rw [writeEntries, Draft.fault_andThen, Option.none_or] at stopped
      by_cases finished : (value.write depth).fault = none
      · rw [Draft.fault_andThen, finished, Option.none_or] at stopped
        rw [finishedEntries_cons_finished finished, List.length_cons]
        exact Nat.succ_lt_succ (inductionHypothesis stopped)
      · rw [finishedEntries_cons_stopped finished]
        exact Nat.succ_pos _

mutual

theorem begun_unfinished (value : Value) {depth : Nat} (stopped : (value.write depth).fault ≠ none) :
    ∀ level ∈ value.unfinished depth, level.finished < level.entries := by
  cases value with
  | bundle entries =>
      rw [write, Draft.fault_andThen, Option.none_or] at stopped
      split at stopped
      · rename_i deep
        rw [unfinished_bundle_deep deep]
        exact List.forall_mem_nil _
      · rename_i shallow
        rw [fault_framed] at stopped
        rw [unfinished_bundle shallow]
        exact List.forall_mem_cons.2 ⟨finishedEntries_lt stopped, begun_unfinishedBelow entries stopped⟩
  | _ => exact absurd rfl stopped

theorem begun_unfinishedBelow (entries : List (String × Value)) {depth : Nat}
    (stopped : (writeEntries depth entries).fault ≠ none) :
    ∀ level ∈ unfinishedBelow depth entries, level.finished < level.entries := by
  cases entries with
  | nil => exact absurd rfl stopped
  | cons entry rest =>
      obtain ⟨key, value⟩ := entry
      rw [writeEntries, Draft.fault_andThen, Option.none_or] at stopped
      by_cases finished : (value.write depth).fault = none
      · rw [Draft.fault_andThen, finished, Option.none_or] at stopped
        rw [unfinishedBelow_cons_finished finished]
        exact begun_unfinishedBelow rest stopped
      · rw [unfinishedBelow_cons_stopped finished]
        exact begun_unfinished value finished

end

/-- The defect is the nesting exactly if every level announces the entry that leads
down. -/
def BlamesNesting (levels : List Unfinished) (defect : Defect) : Prop :=
  defect = .nestedTooDeep ↔ ∀ level ∈ levels, level.Announced

theorem BlamesNesting.cons {level : Unfinished} {levels : List Unfinished} {defect : Defect}
    (announced : level.Announced) (blamed : BlamesNesting levels defect) :
    BlamesNesting (level :: levels) defect := by
  simp only [BlamesNesting, List.forall_mem_cons, announced, true_and]
  exact blamed

theorem blamesNesting_of_hidden {level : Unfinished} {defect : Defect}
    (hidden : ¬ level.Announced) (other : defect ≠ .nestedTooDeep) (levels : List Unfinished) :
    BlamesNesting (level :: levels) defect := by
  simp only [BlamesNesting, List.forall_mem_cons, hidden, other, false_and]

open Decoder

/-- An unfinished bundle is rejected: at its number of entries if that wraps below
zero, behind the entries if it wraps to one that the finished ones make up, and in the
entry that is not finished otherwise. -/
theorem rejects_framed (level : Unfinished) {below : List Unfinished} {levels : Nat}
    {entries : Draft} (stopped : entries.fault ≠ none)
    (listed : Interrupted (entry (bundleWithin levels)) (BlamesNesting below) level.finished
      entries.bytes) :
    (bundleWithin (levels + 1)).Rejects (framed level.entries entries).bytes
      (BlamesNesting (level :: below)) := by
  rw [bytes_framed_stopped stopped]
  apply (takes_int32 0).bind_rejects
  rw [if_neg (by decide)]
  apply (takes_int32 Bundle.magic).bind_rejects
  rw [if_neg (fun differs => differs rfl)]
  intro before after consumed
  obtain ⟨middle, counted, consumedEntries⟩ := consumed.split
  apply Fails.after (rfl : offset before = .ok before.offset before)
  apply Fails.after (takes_int32 (Int32.ofNat level.entries) counted)
  by_cases negative : Int32.ofNat level.entries < 0
  · rw [if_pos negative]
    have hidden : ¬ level.Announced := by
      rw [Unfinished.Announced]
      rw [Int32.lt_iff_toInt_lt, Int32.toInt_zero] at negative
      omega
    exact fails_fail _ (blamesNesting_of_hidden hidden Defect.noConfusion below)
  · rw [if_neg negative]
    have word := counted_of_nonnegative negative
    by_cases announced : level.Announced
    · have inside : level.finished < (Int32.ofNat level.entries).toNatClampNeg := by
        rw [Unfinished.Announced, word] at announced
        exact Int.ofNat_lt.1 announced
      obtain ⟨defect, stop, failed, blamed⟩ := listed.fails_repeatFrom inside [] consumedEntries
      exact .bind ⟨defect, stop, failed, blamed.cons announced⟩ _
    · have short : (Int32.ofNat level.entries).toNatClampNeg ≤ level.finished := by
        rw [Unfinished.Announced, word] at announced
        omega
      obtain ⟨items, last, decoded, forward⟩ := listed.repeatFrom_ok short [] consumedEntries
      apply Fails.after decoded
      apply Fails.after (rfl : offset last = .ok last.offset last)
      have behind : middle.offset = before.offset + 4 := counted.2
      have mismatched : last.offset - before.offset ≠ (0 : Int32).toNatClampNeg := by
        change last.offset - before.offset ≠ 0
        omega
      rw [if_pos mismatched]
      exact fails_fail _ (blamesNesting_of_hidden announced Defect.noConfusion below)

/-- A number of entries below zero is refused where it stands. -/
theorem raises_negativeCount (levels : Nat) {count : Int32} (negative : count < 0) :
    (bundleWithin (levels + 1)).Raises (Wire.int32 0 ++ (Wire.int32 Bundle.magic ++ Wire.int32 count))
      (.malformed (.negativeCount count)) := by
  apply (takes_int32 0).bind_raises
  rw [if_neg (by decide)]
  apply (takes_int32 Bundle.magic).bind_raises
  rw [if_neg (fun differs => differs rfl)]
  intro before after consumed
  refine bind_error.2 (.inr ⟨before.offset, before, rfl, ?_⟩)
  exact (takes_int32 count).raises (if_pos negative) consumed

mutual

theorem rejects_write (value : Value) {depth levels : Nat}
    (whole : depth + 1 + levels = Limits.bundleDepth + 1) (ordered : value.Ordered)
    (stopped : (value.write depth).fault ≠ none)
    (bounded : (value.write depth).bytes.length < 2 ^ 31) :
    (Decoder.value (bundleWithin levels)).Rejects (value.write depth).bytes
      (BlamesNesting (value.unfinished depth)) := by
  cases value with
  | bundle entries =>
      rw [write, Draft.fault_andThen, Option.none_or] at stopped
      rw [write, Draft.bytes_andThen rfl] at bounded ⊢
      apply (takes_int32 bundleTag).bind_rejects
      repeat rw [if_neg (by decide)]
      rw [if_pos rfl]
      apply Rejects.bind
      cases levels with
      | zero =>
          rw [unfinished_bundle_deep (by omega)]
          exact fun before _ _ => fails_fail before ⟨fun _ => List.forall_mem_nil _, fun _ => rfl⟩
      | succ levels =>
          have shallow : ¬ Limits.bundleDepth < depth + 1 := by omega
          rw [unfinished_bundle shallow]
          rw [if_neg shallow] at stopped bounded ⊢
          rw [fault_framed] at stopped
          rw [bytes_framed_stopped stopped] at bounded
          simp only [List.length_append] at bounded
          have deeper : depth + 1 + 1 + levels = Limits.bundleDepth + 1 := by omega
          exact rejects_framed ⟨entries.length, _⟩ stopped
            (interrupted_writeEntries entries deeper ordered.2 stopped (by omega))
  | _ => exact absurd rfl stopped

theorem interrupted_writeEntries (entries : List (String × Value)) {depth levels : Nat}
    (whole : depth + 1 + levels = Limits.bundleDepth + 1) (ordered : OrderedEntries entries)
    (stopped : (writeEntries depth entries).fault ≠ none)
    (bounded : (writeEntries depth entries).bytes.length < 2 ^ 31) :
    Interrupted (entry (bundleWithin levels)) (BlamesNesting (unfinishedBelow depth entries))
      (finishedEntries depth entries) (writeEntries depth entries).bytes := by
  cases entries with
  | nil => exact absurd rfl stopped
  | cons pair rest =>
      obtain ⟨key, value⟩ := pair
      rw [writeEntries, Draft.fault_andThen, Option.none_or] at stopped
      rw [writeEntries, Draft.bytes_andThen rfl] at bounded ⊢
      simp only [List.length_append] at bounded
      have named : StringForm (Wire.string key) (some key) := stringForm_string (by omega)
      by_cases finished : (value.write depth).fault = none
      · rw [Draft.fault_andThen, finished, Option.none_or] at stopped
        rw [Draft.bytes_andThen finished] at bounded ⊢
        rw [List.length_append] at bounded
        have typed := (canonicalValue_write value ordered.1 finished (by omega)).valueForm
        have taken : (entry (bundleWithin levels)).Takes
            (Wire.string key ++ (value.write depth).bytes) (key, ⟨value, ordered.1⟩) :=
          takes_entry (fun _ _ => takes_bundleWithin whole) (.entry named typed)
        rw [unfinishedBelow_cons_finished finished, finishedEntries_cons_finished finished,
          ← List.append_assoc]
        exact .beyond taken (interrupted_writeEntries rest whole ordered.2 stopped (by omega))
      · rw [Draft.andThen_stopped finished] at bounded ⊢
        rw [unfinishedBelow_cons_stopped finished, finishedEntries_cons_stopped finished]
        apply Interrupted.here
        apply (takes_string? named).bind_rejects
        exact (rejects_write value whole ordered.1 finished (by omega)).bind _

end

end Value

namespace Bundle

/-- The bundles that writing a bundle leaves unfinished, from this one in. -/
def unfinished (bundle : Bundle) : List Unfinished :=
  ⟨bundle.size, Value.finishedEntries 0 bundle.entries⟩ :: Value.unfinishedBelow 0 bundle.entries

theorem begun_unfinished {bundle : Bundle} (stopped : bundle.write.fault ≠ none) :
    ∀ level ∈ bundle.unfinished, level.finished < level.entries := by
  rw [write, Value.fault_framed] at stopped
  exact List.forall_mem_cons.2
    ⟨Value.finishedEntries_lt stopped, Value.begun_unfinishedBelow _ stopped⟩

theorem rejects_write {bundle : Bundle} (stopped : bundle.write.fault ≠ none)
    (bounded : bundle.write.bytes.length < 2 ^ 31) :
    Decoder.bundle.Rejects bundle.write.bytes (Value.BlamesNesting bundle.unfinished) := by
  rw [write, Value.fault_framed] at stopped
  have short : (Value.writeEntries 0 bundle.entries).bytes.length < 2 ^ 31 := by
    rw [write, Value.bytes_framed_stopped stopped] at bounded
    simp only [List.length_append] at bounded
    omega
  have whole : 0 + 1 + Limits.bundleDepth = Limits.bundleDepth + 1 := Nat.add_right_comm 0 1 _
  exact Value.rejects_framed ⟨bundle.size, _⟩ stopped
    (Value.interrupted_writeEntries bundle.entries whole bundle.ordered.2 stopped short)

end Bundle

namespace Parcel

theorem read_rejected {α : Type} {decoder : Decoder α} {form rest : List UInt8}
    {Blames : Defect → Prop} (rejected : decoder.Rejects form Blames) {parcel : Parcel}
    (unread : parcel.bytes.drop parcel.position = form ++ rest) :
    ∃ defect after, parcel.read decoder = (.error (.malformed defect), after) ∧ Blames defect := by
  have consumed : parcel.cursor.Consumes form ⟨parcel.position + form.length, rest⟩ :=
    ⟨unread, rfl⟩
  obtain ⟨defect, stop, failed, blamed⟩ := rejected consumed
  exact ⟨defect, _, read_eq_error.2 ⟨stop, failed, rfl⟩, blamed⟩

/-- A number of entries that wraps below zero is refused where it stands. -/
theorem read_wrapped_count {size : Nat} (wrapped : Int32.ofNat size < 0) {entries : List UInt8}
    {parcel : Parcel} {rest : List UInt8}
    (unread : parcel.bytes.drop parcel.position =
      Wire.int32 0 ++ (Wire.int32 Bundle.magic ++ (Wire.count size ++ entries)) ++ rest) :
    (parcel.read Decoder.bundle).1 = .error (.malformed (.negativeCount (Int32.ofNat size))) := by
  have front : parcel.bytes.drop parcel.position =
      Wire.int32 0 ++ (Wire.int32 Bundle.magic ++ Wire.int32 (Int32.ofNat size)) ++
        (entries ++ rest) := by
    rw [unread]
    simp only [Wire.count, List.append_assoc]
  exact congrArg Prod.fst (read_raised (Value.raises_negativeCount Limits.bundleDepth wrapped) front)

/-- A bundle that nests too deep leaves what stood in the parcel as it was, and what
is put out for it is no bundle: it is malformed, whatever follows.  The defect is the
nesting exactly if every unfinished bundle announces more entries than it has
finished ones, and so whenever they have less than `2 ^ 31` entries each. -/
theorem write_stopped_unreadable {bundle : Bundle} {parcel stopped : Parcel} {fault : Fault}
    (failed : parcel.write bundle.write = (.error fault, stopped))
    (bounded : bundle.write.bytes.length < 2 ^ 31) :
    stopped.bytes = parcel.bytes ++ bundle.write.bytes ∧ stopped.position = parcel.position ∧
      ∀ suffix : List UInt8, ∃ defect after,
        ((stopped.append suffix).seek parcel.size).read Decoder.bundle =
            (.error (.malformed defect), after) ∧
          (defect = .nestedTooDeep ↔ ∀ level ∈ bundle.unfinished, level.Announced) ∧
          ((∀ level ∈ bundle.unfinished, level.entries < 2 ^ 31) → defect = .nestedTooDeep) := by
  have unfinished : bundle.write.fault ≠ none := by
    intro finished
    rw [write_finished finished] at failed
    cases failed
  obtain ⟨_, rfl⟩ := Prod.mk.inj failed
  refine ⟨rfl, rfl, fun suffix => ?_⟩
  obtain ⟨defect, after, refused, blamed⟩ :=
    read_rejected (Bundle.rejects_write unfinished bounded) (unread_appended parcel _ suffix)
  refine ⟨defect, after, refused, blamed, fun few => blamed.2 fun level member => ?_⟩
  exact Unfinished.announced_of_lt (Bundle.begun_unfinished unfinished level member) (few level member)

/-- As many bundles as `levels` says, one in the other. -/
def deepEntries : (levels : Nat) → List (String × Value)
  | 0 => []
  | levels + 1 => [("k", .bundle (deepEntries levels))]

theorem ordered_deepEntries (levels : Nat) : (Value.bundle (deepEntries levels)).Ordered := by
  induction levels with
  | zero => exact ⟨Keyed.ascending_nil, trivial⟩
  | succ levels inductionHypothesis =>
      exact ⟨List.pairwise_singleton _ _, inductionHypothesis, trivial⟩

/-- Seventeen bundles below the top one, between two other entries. -/
def deepSample : Bundle where
  entries := [("a", .strings ["x"]), ("b", .bundle (deepEntries 16)), ("c", .null)]
  ordered := ⟨by decide, trivial, ordered_deepEntries 16, trivial, trivial⟩

theorem write_stopped_unreadable_deep :
    (ofBytes [7]).write deepSample.write =
        (.error (.unencodable .nestedTooDeep), (ofBytes [7]).append deepSample.write.bytes) ∧
      deepSample.write.bytes.length < 2 ^ 31 ∧
      (∀ level ∈ deepSample.unfinished, level.entries < 2 ^ 31) ∧
      ∃ after, ((((ofBytes [7]).append deepSample.write.bytes).append [1, 2]).seek 1).read
        Decoder.bundle = (.error (.malformed .nestedTooDeep), after) := by
  have failed : (ofBytes [7]).write deepSample.write =
      (.error (.unencodable .nestedTooDeep), (ofBytes [7]).append deepSample.write.bytes) := rfl
  have bounded : deepSample.write.bytes.length < 2 ^ 31 := by decide +kernel
  have few : ∀ level ∈ deepSample.unfinished, level.entries < 2 ^ 31 := by decide +kernel
  obtain ⟨_, _, unreadable⟩ := write_stopped_unreadable failed bounded
  obtain ⟨defect, after, refused, _, blamed⟩ := unreadable [1, 2]
  exact ⟨failed, bounded, few, after, blamed few ▸ refused⟩

/-- So many times the same letter. -/
def letters (count : Nat) : String :=
  String.ofList (List.replicate count 'a')

theorem bytes_letters (count : Nat) : Utf8.bytes (letters count) = List.replicate count 97 := by
  have letter : String.utf8EncodeChar 'a' = [97] := rfl
  rw [letters, Utf8.bytes, String.toList_ofList, Utf8.encode, List.flatMap_replicate, letter,
    List.flatten_replicate_singleton]

theorem letters_precede {fewer more : Nat} (less : fewer < more) :
    Keyed.Precedes (letters fewer) (letters more) := by
  rw [Keyed.Precedes, bytes_letters, bytes_letters]
  induction fewer generalizing more with
  | zero =>
      obtain ⟨more, rfl⟩ := Nat.exists_eq_succ_of_ne_zero (Nat.ne_of_gt less)
      exact List.nil_lt_cons _ _
  | succ fewer inductionHypothesis =>
      obtain ⟨more, rfl⟩ := Nat.exists_eq_succ_of_ne_zero (Nat.ne_zero_of_lt less)
      exact List.cons_lt_cons_iff.2 (.inr ⟨rfl, inductionHypothesis (Nat.lt_of_succ_lt_succ less)⟩)

/-- A bundle of `count + 1` entries, of which the first one nests too deep. -/
def crowdedSample (count : Nat) : Bundle where
  entries := ("", .bundle (deepEntries 16)) ::
    (List.range count).map fun index => (letters (index + 1), .null)
  ordered := by
    refine ⟨List.pairwise_cons.2 ⟨?_, ?_⟩, ordered_deepEntries 16, ?_⟩
    · intro entry member
      obtain ⟨index, _, rfl⟩ := List.mem_map.1 member
      exact letters_precede (Nat.succ_pos index)
    · apply List.pairwise_map.2
      exact List.pairwise_lt_range.imp fun less => letters_precede (Nat.succ_lt_succ less)
    · refine Value.orderedEntries_iff.2 fun entry member => ?_
      obtain ⟨index, _, rfl⟩ := List.mem_map.1 member
      trivial

/-- The writer stops in the first entry, so the others do not matter. -/
theorem write_crowdedSample (count : Nat) :
    (crowdedSample count).write =
      Value.framed (count + 1) (Value.writeEntries 0 [("", .bundle (deepEntries 16))]) := by
  have stopped : ((Value.bundle (deepEntries 16)).write 0).fault ≠ none := by decide +kernel
  have size : (crowdedSample count).size = count + 1 := by simp [crowdedSample, Bundle.size]
  have first (rest : List (String × Value)) :
      Value.writeEntries 0 (("", .bundle (deepEntries 16)) :: rest) =
        Draft.andThen ⟨Wire.string "", none⟩ fun _ => (Value.bundle (deepEntries 16)).write 0 := by
    rw [Value.writeEntries, Draft.andThen_stopped stopped]
  rw [Bundle.write, size, first, crowdedSample, first]

/-- With `2 ^ 31` entries of which the first one nests too deep, a short beginning is
put out, and what a reader refuses is the number of entries, which wraps. -/
theorem crowded_unreadable :
    (Parcel.empty.write (crowdedSample (2 ^ 31 - 1)).write).1 =
        .error (.unencodable .nestedTooDeep) ∧
      (crowdedSample (2 ^ 31 - 1)).write.bytes.length < 2 ^ 31 ∧
      ∀ suffix : List UInt8,
        ((((Parcel.empty.write (crowdedSample (2 ^ 31 - 1)).write).2.append suffix).seek 0).read
          Decoder.bundle).1 = .error (.malformed (.negativeCount (-2147483648))) := by
  have stopped : (Value.writeEntries 0 [("", .bundle (deepEntries 16))]).fault ≠ none := by
    decide +kernel
  have form := write_crowdedSample (2 ^ 31 - 1)
  -- From here on the entries are never looked at: there are far too many.
  generalize (crowdedSample (2 ^ 31 - 1)).write = draft at form ⊢
  subst form
  refine ⟨rfl, by decide +kernel, fun suffix => ?_⟩
  have unread := unread_appended Parcel.empty
    (Value.framed (2 ^ 31) (Value.writeEntries 0 [("", .bundle (deepEntries 16))])).bytes suffix
  rw [Value.bytes_framed_stopped stopped] at unread
  exact read_wrapped_count (by decide) unread

end Parcel

end Courier
