import Courier.Proofs.Bundle.Reencoding

namespace Courier

/-! What a bundle holds is paid for in the bytes that it was read from.

Every entry, every item of a string array and every byte of a text takes its
share of the form, so a few bytes cannot declare many values.  A count that the
bytes behind it cannot pay for is refused wherever the reader meets it. -/

/-- How much is held: entries of bundles, items of string arrays, and bytes of
keys, strings and byte arrays. -/
structure Holdings where
  entries : Nat
  items : Nat
  bytes : Nat
deriving DecidableEq, Repr

namespace Holdings

instance : Add Holdings where
  add left right :=
    ⟨left.entries + right.entries, left.items + right.items, left.bytes + right.bytes⟩

/-- The bytes that a form needs at least to hold that much. -/
def price (holdings : Holdings) : Nat :=
  9 * holdings.entries + 4 * holdings.items + holdings.bytes

theorem price_add (left right : Holdings) : (left + right).price = left.price + right.price := by
  change 9 * (left.entries + right.entries) + 4 * (left.items + right.items) +
    (left.bytes + right.bytes) = _
  unfold price
  omega

end Holdings

namespace Value

mutual

/-- What a value holds, on all levels below it. -/
def holdings : Value → Holdings
  | .null | .bool _ | .int _ | .long _ | .double _ => ⟨0, 0, 0⟩
  | .string text => ⟨0, 0, (Utf8.bytes text).length⟩
  | .strings items => ⟨0, items.length, (items.flatMap Utf8.bytes).length⟩
  | .bytes value => ⟨0, 0, value.length⟩
  | .bundle entries => holdingsOfEntries entries

def holdingsOfEntries : List (String × Value) → Holdings
  | [] => ⟨0, 0, 0⟩
  | (key, value) :: rest =>
      ⟨1, 0, (Utf8.bytes key).length⟩ + (value.holdings + holdingsOfEntries rest)

end

theorem price_cons (key : String) (value : Value) (rest : List (String × Value)) :
    (holdingsOfEntries ((key, value) :: rest)).price =
      9 + (Utf8.bytes key).length + value.holdings.price + (holdingsOfEntries rest).price := by
  rw [holdingsOfEntries, Holdings.price_add, Holdings.price_add, ← Nat.add_assoc]
  rfl

/-- An entry adds no more than its own price, whether it is kept or not. -/
theorem price_insertNew (key : String) (value : Value) (entries : List (String × Value)) :
    (holdingsOfEntries (Keyed.insertNew key value entries)).price ≤
      9 + (Utf8.bytes key).length + value.holdings.price + (holdingsOfEntries entries).price := by
  induction entries with
  | nil => exact Nat.le_of_eq (price_cons key value [])
  | cons entry rest inductionHypothesis =>
      obtain ⟨other, stored⟩ := entry
      unfold Keyed.insertNew
      split
      · exact Nat.le_of_eq (price_cons key value _)
      · split
        · exact Nat.le_add_left _ _
        · rw [price_cons, price_cons]
          omega

end Value

/-- What a bundle holds, on all levels. -/
def Bundle.holdings (bundle : Bundle) : Holdings :=
  Value.holdingsOfEntries bundle.entries

/-! What the forms are worth. -/

namespace Decoder

theorem StringForm.text_le {form : List UInt8} {text : Option String}
    (spelled : StringForm form text) : 4 + (Utf8.bytes (text.getD "")).length ≤ form.length := by
  cases spelled with
  | absent => decide
  | present counted short aligned => simp [Wire.int32]

/-- A string that is there takes a word for its length and at least one more. -/
theorem StringForm.named_le {form : List UInt8} {text : String}
    (spelled : StringForm form (some text)) :
    5 + (Utf8.bytes text).length ≤ form.length ∧ 8 ≤ form.length := by
  cases spelled with
  | present counted short aligned =>
      simp only [Wire.int32, List.length_append, length_littleEndian, List.length_cons]
      omega

theorem ByteArrayForm.bytes_le {form : List UInt8} {bytes : Option (List UInt8)}
    (spelled : ByteArrayForm form bytes) : 4 + (bytes.getD []).length ≤ form.length := by
  cases spelled with
  | absent => decide
  | present counted short aligned => simp [Wire.int32]

theorem items_le {form : List UInt8} {items : List String} (listed : Forms ItemForm form items) :
    4 * items.length + (items.flatMap Utf8.bytes).length ≤ form.length := by
  induction listed with
  | nil => exact Nat.le_refl _
  | cons head tail inductionHypothesis =>
      cases head with
      | item spelled =>
          have paid := spelled.text_le
          simp only [List.length_cons, List.flatMap_cons, List.length_append]
          omega

end Decoder

open Decoder

mutual

theorem ValueForm.price_le {depth : Nat} {form : List UInt8} {value : Stored} :
    ValueForm depth form value → 4 + value.1.holdings.price ≤ form.length
  | .null => Nat.le_refl _
  | .bool word => by simp [Value.holdings, Holdings.price, Wire.int32]
  | .int value => by simp [Value.holdings, Holdings.price, Wire.int32]
  | .long value => by simp [Value.holdings, Holdings.price, Wire.int32]
  | .double value => by simp [Value.holdings, Holdings.price, Wire.int32]
  | .string spelled => by
      have paid := spelled.named_le.1
      simp only [Value.holdings, Holdings.price, Wire.int32, List.length_append,
        length_littleEndian]
      omega
  | .strings counted listed => by
      have paid := items_le listed
      simp only [Value.holdings, Holdings.price, Wire.int32, List.length_append,
        length_littleEndian]
      omega
  | .bytes spelled => by
      have paid := spelled.bytes_le
      simp only [Value.holdings, Holdings.price, Wire.int32, List.length_append,
        length_littleEndian]
      omega
  | .bundle nested => by
      have paid := nested.price_le
      simp only [Bundle.holdings] at paid
      simp only [Bundle.toStored, Value.holdings, Wire.int32, List.length_append,
        length_littleEndian]
      omega

theorem EntriesForm.price_le {depth : Nat} {form : List UInt8} {entries : List (String × Stored)} :
    EntriesForm depth form entries → (Bundle.ofList entries).holdings.price ≤ form.length
  | .nil => Nat.le_refl _
  | @EntriesForm.cons _ keyForm valueForm later key value entries named typed tail => by
      have paidKey := named.named_le.1
      have paidValue := typed.price_le
      have paidRest : (Value.holdingsOfEntries (Bundle.ofList entries).entries).price ≤ later.length :=
        tail.price_le
      have inserted := Value.price_insertNew key value.1 (Bundle.ofList entries).entries
      refine Nat.le_trans inserted ?_
      simp only [List.length_append]
      omega

theorem BundleForm.price_le {depth : Nat} {form : List UInt8} {bundle : Bundle} :
    BundleForm depth form bundle → 12 + bundle.holdings.price ≤ form.length
  | .payload shallow measured counted listed gathered => by
      have paid := listed.price_le
      rw [gathered.eq_ofList]
      simp only [Wire.int32, List.length_append, length_littleEndian]
      omega

end

theorem EntryForm.twelve_le {depth : Nat} {form : List UInt8} {pair : String × Stored}
    (spelled : EntryForm depth form pair) : 12 ≤ form.length := by
  cases spelled with
  | entry named typed =>
      have wide := named.named_le.2
      have tagged := typed.price_le
      rw [List.length_append]
      omega

/-! The counts that the reader meets. -/

namespace Decoder

/-- At `before` stands the header of a bundle of `count` entries, and at `start`
the first of them. -/
inductive Opens (before : Cursor) (count : Int32) (start : Cursor) : Prop where
  | header {length : Int32} {first second : Cursor} (measured : int32 before = .ok length first)
      (measurable : ¬ length < 0) (marked : int32 first = .ok Bundle.magic second)
      (counted : int32 second = .ok count start)

/-- Reading a bundle at `before`, the reader gets through some of the entries, the
key of the next one and the tag of its value, and then stands at `behind`. -/
inductive Arrives (levels : Nat) (before : Cursor) (tag : Int32) (behind : Cursor) : Prop where
  | reached {count : Int32} {start middle named : Cursor} {number : Nat} {key : String}
      {pairs : List (String × Stored)} (opened : Opens before count start)
      (inside : number < count.toNatClampNeg)
      (read : repeated number (entry (bundleWithin levels)) start = .ok pairs middle)
      (keyed : string? middle = .ok (some key) named) (tagged : int32 named = .ok tag behind)

/-- A count, and how many bytes there are behind it. -/
inductive Declaration where
  | entries (count : Int32) (left : Nat)
  | items (count : Int32) (left : Nat)

/-- The bytes that are left do not suffice: an entry takes twelve at least, an item four. -/
def Declaration.Excessive : Declaration → Prop
  | .entries count left => (left : Int) < 12 * count.toInt
  | .items count left => (left : Int) < 4 * count.toInt

instance : (declared : Declaration) → Decidable declared.Excessive
  | .entries count left => inferInstanceAs (Decidable ((left : Int) < 12 * count.toInt))
  | .items count left => inferInstanceAs (Decidable ((left : Int) < 4 * count.toInt))

/-- Reading a bundle at `before`, the reader comes to the declaration: in the
header of the bundle, in front of a string array in it, or in a bundle in it. -/
inductive Meets : (levels : Nat) → (before : Cursor) → Declaration → Prop where
  | header {levels : Nat} {before start : Cursor} {count : Int32}
      (opened : Opens before count start) :
      Meets (levels + 1) before (.entries count start.unread.length)
  | array {levels : Nat} {before behind start : Cursor} {count : Int32}
      (arrived : Arrives levels before Value.stringsTag behind)
      (counted : int32 behind = .ok count start) :
      Meets (levels + 1) before (.items count start.unread.length)
  | nested {levels : Nat} {before behind : Cursor} {declared : Declaration}
      (arrived : Arrives levels before Value.bundleTag behind)
      (met : Meets levels behind declared) : Meets (levels + 1) before declared

theorem Opens.unique {before start other : Cursor} {count declared : Int32}
    (opened : Opens before count start) (again : Opens before declared other) :
    count = declared ∧ start = other := by
  obtain ⟨measured, _, marked, counted⟩ := opened
  obtain ⟨measuredAgain, _, markedAgain, countedAgain⟩ := again
  cases measured.symm.trans measuredAgain
  cases marked.symm.trans markedAgain
  cases counted.symm.trans countedAgain
  exact ⟨rfl, rfl⟩

/-- A bundle that is read has a header, and as many entries as that declares. -/
theorem bundleWithin_ok {levels : Nat} {before after : Cursor} {bundle : Bundle}
    (decoded : bundleWithin (levels + 1) before = .ok bundle after) :
    ∃ count start entries, Opens before count start ∧ ¬ count < 0 ∧
      repeated count.toNatClampNeg (entry (bundleWithin levels)) start = .ok entries after := by
  obtain ⟨length, first, measured, decoded⟩ := bind_ok.1 decoded
  split at decoded
  · contradiction
  rename_i measurable
  obtain ⟨magic, second, marked, decoded⟩ := bind_ok.1 decoded
  split at decoded
  · contradiction
  rename_i rightMagic
  obtain ⟨_, _, started, decoded⟩ := bind_ok.1 decoded
  cases started
  obtain ⟨count, start, counted, decoded⟩ := bind_ok.1 decoded
  split at decoded
  · contradiction
  rename_i countable
  obtain ⟨entries, last, read, decoded⟩ := bind_ok.1 decoded
  obtain ⟨_, _, stopped, decoded⟩ := bind_ok.1 decoded
  cases stopped
  split at decoded
  · contradiction
  cases decoded
  rw [Decidable.of_not_not rightMagic] at marked
  exact ⟨count, start, entries, .header measured measurable marked counted, countable, read⟩

/-- If the whole bundle is read, so is every value in it that the reader gets to. -/
theorem Arrives.value_ok {levels : Nat} {before behind after : Cursor} {tag : Int32} {bundle : Bundle}
    (arrived : Arrives levels before tag behind)
    (decoded : bundleWithin (levels + 1) before = .ok bundle after) :
    ∃ named stored next, int32 named = .ok tag behind ∧
      value (bundleWithin levels) named = .ok stored next := by
  obtain @⟨count, start, middle, named, _, key, _, opened, inside, read, keyed, tagged⟩ := arrived
  obtain ⟨declared, other, entries, again, _, whole⟩ := bundleWithin_ok decoded
  obtain ⟨rfl, rfl⟩ := opened.unique again
  obtain ⟨pair, next, entered⟩ := repeatFrom_goes_on inside read whole
  obtain ⟨_, _, keyedAgain, entered⟩ := bind_ok.1 entered
  cases keyed.symm.trans keyedAgain
  obtain ⟨stored, last, typed, _⟩ := bind_ok.1 entered
  exact ⟨named, stored, last, tagged, typed⟩

theorem strings_of_value {nested : Decoder Bundle} {named behind next : Cursor} {stored : Stored}
    (tagged : int32 named = .ok Value.stringsTag behind)
    (typed : value nested named = .ok stored next) :
    ∃ items last, strings behind = .ok items last := by
  obtain ⟨tag, _, again, typed⟩ := bind_ok.1 typed
  cases tagged.symm.trans again
  repeat rw [if_neg (by decide)] at typed
  rw [if_pos rfl] at typed
  obtain ⟨items, last, read, _⟩ := bind_ok.1 typed
  exact ⟨items, last, read⟩

theorem nested_of_value {nested : Decoder Bundle} {named behind next : Cursor} {stored : Stored}
    (tagged : int32 named = .ok Value.bundleTag behind)
    (typed : value nested named = .ok stored next) :
    ∃ bundle last, nested behind = .ok bundle last := by
  obtain ⟨tag, _, again, typed⟩ := bind_ok.1 typed
  cases tagged.symm.trans again
  repeat rw [if_neg (by decide)] at typed
  rw [if_pos rfl] at typed
  obtain ⟨bundle, last, read, _⟩ := bind_ok.1 typed
  exact ⟨bundle, last, read⟩

/-- Whatever is declared in a bundle that is read, the bytes behind it suffice. -/
theorem Meets.affordable {levels depth : Nat} {before after : Cursor} {declared : Declaration}
    {bundle : Bundle} (met : Meets levels before declared)
    (whole : depth + levels = Limits.bundleDepth + 1)
    (decoded : bundleWithin levels before = .ok bundle after) : ¬ declared.Excessive := by
  induction met generalizing depth bundle after with
  | @header levels before start count opened =>
      obtain ⟨_, _, entries, again, countable, read⟩ := bundleWithin_ok decoded
      obtain ⟨rfl, rfl⟩ := opened.unique again
      have deeper : depth + 1 + levels = Limits.bundleDepth + 1 := by omega
      obtain ⟨form, consumed, counted, forms⟩ :=
        sound_repeated (sound_entry (sound_bundleWithin deeper)) _ read
      have paid := forms.length_mul_le fun _ _ spelled => spelled.twelve_le
      have left := congrArg List.length consumed.1
      rw [List.length_append] at left
      rw [Declaration.Excessive, counted_of_nonnegative countable]
      omega
  | @array levels before behind start count arrived counted =>
      obtain ⟨named, stored, next, tagged, typed⟩ := arrived.value_ok decoded
      obtain ⟨items, last, read⟩ := strings_of_value tagged typed
      obtain ⟨_, consumed, again, listed, rfl, spelled, forms⟩ := sound_strings read
      obtain ⟨middle, begun, ended⟩ := consumed.split
      cases counted.symm.trans (takes_int32 again begun)
      have paid := items_fit forms
      have left := congrArg List.length ended.1
      rw [List.length_append] at left
      rw [Declaration.Excessive, spelled]
      omega
  | @nested levels before behind declared arrived met inductionHypothesis =>
      obtain ⟨named, stored, next, tagged, typed⟩ := arrived.value_ok decoded
      obtain ⟨inner, last, read⟩ := nested_of_value tagged typed
      have deeper : depth + 1 + levels = Limits.bundleDepth + 1 := by omega
      exact inductionHypothesis deeper read

end Decoder

namespace Parcel

/-- A bundle that is read takes at least nine bytes for every entry on any level,
four for every item of a string array, and all bytes of its keys, strings and
byte arrays, and at most sixteen bundles nest in it.  Where the reader comes to a
count that the bytes behind it do not suffice for, the parcel holds no bundle:
that fault tells a defect of the bytes. -/
theorem read_bundle_paid (parcel : Parcel) :
    (∀ (bundle : Bundle) (after : Parcel), parcel.read Decoder.bundle = (.ok bundle, after) →
      parcel.position + (9 * bundle.holdings.entries + 4 * bundle.holdings.items +
          bundle.holdings.bytes) ≤ after.position ∧
        bundle.depth ≤ Limits.bundleDepth) ∧
    ∀ declared : Decoder.Declaration,
      Decoder.Meets (Limits.bundleDepth + 1) parcel.cursor declared → declared.Excessive →
        ∃ defect after, parcel.read Decoder.bundle = (.error (.malformed defect), after) := by
  have whole : 0 + (Limits.bundleDepth + 1) = Limits.bundleDepth + 1 := Nat.zero_add _
  constructor
  · intro bundle after read
    have forms := @read_eq_ok_iff_form _ _ _ (Decoder.sound_bundleWithin whole)
      (fun _ _ => Decoder.takes_bundleWithin whole)
    obtain ⟨form, rest, _, spelled, rfl⟩ := forms.1 read
    have paid := spelled.price_le
    have written : bundle.write.Within (2 * form.length) := spelled.within_framed.2
    refine ⟨?_, Bundle.depth_le_of_finished written.finished⟩
    change parcel.position + bundle.holdings.price ≤ parcel.position + form.length
    omega
  · intro declared met excessive
    cases decoded : Decoder.bundle parcel.cursor with
    | ok bundle after => exact absurd excessive (met.affordable whole decoded)
    | error fault after =>
        obtain ⟨defect, rfl⟩ := Decoder.blames_bundleWithin _ decoded
        exact ⟨defect, _, read_eq_error.2 ⟨after, decoded, rfl⟩⟩

/-- A bundle in a bundle that declares five entries and ends there. -/
def boastfulForm : List UInt8 :=
  Wire.int32 28 ++ (Wire.int32 Bundle.magic ++ (Wire.int32 1 ++ (Wire.string "k" ++
    (Wire.int32 Value.bundleTag ++ (Wire.int32 4 ++ (Wire.int32 Bundle.magic ++ Wire.int32 5))))))

theorem read_bundle_paid_nested :
    (read ⟨[7] ++ nestedSample.write.bytes, 1⟩ Decoder.bundle =
        (.ok nestedSample,
          ⟨[7] ++ nestedSample.write.bytes, 1 + nestedSample.write.bytes.length⟩) ∧
      1 + (9 * 4 + 4 * 2 + 7) ≤ 1 + nestedSample.write.bytes.length ∧ nestedSample.depth ≤ 16) ∧
    Decoder.Meets 17 (ofBytes boastfulForm).cursor (.entries 5 0) ∧
    (Decoder.Declaration.entries 5 0).Excessive ∧
    ∃ defect after, (ofBytes boastfulForm).read Decoder.bundle = (.error (.malformed defect), after) := by
  have bounded : nestedSample.write.bytes.length < 2 ^ 31 := by decide +kernel
  have anywhere (form : List UInt8) (taken : Decoder.bundle.Takes form nestedSample) :
      read ⟨[7] ++ form, 1⟩ Decoder.bundle = (.ok nestedSample, ⟨[7] ++ form, 1 + form.length⟩) :=
    read_taken taken (List.append_nil form).symm
  have found := anywhere _ (Bundle.takes_write (by decide) bounded)
  have held : nestedSample.holdings = ⟨4, 2, 7⟩ := by decide +kernel
  have paid := (read_bundle_paid ⟨[7] ++ nestedSample.write.bytes, 1⟩).1 _ _ found
  rw [held] at paid
  have arrived : Decoder.Arrives 16 (ofBytes boastfulForm).cursor Value.bundleTag
      ⟨24, boastfulForm.drop 24⟩ :=
    .reached (.header rfl (by decide) rfl rfl) Nat.zero_lt_one rfl rfl rfl
  have opened : Decoder.Opens ⟨24, boastfulForm.drop 24⟩ 5 ⟨36, []⟩ :=
    .header rfl (by decide) rfl rfl
  have met : Decoder.Meets 17 (ofBytes boastfulForm).cursor (.entries 5 0) :=
    .nested arrived (.header opened)
  have excessive : (Decoder.Declaration.entries 5 0).Excessive := by decide
  have refused := (read_bundle_paid _).2 _ met excessive
  exact ⟨⟨found, paid⟩, met, excessive, refused⟩

end Parcel

end Courier
