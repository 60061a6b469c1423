import Courier.Parcel.Basic
import Courier.Proofs.Bundle.Form

namespace Courier

/-! The bundle decoder reads the grammar of bundles, no more and no less. -/

/-! Collecting entries. -/

theorem Bundle.entries_ofList (entries : List (String × Stored)) :
    (Bundle.ofList entries).entries =
      Keyed.ofList (entries.map fun entry => (entry.1, entry.2.1)) := by
  induction entries with
  | nil => rfl
  | cons entry rest inductionHypothesis =>
      change Keyed.insertNew entry.1 entry.2.1 (Bundle.ofList rest).entries = _
      rw [inductionHypothesis]
      rfl

theorem Bundle.gathers_ofList (entries : List (String × Stored)) :
    (Bundle.ofList entries).Gathers entries := by
  intro key
  rw [Bundle.find?, Bundle.entries_ofList, Keyed.find?_ofList, ← List.map_reverse, Keyed.find?_map]

theorem Bundle.Gathers.eq_ofList {bundle : Bundle} {entries : List (String × Stored)}
    (gathered : bundle.Gathers entries) : bundle = Bundle.ofList entries := by
  apply Bundle.ext
  refine Keyed.eq_of_find? bundle.ordered.1 (Bundle.ofList entries).ordered.1 fun key => ?_
  exact (gathered key).trans (Bundle.gathers_ofList entries key).symm

namespace Decoder

/-! String arrays. -/

theorem takes_strings {form : List UInt8} {count : Int32} {items : List String}
    (counted : count.toInt = items.length) (listed : Forms ItemForm form items) :
    strings.Takes (Wire.int32 count ++ form) items := by
  intro before after consumed
  obtain ⟨middle, begun, ended⟩ := consumed.split
  have enough : holds middle.unread (count.toNatClampNeg * 4) = true := by
    have fits := items_fit listed
    rw [holds_iff, ended.1, toNatClampNeg_of_counted counted, List.length_append]
    omega
  refine bind_ok.2 ⟨count, middle, takes_int32 count begun, ?_⟩
  refine bind_ok.2 ⟨_, middle, rfl, ?_⟩
  have passed : ¬ (count < 0 || !holds middle.unread (count.toNatClampNeg * 4)) = true := by
    simp [enough, nonnegative_of_counted counted]
  rw [if_neg passed, toNatClampNeg_of_counted counted]
  refine Forms.takes (listed.imp ?_) ended
  rintro form _ ⟨spelled⟩
  exact (takes_string? spelled).map rfl

theorem sound_strings :
    strings.Sound fun form items => ∃ (count : Int32) (listed : List UInt8),
      form = Wire.int32 count ++ listed ∧ count.toInt = items.length ∧
        Forms ItemForm listed items := by
  intro before after items decoded
  obtain ⟨count, middle, begun, checked⟩ := bind_ok.1 decoded
  obtain ⟨header, consumed, rfl⟩ := sound_int32 begun
  obtain ⟨fits, _, room, ended⟩ := bind_ok.1 checked
  cases room
  split at ended
  · contradiction
  · rename_i passed
    have nonnegative : ¬ count < 0 := by
      intro negative
      exact passed (by simp [negative])
    have item : (do let item ← string?; return item.getD "").Sound ItemForm := by
      refine (sound_string?.map _).imp ?_
      rintro form text ⟨item, rfl, spelled⟩
      exact .item spelled
    obtain ⟨listed, consumedItems, counted, forms⟩ := sound_repeated item _ ended
    refine ⟨_, consumed.trans consumedItems, count, listed, rfl, ?_, forms⟩
    rw [counted, counted_of_nonnegative nonnegative]

theorem confined_strings {size : Nat} : Confined size strings fun _ => True := by
  refine confined_int32.bind fun count _ => ?_
  have room : Confined size (roomFor count.toNatClampNeg 4) fun _ => True :=
    ⟨fun _ _ _ whole decoded => by cases decoded; exact ⟨whole, trivial⟩, nofun⟩
  refine room.bind fun fits _ => ?_
  split
  · exact confined_fail (.invalidArrayLength count) trivial
  · have item : Confined size (do let item ← string?; return item.getD "") fun _ => True :=
      confined_string?.bind fun item _ => confined_pure trivial
    exact confined_repeated item _

/-! Values and entries. -/

variable {depth : Nat} {nested : Decoder Bundle}

theorem takes_value {form : List UInt8} {stored : Stored}
    (descends : ∀ form bundle, BundleForm (depth + 1) form bundle → nested.Takes form bundle)
    (typed : ValueForm depth form stored) : (value nested).Takes form stored := by
  cases typed
  case null => exact (takes_int32 _).map rfl
  -- Every other tag leads past the branches before its own.
  all_goals
    refine (takes_int32 _).bind ?_
    repeat rw [if_neg (by decide)]
    rw [if_pos rfl]
  case bool word => exact (takes_bool word).map rfl
  case int value => exact (takes_int32 value).map rfl
  case long value => exact (takes_int64 value).map rfl
  case double value => exact (takes_float64 value).map rfl
  case string spelled => exact (takes_string? spelled).map rfl
  case strings counted listed => exact (takes_strings counted listed).map rfl
  case bytes spelled => exact (takes_byteArray? spelled).map rfl
  case bundle deeper => exact (descends _ _ deeper).map rfl

theorem sound_value (descends : nested.Sound (BundleForm (depth + 1))) :
    (value nested).Sound (ValueForm depth) := by
  intro before after stored decoded
  obtain ⟨tag, middle, begun, ended⟩ := bind_ok.1 decoded
  obtain ⟨header, consumed, rfl⟩ := sound_int32 begun
  split at ended
  · rename_i null
    cases ended
    exact ⟨_, consumed, null ▸ .null⟩
  split at ended
  · rename_i bool
    obtain ⟨form, consumedRest, _, rfl, word, rfl, rfl⟩ := sound_bool.map _ ended
    exact ⟨_, consumed.trans consumedRest, bool ▸ .bool word⟩
  split at ended
  · rename_i int
    obtain ⟨form, consumedRest, read, rfl, rfl⟩ := sound_int32.map _ ended
    exact ⟨_, consumed.trans consumedRest, int ▸ .int read⟩
  split at ended
  · rename_i long
    obtain ⟨form, consumedRest, read, rfl, rfl⟩ := sound_int64.map _ ended
    exact ⟨_, consumed.trans consumedRest, long ▸ .long read⟩
  split at ended
  · rename_i double
    obtain ⟨form, consumedRest, read, rfl, rfl⟩ := sound_float64.map _ ended
    exact ⟨_, consumed.trans consumedRest, double ▸ .double read⟩
  split at ended
  · rename_i string
    obtain ⟨text, last, taken, yielded⟩ := bind_ok.1 ended
    obtain ⟨form, consumedRest, spelled⟩ := sound_string? taken
    cases text with
    | none => contradiction
    | some text =>
        cases yielded
        exact ⟨_, consumed.trans consumedRest, string ▸ .string spelled⟩
  split at ended
  · rename_i strings
    obtain ⟨_, consumedRest, items, rfl, count, form, rfl, counted, listed⟩ :=
      sound_strings.map _ ended
    exact ⟨_, consumed.trans consumedRest, strings ▸ .strings counted listed⟩
  split at ended
  · rename_i bytes
    obtain ⟨form, consumedRest, read, rfl, spelled⟩ := sound_byteArray?.map _ ended
    exact ⟨_, consumed.trans consumedRest, bytes ▸ .bytes spelled⟩
  split at ended
  · rename_i bundle
    obtain ⟨form, consumedRest, read, rfl, deeper⟩ := descends.map _ ended
    exact ⟨_, consumed.trans consumedRest, bundle ▸ .bundle deeper⟩
  · contradiction

theorem confined_value {size : Nat} (descends : Confined size nested fun _ => True) :
    Confined size (value nested) fun _ => True := by
  refine confined_int32.bind fun tag _ => ?_
  split
  · exact confined_pure trivial
  split
  · exact confined_bool.bind fun _ _ => confined_pure trivial
  split
  · exact confined_int32.bind fun _ _ => confined_pure trivial
  split
  · exact confined_int64.bind fun _ _ => confined_pure trivial
  split
  · exact confined_float64.bind fun _ _ => confined_pure trivial
  split
  · refine confined_string?.bind fun text _ => ?_
    cases text with
    | none => exact confined_fail .nullString trivial
    | some text => exact confined_pure trivial
  split
  · exact confined_strings.bind fun _ _ => confined_pure trivial
  split
  · exact confined_byteArray?.bind fun _ _ => confined_pure trivial
  split
  · exact descends.bind fun _ _ => confined_pure trivial
  · exact confined_fail (.unknownTag tag) trivial

theorem takes_entry {form : List UInt8} {pair : String × Stored}
    (descends : ∀ form bundle, BundleForm (depth + 1) form bundle → nested.Takes form bundle)
    (spelled : EntryForm depth form pair) : (entry nested).Takes form pair := by
  cases spelled with
  | entry named typed =>
      exact (takes_string? named).bind ((takes_value descends typed).map rfl)

theorem sound_entry (descends : nested.Sound (BundleForm (depth + 1))) :
    (entry nested).Sound (EntryForm depth) := by
  intro before after pair decoded
  obtain ⟨key, middle, begun, ended⟩ := bind_ok.1 decoded
  obtain ⟨keyForm, consumed, named⟩ := sound_string? begun
  cases key with
  | none => contradiction
  | some key =>
      obtain ⟨read, last, taken, yielded⟩ := bind_ok.1 ended
      obtain ⟨valueForm, consumedRest, typed⟩ := sound_value descends taken
      cases yielded
      exact ⟨_, consumed.trans consumedRest, .entry named typed⟩

theorem confined_entry {size : Nat} (descends : Confined size nested fun _ => True) :
    Confined size (entry nested) fun _ => True := by
  refine confined_string?.bind fun key _ => ?_
  cases key with
  | none => exact confined_fail .nullKey trivial
  | some key => exact (confined_value descends).bind fun _ _ => confined_pure trivial

/-! Bundles. -/

theorem takes_bundleWithin {levels depth : Nat} (whole : depth + levels = Limits.bundleDepth + 1)
    {form : List UInt8} {bundle : Bundle} (spelled : BundleForm depth form bundle) :
    (bundleWithin levels).Takes form bundle := by
  induction levels generalizing depth form bundle with
  | zero =>
      cases spelled with
      | payload shallow _ _ _ _ => omega
  | succ levels inductionHypothesis =>
      cases spelled with
      | @payload _ form length count _ entries shallow measured counted listed gathered =>
          intro before after consumed
          obtain ⟨first, consumedLength, consumed⟩ := consumed.split
          obtain ⟨second, consumedMagic, payload⟩ := consumed.split
          obtain ⟨third, consumedCount, consumedEntries⟩ := payload.split
          refine bind_ok.2 ⟨length, first, takes_int32 length consumedLength, ?_⟩
          rw [if_neg (nonnegative_of_counted measured)]
          refine bind_ok.2 ⟨Bundle.magic, second, takes_int32 _ consumedMagic, ?_⟩
          rw [if_neg (fun differs => differs rfl)]
          refine bind_ok.2 ⟨second.offset, second, rfl, ?_⟩
          refine bind_ok.2 ⟨count, third, takes_int32 count consumedCount, ?_⟩
          rw [if_neg (nonnegative_of_counted counted), toNatClampNeg_of_counted counted]
          have forms := (entriesForm_iff.1 listed).imp fun form pair =>
            takes_entry fun form bundle => inductionHypothesis (by omega)
          refine bind_ok.2 ⟨entries, after, forms.takes consumedEntries, ?_⟩
          refine bind_ok.2 ⟨after.offset, after, rfl, ?_⟩
          have measuredRight : ¬ after.offset - second.offset ≠ length.toNatClampNeg := by
            rw [payload.2, toNatClampNeg_of_counted measured]
            omega
          rw [if_neg measuredRight, gathered.eq_ofList]
          rfl

theorem sound_bundleWithin {levels depth : Nat} (whole : depth + levels = Limits.bundleDepth + 1) :
    (bundleWithin levels).Sound (BundleForm depth) := by
  induction levels generalizing depth with
  | zero =>
      intro before after bundle decoded
      cases decoded
  | succ levels inductionHypothesis =>
      intro before after bundle decoded
      obtain ⟨length, first, readLength, decoded⟩ := bind_ok.1 decoded
      obtain ⟨_, consumedLength, rfl⟩ := sound_int32 readLength
      split at decoded
      · contradiction
      rename_i measurable
      obtain ⟨magic, second, readMagic, decoded⟩ := bind_ok.1 decoded
      obtain ⟨_, consumedMagic, rfl⟩ := sound_int32 readMagic
      split at decoded
      · contradiction
      rename_i rightMagic
      obtain ⟨_, _, started, decoded⟩ := bind_ok.1 decoded
      cases started
      obtain ⟨count, third, readCount, decoded⟩ := bind_ok.1 decoded
      obtain ⟨_, consumedCount, rfl⟩ := sound_int32 readCount
      split at decoded
      · contradiction
      rename_i countable
      obtain ⟨entries, fourth, readEntries, decoded⟩ := bind_ok.1 decoded
      have descends : (bundleWithin levels).Sound (BundleForm (depth + 1)) :=
        inductionHypothesis (by omega)
      obtain ⟨form, consumedEntries, counted, listed⟩ :=
        sound_repeated (sound_entry descends) _ readEntries
      obtain ⟨_, _, stopped, decoded⟩ := bind_ok.1 decoded
      cases stopped
      split at decoded
      · contradiction
      rename_i measuredRight
      cases decoded
      have payload := consumedCount.trans consumedEntries
      have measured : length.toInt = (Wire.int32 count ++ form).length := by
        rw [counted_of_nonnegative measurable, ← Decidable.of_not_not measuredRight, payload.2]
        omega
      rw [Decidable.of_not_not rightMagic] at consumedMagic
      refine ⟨_, consumedLength.trans (consumedMagic.trans payload), ?_⟩
      refine .payload (by omega) measured ?_ (entriesForm_iff.2 listed) (Bundle.gathers_ofList _)
      rw [counted, counted_of_nonnegative countable]

theorem confined_offset {size : Nat} : Confined size offset fun start => start ≤ size := by
  constructor
  · intro before after start whole decoded
    cases decoded
    exact ⟨whole, whole ▸ Nat.le_add_right _ _⟩
  · exact nofun

theorem confined_bundleWithin {size : Nat} (levels : Nat) :
    Confined size (bundleWithin levels) fun _ => True := by
  induction levels with
  | zero => exact confined_fail .nestedTooDeep trivial
  | succ levels inductionHypothesis =>
      refine confined_int32.bind fun length _ => ?_
      split
      · exact confined_fail (.negativePayload length) trivial
      refine confined_int32.bind fun magic _ => ?_
      split
      · exact confined_fail (.badMagic magic) trivial
      refine confined_offset.bind fun start _ => confined_int32.bind fun count _ => ?_
      split
      · exact confined_fail (.negativeCount count) trivial
      refine (confined_repeated (confined_entry inductionHypothesis) _).bind fun entries _ => ?_
      refine confined_offset.bind fun stop inside => ?_
      split
      · exact confined_fail (.payloadMismatch length (stop - start))
          (Nat.le_trans (Nat.sub_le stop start) inside)
      · exact confined_pure trivial

theorem blames_bundleWithin (levels : Nat) {before after : Cursor} {fault : Fault}
    (failed : bundleWithin levels before = .error fault after) :
    ∃ defect, fault = .malformed defect := by
  obtain ⟨_, defect, same, _⟩ := (confined_bundleWithin levels).blames rfl failed
  exact ⟨defect, same⟩

end Decoder

namespace Parcel

variable {α : Type}

/-- The cursor of a parcel over its unread bytes. -/
def cursor (parcel : Parcel) : Cursor :=
  ⟨parcel.position, parcel.bytes.drop parcel.position⟩

theorem size_cursor {parcel : Parcel} (inside : parcel.position ≤ parcel.bytes.length) :
    parcel.cursor.size = parcel.bytes.length := by
  simp only [cursor, Cursor.size, List.length_drop]
  omega

@[simp] theorem bytes_ofBytes (bytes : List UInt8) : (ofBytes bytes).bytes = bytes :=
  rfl

/-- Where a parcel ended, what was appended to it begins. -/
theorem seek_append (parcel : Parcel) (bytes : List UInt8) :
    (parcel.append bytes).seek parcel.size = ⟨parcel.bytes ++ bytes, parcel.size⟩ := by
  simp [append, seek, size]

theorem read_eq_ok {parcel after : Parcel} {decoder : Decoder α} {value : α} :
    parcel.read decoder = (.ok value, after) ↔
      ∃ cursor, decoder parcel.cursor = .ok value cursor ∧
        after = { parcel with position := cursor.offset } := by
  unfold read cursor
  cases decoder ⟨parcel.position, parcel.bytes.drop parcel.position⟩ <;>
    simp [and_assoc, eq_comm]

theorem read_eq_error {parcel after : Parcel} {decoder : Decoder α} {fault : Fault} :
    parcel.read decoder = (.error fault, after) ↔
      ∃ cursor, decoder parcel.cursor = .error fault cursor ∧
        after = { parcel with position := cursor.offset } := by
  unfold read cursor
  cases decoder ⟨parcel.position, parcel.bytes.drop parcel.position⟩ <;>
    simp [and_assoc, eq_comm]

/-- What a decoder takes is read where it stands at the cursor. -/
theorem read_taken {decoder : Decoder α} {form rest : List UInt8} {value : α}
    (taken : decoder.Takes form value) {parcel : Parcel}
    (unread : parcel.bytes.drop parcel.position = form ++ rest) :
    parcel.read decoder =
      (.ok value, { parcel with position := parcel.position + form.length }) :=
  read_eq_ok.2 ⟨⟨parcel.position + form.length, rest⟩, taken ⟨unread, rfl⟩, rfl⟩

/-- What a decoder fails behind is consumed where it stands at the cursor. -/
theorem read_raised {decoder : Decoder α} {form rest : List UInt8} {fault : Fault}
    (raised : decoder.Raises form fault) {parcel : Parcel}
    (unread : parcel.bytes.drop parcel.position = form ++ rest) :
    parcel.read decoder =
      (.error fault, { parcel with position := parcel.position + form.length }) :=
  read_eq_error.2 ⟨⟨parcel.position + form.length, rest⟩, raised ⟨unread, rfl⟩, rfl⟩

/-- Reading with an exact decoder is finding a form at the cursor. -/
theorem read_eq_ok_iff_form {decoder : Decoder α} {Form : List UInt8 → α → Prop}
    (sound : decoder.Sound Form) (takes : ∀ form value, Form form value → decoder.Takes form value)
    {parcel after : Parcel} {value : α} :
    parcel.read decoder = (.ok value, after) ↔
      ∃ form rest, parcel.bytes.drop parcel.position = form ++ rest ∧ Form form value ∧
        after = { parcel with position := parcel.position + form.length } := by
  rw [read_eq_ok]
  constructor
  · rintro ⟨cursor, decoded, rfl⟩
    obtain ⟨form, consumed, spelled⟩ := sound decoded
    exact ⟨form, cursor.unread, consumed.1, spelled, by rw [consumed.2]; rfl⟩
  · rintro ⟨form, rest, unread, spelled, rfl⟩
    exact read_eq_ok.1 (read_taken (takes form value spelled) unread)

/-- A bundle is read where one of its forms stands at the cursor and nowhere
else, that form is consumed, and every failure tells a defect of the bytes. -/
theorem read_bundle_exact (parcel : Parcel) :
    (∀ (bundle : Bundle) (after : Parcel), parcel.read Decoder.bundle = (.ok bundle, after) ↔
      ∃ form rest, parcel.bytes.drop parcel.position = form ++ rest ∧ BundleForm 0 form bundle ∧
        after = { parcel with position := parcel.position + form.length }) ∧
    ∀ (fault : Fault) (after : Parcel), parcel.read Decoder.bundle = (.error fault, after) →
      ∃ defect, fault = .malformed defect := by
  have whole : 0 + (Limits.bundleDepth + 1) = Limits.bundleDepth + 1 := Nat.zero_add _
  constructor
  · intro bundle after
    exact read_eq_ok_iff_form (Decoder.sound_bundleWithin whole)
      fun _ _ => Decoder.takes_bundleWithin whole
  · intro fault after failed
    obtain ⟨cursor, failed, _⟩ := read_eq_error.1 failed
    exact Decoder.blames_bundleWithin _ failed

/-- A form of a bundle with one key twice, a word for true that is not one, and
filler bytes that are not zero. -/
def looseForm : List UInt8 :=
  Wire.int32 36 ++ (Wire.int32 Bundle.magic ++ (Wire.int32 2 ++
    ((Wire.int32 1 ++ (Utf8.bytes "k" ++ 0 :: [5, 5])) ++
        (Wire.int32 Value.boolTag ++ Wire.int32 7) ++
      ((Wire.int32 1 ++ (Utf8.bytes "k" ++ 0 :: [0, 0])) ++
          (Wire.int32 Value.intTag ++ Wire.int32 5) ++ []))))

theorem read_bundle_exact_loose :
    (∃ bundle : Bundle, bundle.entries = [("k", .int 5)] ∧
      read ⟨[1] ++ (looseForm ++ [2]), 1⟩ Decoder.bundle =
        (.ok bundle, ⟨[1] ++ (looseForm ++ [2]), 1 + looseForm.length⟩)) ∧
    ∃ defect, Fault.malformed (.badMagic 0) = .malformed defect := by
  constructor
  · have filled : Decoder.StringForm (Wire.int32 1 ++ (Utf8.bytes "k" ++ 0 :: [5, 5])) (some "k") :=
      .present rfl (by decide) rfl
    have padded : Decoder.StringForm (Wire.int32 1 ++ (Utf8.bytes "k" ++ 0 :: [0, 0])) (some "k") :=
      .present rfl (by decide) rfl
    have listed : EntriesForm 0 _ _ := .cons filled (.bool 7) (.cons padded (.int 5) .nil)
    have form : BundleForm 0 looseForm _ :=
      .payload (Nat.zero_le _) rfl rfl listed (Bundle.gathers_ofList _)
    exact ⟨_, rfl, ((read_bundle_exact _).1 _ _).2 ⟨looseForm, [2], rfl, form, rfl⟩⟩
  · exact (read_bundle_exact (ofBytes (Wire.int32 0 ++ Wire.int32 0))).2 _ _ rfl

end Parcel

end Courier
