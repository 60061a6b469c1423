import Courier.Bundle.Json
import Courier.Proofs.Bundle.Reading
import Courier.Proofs.Json.RoundTrip

namespace Courier

/-! A document, turned into a bundle and back.

The bundle of a document has its keys and its nesting, and gives the document
back but for the integers past the longs, which come back as doubles. -/

/-! Integers. -/

theorem Binary64.isFinite_ofInt {value : Int} (small : value.natAbs < 2 ^ 64) :
    (Binary64.ofInt value).isFinite = true := by
  apply isFinite_ofMagnitude
  refine nearest_lt_infiniteMagnitude Nat.one_pos ?_
  rw [Nat.cast_one, div_one]
  calc (value.natAbs : ℚ) < 2 ^ 64 := by exact_mod_cast small
    _ ≤ 2 ^ 1023 := pow_le_pow_right₀ (by norm_num) (by decide)

namespace Json

def FitsLong : Json → Prop
  | .integer value => isInt64 value = true
  | .null | .bool _ | .double _ | .string _ | .array _ | .object _ => True

/-- An array holds nothing but strings. -/
def ListsStrings : Json → Prop
  | .array items => ∃ texts : List String, items = texts.map Json.string
  | .null | .bool _ | .integer _ | .double _ | .string _ | .object _ => True

mutual

/-- The document with a double in place of every integer that is not a long. -/
def narrowed : Json → Json
  | .integer value => if isInt64 value then .integer value else .double (.ofInt value)
  | .array items => .array (narrowedItems items)
  | .object members => .object (narrowedMembers members)
  | .null => .null
  | .bool value => .bool value
  | .double value => .double value
  | .string value => .string value

def narrowedItems : List Json → List Json
  | [] => []
  | item :: rest => item.narrowed :: narrowedItems rest

def narrowedMembers : List (String × Json) → List (String × Json)
  | [] => []
  | (key, value) :: rest => (key, value.narrowed) :: narrowedMembers rest

end

mutual

/-- Nothing is narrowed if and only if all the integers are longs. -/
theorem narrowed_eq_iff : (document : Json) →
    (document.narrowed = document ↔ document.Throughout FitsLong)
  | .integer value => by
      rw [narrowed, Throughout, FitsLong]
      split
      · rename_i fits
        exact iff_of_true rfl fits
      · rename_i wide
        exact iff_of_false (fun same => by cases same) wide
  | .array items => by
      rw [narrowed, Throughout, Json.array.injEq, narrowedItems_eq_iff items]
      exact (and_iff_right trivial).symm
  | .object members => by
      rw [narrowed, Throughout, Json.object.injEq, narrowedMembers_eq_iff members]
      exact (and_iff_right trivial).symm
  | .null => iff_of_true rfl trivial
  | .bool _ => iff_of_true rfl trivial
  | .double _ => iff_of_true rfl trivial
  | .string _ => iff_of_true rfl trivial

theorem narrowedItems_eq_iff : (items : List Json) →
    (narrowedItems items = items ↔ ThroughoutItems FitsLong items)
  | [] => iff_of_true rfl trivial
  | item :: rest => by
      rw [narrowedItems, ThroughoutItems, List.cons.injEq, narrowed_eq_iff item,
        narrowedItems_eq_iff rest]

theorem narrowedMembers_eq_iff : (members : List (String × Json)) →
    (narrowedMembers members = members ↔ ThroughoutMembers FitsLong members)
  | [] => iff_of_true rfl trivial
  | (key, value) :: rest => by
      rw [narrowedMembers, ThroughoutMembers, List.cons.injEq, Prod.mk.injEq,
        narrowed_eq_iff value, narrowedMembers_eq_iff rest, and_iff_right rfl]

end

mutual

/-- How many objects nest in the document, itself included. -/
def levels : Json → Nat
  | .array items => levelsOfItems items
  | .object members => levelsOfMembers members + 1
  | .null | .bool _ | .integer _ | .double _ | .string _ => 0

def levelsOfItems : List Json → Nat
  | [] => 0
  | item :: rest => max item.levels (levelsOfItems rest)

def levelsOfMembers : List (String × Json) → Nat
  | [] => 0
  | (_, value) :: rest => max value.levels (levelsOfMembers rest)

end

/-! Conversion. -/

theorem strings?_eq_some {items : List Json} {texts : List String} :
    strings? items = some texts ↔ items = texts.map Json.string := by
  induction items generalizing texts with
  | nil =>
      rw [strings?, Option.some.injEq, eq_comm, eq_comm (a := []), List.map_eq_nil_iff]
  | cons item rest inductionHypothesis =>
      cases texts with
      | nil =>
          cases item <;> simp [strings?]
      | cons text texts =>
          cases item with
          | string value => simp [strings?, inductionHypothesis, and_comm]
          | _ => simp [strings?]

theorem toStored_array {key : String} {items : List Json} {stored : Stored} :
    (Json.array items).toStored key = .ok stored ↔
      ∃ texts, items = texts.map Json.string ∧ stored = ⟨.strings texts, trivial⟩ := by
  simp only [toStored, ← strings?_eq_some]
  cases strings? items with
  | none => simp
  | some texts => simp [eq_comm]

theorem toStored_object {key : String} {members : List (String × Json)} {stored : Stored} :
    (Json.object members).toStored key = .ok stored ↔
      ∃ entries, toEntries members = .ok entries ∧ stored = (Bundle.ofList entries).toStored := by
  simp only [toStored]
  cases toEntries members with
  | error fault => simp
  | ok entries => simp [eq_comm]

theorem toEntries_cons {key : String} {document : Json} {rest : List (String × Json)}
    {entries : List (String × Stored)} :
    toEntries ((key, document) :: rest) = .ok entries ↔
      ∃ stored later, document.toStored key = .ok stored ∧ toEntries rest = .ok later ∧
        entries = (key, stored) :: later := by
  simp only [toEntries]
  cases document.toStored key with
  | error fault => simp
  | ok stored =>
      cases toEntries rest with
      | error fault => simp
      | ok later => simp [eq_comm]

theorem keys_toEntries {members : List (String × Json)} {entries : List (String × Stored)}
    (converted : toEntries members = .ok entries) :
    entries.map Prod.fst = members.map Prod.fst := by
  induction members generalizing entries with
  | nil =>
      cases converted
      rfl
  | cons member rest inductionHypothesis =>
      obtain ⟨stored, later, _, others, rfl⟩ := toEntries_cons.1 converted
      rw [List.map_cons, List.map_cons, inductionHypothesis others]

/-- The bundle of an object in key order has one entry for each member. -/
theorem entries_toEntries {members : List (String × Json)} {entries : List (String × Stored)}
    (ascending : Keyed.Ascending members) (converted : toEntries members = .ok entries) :
    (Bundle.ofList entries).entries = entries.map fun entry => (entry.1, entry.2.1) := by
  rw [Bundle.entries_ofList]
  apply Keyed.ofList_of_ascending
  exact Keyed.ascending_map.2 (Keyed.ascending_of_keys (keys_toEntries converted) ascending)

theorem narrowedItems_strings (texts : List String) :
    narrowedItems (texts.map Json.string) = texts.map Json.string := by
  induction texts with
  | nil => rfl
  | cons text rest inductionHypothesis =>
      rw [List.map_cons, narrowedItems, narrowed, inductionHypothesis]

theorem levelsOfItems_strings (texts : List String) :
    levelsOfItems (texts.map Json.string) = 0 := by
  induction texts with
  | nil => rfl
  | cons text rest inductionHypothesis =>
      rw [List.map_cons, levelsOfItems, inductionHypothesis]
      rfl

theorem isInt32_toInt (value : Int32) : isInt32 value.toInt = true := by
  simp only [isInt32, Bool.and_eq_true, decide_eq_true_eq]
  exact ⟨value.minValue_le_toInt, value.toInt_le⟩

theorem isInt64_toInt (value : Int64) : isInt64 value.toInt = true := by
  simp only [isInt64, Bool.and_eq_true, decide_eq_true_eq]
  exact ⟨value.minValue_le_toInt, value.toInt_le⟩

theorem toInt_int32 {value : Int} (fits : isInt32 value = true) :
    (Int32.ofInt value).toInt = value := by
  simp only [isInt32, Bool.and_eq_true, decide_eq_true_eq] at fits
  exact Int32.toInt_ofInt_of_le fits.1 (Int.lt_add_one_of_le fits.2)

theorem toInt_int64 {value : Int} (fits : isInt64 value = true) :
    (Int64.ofInt value).toInt = value := by
  simp only [isInt64, Bool.and_eq_true, decide_eq_true_eq] at fits
  exact Int64.toInt_ofInt_of_le fits.1 (Int.lt_add_one_of_le fits.2)

theorem isInt64_of_isInt32 {value : Int} (fits : isInt32 value = true) :
    isInt64 value = true := by
  have low : Int64.minValue.toInt ≤ Int32.minValue.toInt := by decide
  have high : Int32.maxValue.toInt ≤ Int64.maxValue.toInt := by decide
  simp only [isInt32, isInt64, Bool.and_eq_true, decide_eq_true_eq] at fits ⊢
  exact ⟨Int.le_trans low fits.1, Int.le_trans fits.2 high⟩

theorem natAbs_lt_of_representable {value : Int}
    (representable : (Json.integer value).Representable) : value.natAbs < 2 ^ 64 := by
  obtain ⟨low, high⟩ := representable
  have lowest : Int64.minValue.toInt = -2 ^ 63 := by decide
  rw [lowest] at low
  simp only [UInt64.size] at high
  omega

/-- An integer becomes the narrowest number that holds it. -/
theorem toJson_storedInteger {value : Int}
    (representable : (Json.integer value).Representable) :
    (storedInteger value).1.toJson = (Json.integer value).narrowed := by
  unfold storedInteger
  rw [narrowed]
  split
  · rename_i fits
    rw [if_pos (isInt64_of_isInt32 fits), Value.toJson, toInt_int32 fits]
  · split
    · rename_i fits
      rw [Value.toJson, toInt_int64 fits]
    · have small := natAbs_lt_of_representable representable
      rw [Value.toJson, if_pos (Binary64.isFinite_ofInt small)]

theorem levels_storedInteger (value : Int) : (storedInteger value).1.levels = 0 := by
  unfold storedInteger
  split
  · rfl
  · split <;> rfl

mutual

/-- What is stored for a document gives the document back, narrowed. -/
theorem toJson_toStored : (document : Json) → (key : String) → (stored : Stored) →
    document.Ordered → document.Throughout Representable → document.toStored key = .ok stored →
      stored.1.toJson = document.narrowed
  | .null, _, _, _, _, converted => by cases converted; rfl
  | .bool _, _, _, _, _, converted => by cases converted; rfl
  | .integer _, _, _, _, representable, converted => by
      cases converted
      exact toJson_storedInteger representable
  | .double _, _, _, _, representable, converted => by
      cases converted
      exact if_pos representable
  | .string _, _, _, _, _, converted => by cases converted; rfl
  | .array _, _, _, _, _, converted => by
      obtain ⟨texts, rfl, rfl⟩ := toStored_array.1 converted
      rw [narrowed, Value.toJson, narrowedItems_strings]
  | .object members, _, _, ordered, representable, converted => by
      obtain ⟨entries, listed, rfl⟩ := toStored_object.1 converted
      rw [narrowed, Bundle.toStored, Value.toJson, entries_toEntries ordered.1 listed,
        membersToJson_toEntries members entries ordered.2 representable.2 listed]

theorem membersToJson_toEntries : (members : List (String × Json)) →
    (entries : List (String × Stored)) → OrderedMembers members →
      ThroughoutMembers Representable members → toEntries members = .ok entries →
        Value.membersToJson (entries.map fun entry => (entry.1, entry.2.1)) =
          narrowedMembers members
  | [], _, _, _, converted => by cases converted; rfl
  | (key, document) :: rest, _, ordered, representable, converted => by
      obtain ⟨stored, later, first, others, rfl⟩ := toEntries_cons.1 converted
      rw [List.map_cons, Value.membersToJson, narrowedMembers,
        toJson_toStored document key stored ordered.1 representable.1 first,
        membersToJson_toEntries rest later ordered.2 representable.2 others]

end

mutual

/-- As many bundles nest in what is stored as objects in the document. -/
theorem levels_toStored : (document : Json) → (key : String) → (stored : Stored) →
    document.Ordered → document.toStored key = .ok stored → stored.1.levels = document.levels
  | .null, _, _, _, converted => by cases converted; rfl
  | .bool _, _, _, _, converted => by cases converted; rfl
  | .integer value, _, _, _, converted => by
      cases converted
      exact levels_storedInteger value
  | .double _, _, _, _, converted => by cases converted; rfl
  | .string _, _, _, _, converted => by cases converted; rfl
  | .array _, _, _, _, converted => by
      obtain ⟨texts, rfl, rfl⟩ := toStored_array.1 converted
      rw [levels, levelsOfItems_strings, Value.levels]
  | .object members, _, _, ordered, converted => by
      obtain ⟨entries, listed, rfl⟩ := toStored_object.1 converted
      rw [levels, Bundle.toStored, Value.levels, entries_toEntries ordered.1 listed,
        levels_toEntries members entries ordered.2 listed]

theorem levels_toEntries : (members : List (String × Json)) →
    (entries : List (String × Stored)) → OrderedMembers members →
      toEntries members = .ok entries →
        Value.levelsOfEntries (entries.map fun entry => (entry.1, entry.2.1)) =
          levelsOfMembers members
  | [], _, _, converted => by cases converted; rfl
  | (key, document) :: rest, _, ordered, converted => by
      obtain ⟨stored, later, first, others, rfl⟩ := toEntries_cons.1 converted
      rw [List.map_cons, Value.levelsOfEntries, levelsOfMembers,
        levels_toStored document key stored ordered.1 first,
        levels_toEntries rest later ordered.2 others]

end

mutual

/-- A document is stored if all its arrays hold nothing but strings. -/
theorem toStored_total : (document : Json) → (key : String) →
    document.Throughout ListsStrings → ∃ stored, document.toStored key = .ok stored
  | .null, _, _ => ⟨_, rfl⟩
  | .bool _, _, _ => ⟨_, rfl⟩
  | .integer _, _, _ => ⟨_, rfl⟩
  | .double _, _, _ => ⟨_, rfl⟩
  | .string _, _, _ => ⟨_, rfl⟩
  | .array _, _, listed => by
      obtain ⟨texts, same⟩ := listed.1
      exact ⟨_, toStored_array.2 ⟨texts, same, rfl⟩⟩
  | .object members, _, listed => by
      obtain ⟨entries, converted⟩ := toEntries_total members listed.2
      exact ⟨_, toStored_object.2 ⟨entries, converted, rfl⟩⟩

theorem toEntries_total : (members : List (String × Json)) →
    ThroughoutMembers ListsStrings members → ∃ entries, toEntries members = .ok entries
  | [], _ => ⟨[], rfl⟩
  | (key, document) :: rest, listed => by
      obtain ⟨stored, first⟩ := toStored_total document key listed.1
      obtain ⟨later, others⟩ := toEntries_total rest listed.2
      exact ⟨_, toEntries_cons.2 ⟨stored, later, first, others, rfl⟩⟩

end

end Json

namespace Bundle

theorem ofJson_eq_ok {document : Json} {bundle : Bundle} :
    Bundle.ofJson document = .ok bundle ↔
      ∃ members entries, document = .object members ∧ Json.toEntries members = .ok entries ∧
        bundle = Bundle.ofList entries := by
  cases document with
  | object members =>
      simp only [Bundle.ofJson]
      cases converted : Json.toEntries members with
      | error fault => simp [Except.map, converted]
      | ok entries => simp [Except.map, converted, eq_comm]
  | _ => simp [Bundle.ofJson]

theorem toJson_eq_narrowed {document : Json} {bundle : Bundle} (ordered : document.Ordered)
    (representable : document.Throughout Json.Representable)
    (accepted : Bundle.ofJson document = .ok bundle) : bundle.toJson = document.narrowed := by
  obtain ⟨members, entries, rfl, converted, rfl⟩ := ofJson_eq_ok.1 accepted
  rw [toJson, Json.entries_toEntries ordered.1 converted, Json.narrowed,
    Json.membersToJson_toEntries members entries ordered.2 representable.2 converted]

theorem depth_of_ofJson {document : Json} {bundle : Bundle} (ordered : document.Ordered)
    (accepted : Bundle.ofJson document = .ok bundle) : document.levels = bundle.depth + 1 := by
  obtain ⟨members, entries, rfl, converted, rfl⟩ := ofJson_eq_ok.1 accepted
  rw [depth, Json.entries_toEntries ordered.1 converted, Json.levels,
    Json.levels_toEntries members entries ordered.2 converted]

/-- The bundle of a document gives the document back with every integer past the
longs as a double.  So it gives back the same document if and only if all the
integers are longs. -/
theorem toJson_ofJson {document : Json} {bundle : Bundle} (ordered : document.Ordered)
    (representable : document.Throughout Json.Representable)
    (accepted : Bundle.ofJson document = .ok bundle) :
    bundle.toJson = document.narrowed ∧
      (bundle.toJson = document ↔ document.Throughout Json.FitsLong) := by
  have converted := toJson_eq_narrowed ordered representable accepted
  refine ⟨converted, ?_⟩
  rw [converted]
  exact Json.narrowed_eq_iff document

/-- The greatest long, and the integer behind it. -/
def boundarySample : Json :=
  .object [("last", .integer 9223372036854775807), ("past", .integer 9223372036854775808)]

theorem toJson_ofJson_boundary :
    boundarySample.Ordered ∧ boundarySample.Throughout Json.Representable ∧
      ∃ bundle, Bundle.ofJson boundarySample = .ok bundle ∧
        bundle.toJson = .object [("last", .integer 9223372036854775807),
          ("past", .double ⟨0x43E0000000000000⟩)] ∧
        bundle.toJson ≠ boundarySample := by
  have ordered : boundarySample.Ordered := ⟨by decide, trivial, trivial, trivial⟩
  have representable : boundarySample.Throughout Json.Representable :=
    ⟨trivial, ⟨by decide, by decide⟩, ⟨by decide, by decide⟩, trivial⟩
  have last : Json.isInt64 9223372036854775807 = true := by decide
  have past : Json.isInt64 9223372036854775808 = false := by decide
  have rounded : Binary64.ofInt 9223372036854775808 = ⟨0x43E0000000000000⟩ := by decide +kernel
  obtain ⟨bundle, accepted⟩ : ∃ bundle, Bundle.ofJson boundarySample = .ok bundle := ⟨_, rfl⟩
  obtain ⟨converted, kept⟩ := toJson_ofJson ordered representable accepted
  refine ⟨ordered, representable, bundle, accepted, ?_, ?_⟩
  · rw [converted]
    simp only [boundarySample, Json.narrowed, Json.narrowedMembers, last, past, rounded, if_true,
      Bool.false_eq_true, if_false]
  · rw [ne_eq, kept]
    intro fits
    have long : Json.isInt64 9223372036854775808 = true := fits.2.2.1
    rw [past] at long
    cases long

/-- A text with an integer past the longs describes a bundle with another number. -/
theorem past_longs_change :
    ∃ document bundle, Json.parse "\x7b\"a\":9223372036854775808\x7d" = .ok document ∧
      Bundle.ofJson document.canonical = .ok bundle ∧
      bundle.toJson ≠ document.canonical ∧
      bundle.toJson.render = "\x7b\"a\":9.223372036854776e+18\x7d" := by
  have ordered : (Json.object [("a", .integer 9223372036854775808)]).Ordered :=
    ⟨by decide, trivial, trivial⟩
  have representable :
      (Json.object [("a", .integer 9223372036854775808)]).Throughout Json.Representable :=
    ⟨trivial, ⟨by decide, by decide⟩, trivial⟩
  have written : "\x7b\"a\":9223372036854775808\x7d" =
      (Json.object [("a", .integer 9223372036854775808)]).render := by decide +kernel
  have parsed := Json.parse_render representable (by decide)
  rw [← written] at parsed
  have past : Json.isInt64 9223372036854775808 = false := by decide
  have rounded : Binary64.ofInt 9223372036854775808 = ⟨0x43E0000000000000⟩ := by decide +kernel
  have converted := toJson_eq_narrowed ordered representable rfl
  simp only [Json.narrowed, Json.narrowedMembers, past, rounded, Bool.false_eq_true,
    if_false] at converted
  refine ⟨.object [("a", .integer 9223372036854775808)], _, parsed, rfl, ?_, ?_⟩
  · rw [Json.canonical, Json.canonicalMembers, Json.canonicalMembers, Json.canonical]
    rw [converted]
    intro same
    cases same
  · rw [converted]
    decide +kernel

end Bundle

end Courier
