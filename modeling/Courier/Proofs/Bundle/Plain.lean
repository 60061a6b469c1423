import Courier.Proofs.Bundle.Json
import Courier.Proofs.Bundle.Writing

namespace Courier

/-! A bundle, turned into a document and back.

Documents have one kind of integers, no numbers but finite ones, and no bytes.  So
what comes back is the bundle with every long that is an int as an int, with null
in place of every double that is not finite, and with an empty string array in
place of every empty byte array.  A byte array that holds bytes is an array of
numbers, which no bundle comes back from. -/

namespace Value

mutual

/-- No byte array in the value holds any bytes. -/
def Byteless : Value → Prop
  | .bytes value => value = []
  | .bundle entries => BytelessEntries entries
  | .null | .bool _ | .int _ | .long _ | .double _ | .string _ | .strings _ => True

def BytelessEntries : List (String × Value) → Prop
  | [] => True
  | (_, value) :: rest => value.Byteless ∧ BytelessEntries rest

end

mutual

/-- The value with ints, nulls and empty string arrays in place of what documents do
not tell apart from them. -/
def plain : Value → Value
  | .long value =>
      if Json.isInt32 value.toInt then .int (Int32.ofInt value.toInt) else .long value
  | .double value => if value.isFinite then .double value else .null
  | .bytes [] => .strings []
  | .bytes (byte :: rest) => .bytes (byte :: rest)
  | .bundle entries => .bundle (plainEntries entries)
  | .null => .null
  | .bool value => .bool value
  | .int value => .int value
  | .string value => .string value
  | .strings items => .strings items

def plainEntries : List (String × Value) → List (String × Value)
  | [] => []
  | (key, value) :: rest => (key, value.plain) :: plainEntries rest

end

theorem plainEntries_eq_map (entries : List (String × Value)) :
    plainEntries entries = entries.map fun entry => (entry.1, entry.2.plain) := by
  induction entries with
  | nil => rfl
  | cons entry rest inductionHypothesis =>
      rw [plainEntries, inductionHypothesis, List.map_cons]

theorem ascending_plainEntries {entries : List (String × Value)}
    (ascending : Keyed.Ascending entries) : Keyed.Ascending (plainEntries entries) := by
  rw [plainEntries_eq_map]
  exact Keyed.ascending_map.2 ascending

mutual

theorem ordered_plain : (value : Value) → value.Ordered → value.plain.Ordered
  | .long value, _ => by
      rw [plain]
      split <;> trivial
  | .double value, _ => by
      rw [plain]
      split <;> trivial
  | .bytes [], _ => trivial
  | .bytes (_ :: _), _ => trivial
  | .bundle entries, ordered =>
      ⟨ascending_plainEntries ordered.1, ordered_plainEntries entries ordered.2⟩
  | .null, _ => trivial
  | .bool _, _ => trivial
  | .int _, _ => trivial
  | .string _, _ => trivial
  | .strings _, _ => trivial

theorem ordered_plainEntries : (entries : List (String × Value)) → OrderedEntries entries →
    OrderedEntries (plainEntries entries)
  | [], _ => trivial
  | (_, value) :: rest, ordered =>
      ⟨ordered_plain value ordered.1, ordered_plainEntries rest ordered.2⟩

end

end Value

namespace Bundle

def Byteless (bundle : Bundle) : Prop :=
  Value.BytelessEntries bundle.entries

def plain (bundle : Bundle) : Bundle where
  entries := Value.plainEntries bundle.entries
  ordered := Value.ordered_plain (.bundle bundle.entries) bundle.ordered

end Bundle

namespace Json

theorem ok_eq_ok_iff {value : Value} {ordered : value.Ordered} {stored : Stored} :
    (Except.ok ⟨value, ordered⟩ : Except Fault Stored) = .ok stored ↔
      True ∧ stored.1 = value := by
  rw [Except.ok.injEq, Subtype.ext_iff, eq_comm, true_and]

theorem toStored_bytes {key : String} {bytes : List UInt8} {stored : Stored} :
    (Value.bytes bytes).toJson.toStored key = .ok stored ↔
      bytes = [] ∧ stored.1 = .strings [] := by
  cases bytes with
  | nil => exact ok_eq_ok_iff.trans (and_congr_left' (eq_self_iff_true _).symm)
  | cons byte rest => simp [Value.toJson, toStored, strings?]

theorem strings?_map (texts : List String) : strings? (texts.map Json.string) = some texts :=
  strings?_eq_some.2 rfl

/-- If entries come back plain, so does the bundle of them. -/
theorem ofList_plain {entries : List (String × Value)} (ordered : (Value.bundle entries).Ordered)
    (listed : ∀ stored : List (String × Stored),
      toEntries (Value.membersToJson entries) = .ok stored ↔ Value.BytelessEntries entries ∧
        (stored.map fun entry => (entry.1, entry.2.1)) = Value.plainEntries entries)
    (back : Bundle) :
    (∃ stored, toEntries (Value.membersToJson entries) = .ok stored ∧ back = Bundle.ofList stored) ↔
      Value.BytelessEntries entries ∧ back.entries = Value.plainEntries entries := by
  have collected {stored : List (String × Stored)}
      (same : (stored.map fun entry => (entry.1, entry.2.1)) = Value.plainEntries entries) :
      (Bundle.ofList stored).entries = Value.plainEntries entries := by
    rw [Bundle.entries_ofList, same]
    exact Keyed.ofList_of_ascending (Value.ascending_plainEntries ordered.1)
  constructor
  · rintro ⟨stored, converted, rfl⟩
    obtain ⟨byteless, same⟩ := (listed stored).1 converted
    exact ⟨byteless, collected same⟩
  · rintro ⟨byteless, plain⟩
    have orderedPlain := Value.ordered_plainEntries entries ordered.2
    have same := Value.map_storedEntries (Value.plainEntries entries) orderedPlain
    refine ⟨_, (listed _).2 ⟨byteless, same⟩, Bundle.ext ?_⟩
    rw [plain, collected same]

mutual

/-- What is stored for the document of a value is the value, plain. -/
theorem toStored_toJson : (value : Value) → value.Ordered → (key : String) → (stored : Stored) →
    (value.toJson.toStored key = .ok stored ↔ value.Byteless ∧ stored.1 = value.plain)
  | .null, _, _, _ => ok_eq_ok_iff
  | .bool _, _, _, _ => ok_eq_ok_iff
  | .string _, _, _, _ => ok_eq_ok_iff
  | .int value, _, _, _ => by
      rw [Value.toJson, toStored, storedInteger, if_pos (isInt32_toInt value), Int32.ofInt_toInt]
      exact ok_eq_ok_iff
  | .long value, _, _, _ => by
      rw [Value.toJson, toStored, storedInteger, Value.plain]
      split
      · exact ok_eq_ok_iff
      · rw [if_pos (isInt64_toInt value), Int64.ofInt_toInt]
        exact ok_eq_ok_iff
  | .double value, _, _, _ => by
      rw [Value.toJson, Value.plain]
      split <;> exact ok_eq_ok_iff
  | .strings items, _, _, _ => by
      simp only [Value.toJson, toStored, strings?_map]
      exact ok_eq_ok_iff
  | .bytes [], _, _, _ => toStored_bytes
  | .bytes (byte :: rest), _, _, _ => by
      rw [toStored_bytes]
      exact iff_of_false (fun both => nomatch both.1) (fun both => nomatch both.1)
  | .bundle entries, ordered, key, stored => by
      have bundles := ofList_plain ordered (toEntries_membersToJson entries ordered.2)
      rw [Value.toJson, toStored_object]
      constructor
      · rintro ⟨listed, converted, rfl⟩
        obtain ⟨byteless, plain⟩ := (bundles _).1 ⟨listed, converted, rfl⟩
        exact ⟨byteless, congrArg Value.bundle plain⟩
      · rintro ⟨byteless, plain⟩
        obtain ⟨listed, converted, same⟩ :=
          (bundles (Bundle.plain ⟨entries, ordered⟩)).2 ⟨byteless, rfl⟩
        exact ⟨listed, converted, same ▸ Subtype.ext plain⟩

theorem toEntries_membersToJson : (entries : List (String × Value)) →
    Value.OrderedEntries entries → (stored : List (String × Stored)) →
      (toEntries (Value.membersToJson entries) = .ok stored ↔ Value.BytelessEntries entries ∧
        (stored.map fun entry => (entry.1, entry.2.1)) = Value.plainEntries entries)
  | [], _, stored => by
      rw [Value.membersToJson, toEntries, Except.ok.injEq, eq_comm, Value.plainEntries,
        List.map_eq_nil_iff]
      exact (and_iff_right trivial).symm
  | (key, value) :: rest, ordered, stored => by
      rw [Value.membersToJson, toEntries_cons, Value.plainEntries]
      constructor
      · rintro ⟨first, later, converted, others, rfl⟩
        obtain ⟨byteless, plain⟩ := (toStored_toJson value ordered.1 key first).1 converted
        obtain ⟨bytelessRest, plainRest⟩ :=
          (toEntries_membersToJson rest ordered.2 later).1 others
        exact ⟨⟨byteless, bytelessRest⟩, by rw [List.map_cons, plain, plainRest]⟩
      · rintro ⟨⟨byteless, bytelessRest⟩, plain⟩
        obtain ⟨⟨_, first⟩, later, rfl, entry, plainRest⟩ := List.map_eq_cons_iff.1 plain
        obtain ⟨rfl, plainFirst⟩ := Prod.mk.inj entry
        exact ⟨first, later, (toStored_toJson value ordered.1 _ first).2 ⟨byteless, plainFirst⟩,
          (toEntries_membersToJson rest ordered.2 later).2 ⟨bytelessRest, plainRest⟩, rfl⟩

end

end Json

namespace Bundle

/-- A bundle comes back from its document if and only if no byte array in it holds any
bytes, and what comes back is the plain bundle. -/
theorem ofJson_toJson (bundle back : Bundle) :
    Bundle.ofJson bundle.toJson = .ok back ↔ bundle.Byteless ∧ back = bundle.plain := by
  have bundles := Json.ofList_plain bundle.ordered
    (Json.toEntries_membersToJson bundle.entries bundle.ordered.2)
  constructor
  · intro accepted
    obtain ⟨members, stored, same, converted, rfl⟩ := ofJson_eq_ok.1 accepted
    cases same
    obtain ⟨byteless, plain⟩ := (bundles _).1 ⟨stored, converted, rfl⟩
    exact ⟨byteless, Bundle.ext plain⟩
  · rintro ⟨byteless, rfl⟩
    obtain ⟨stored, converted, same⟩ := (bundles bundle.plain).2 ⟨byteless, rfl⟩
    exact ofJson_eq_ok.2 ⟨_, stored, rfl, converted, same⟩

end Bundle

end Courier
