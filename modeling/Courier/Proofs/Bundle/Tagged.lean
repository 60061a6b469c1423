import Courier.Bundle.Tagged.Reader
import Courier.Proofs.Bundle.Json
import Courier.Proofs.Bundle.Writing
import Courier.Proofs.Json.RoundTrip

namespace Courier

/-! Labelled bundles, written and read back.

Every value reads back from its label and content as it was, except a double
that is not finite: its content is written as null, which no double reads from,
so then the whole bundle is refused. -/

namespace Value

mutual

/-- All doubles in the value are finite. -/
def finite : Value → Bool
  | .double number => number.isFinite
  | .bundle entries => finiteEntries entries
  | .null | .bool _ | .int _ | .long _ | .string _ | .strings _ | .bytes _ => true

def finiteEntries : List (String × Value) → Bool
  | [] => true
  | (_, value) :: rest => value.finite && finiteEntries rest

end

end Value

namespace Tagged

open Json

/-! The label. -/

theorem Kind.ofName?_name (kind : Kind) : Kind.ofName? kind.name = some kind := by
  cases kind <;> decide

theorem Kind.length_name (kind : Kind) : kind.name.toList.length ≤ 12 := by
  cases kind <;> decide

theorem readKind?_name {fuel : Nat} {kind : Kind} (short : kind.name.toList.length < fuel)
    (depth : Nat) (rest : List Char) :
    readKind? fuel depth (renderString kind.name ++ rest) = some (kind, rest) := by
  obtain ⟨behind, written, read⟩ := readString_renderString short rest
  have quote : skipBlanks ('"' :: behind) = '"' :: behind := rfl
  rw [written]
  simp only [readKind?, quote, read, Except.toOption, Kind.ofName?_name, Option.bind_eq_bind,
    Option.bind_some, Option.pure_def]

/-- The text of a labelled value, in front of its content and from there on. -/
theorem renderCharacters_labelled (kind : Kind) (content : Json) (rest : List Char) :
    (labelled kind content).renderCharacters ++ rest =
      '\x7b' :: (renderString "type" ++ ':' :: (renderString kind.name ++
        ',' :: (renderString "value" ++ ':' :: (content.renderCharacters ++ '\x7d' :: rest)))) := by
  simp only [labelled, renderCharacters, renderMembers, List.append_assoc, List.cons_append,
    List.nil_append]

section

variable {fuel depth : Nat} {name : String} {progress settled : Progress}
  {text behind rest : List Char}

theorem readFields?_last (key : readKey fuel text = .ok (name, behind))
    (field : readField? fuel depth name progress behind = some (settled, '\x7d' :: rest)) :
    readFields? (fuel + 1) depth progress text =
      settled.value?.map fun stored => (stored, rest) := by
  have brace : skipBlanks ('\x7d' :: rest) = '\x7d' :: rest := rfl
  simp only [readFields?, key, field, brace, Except.toOption, Option.bind_eq_bind,
    Option.bind_some, Option.pure_def]
  cases settled.value? <;> rfl

theorem readFields?_next (key : readKey fuel text = .ok (name, behind))
    (field : readField? fuel depth name progress behind = some (settled, ',' :: '"' :: rest)) :
    readFields? (fuel + 1) depth progress text = readFields? fuel depth settled ('"' :: rest) := by
  have comma : skipBlanks (',' :: '"' :: rest) = ',' :: '"' :: rest := rfl
  have quote : skipBlanks ('"' :: rest) = '"' :: rest := rfl
  simp only [readFields?, key, field, comma, quote, Except.toOption, Option.bind_eq_bind,
    Option.bind_some]

theorem readFields?_refused (key : readKey fuel text = .ok (name, behind))
    (field : readField? fuel depth name progress behind = none) :
    readFields? (fuel + 1) depth progress text = none := by
  simp only [readFields?, key, field, Except.toOption, Option.bind_eq_bind, Option.bind_some,
    Option.bind_none]

end

theorem readValue?_object {fuel depth : Nat} (text : List Char) :
    readValue? (fuel + 1) (depth + 1) ('\x7b' :: '"' :: text) =
      readFields? fuel depth .nothing ('"' :: text) := by
  have brace : skipBlanks ('\x7b' :: '"' :: text) = '\x7b' :: '"' :: text := rfl
  have quote : skipBlanks ('"' :: text) = '"' :: text := rfl
  simp only [readValue?, brace, quote]

theorem type_short {fuel : Nat} (enough : 12 < fuel) : "type".toList.length < fuel :=
  Nat.lt_trans (by decide) enough

theorem readField?_type {fuel : Nat} {kind : Kind} (short : kind.name.toList.length < fuel)
    (depth : Nat) (rest : List Char) :
    readField? (fuel + 1) depth "type" .nothing (renderString kind.name ++ rest) =
      some (.kind kind, rest) := by
  simp only [readField?, readKind?_name short, Option.bind_eq_bind, Option.bind_some,
    Option.pure_def]
  rfl

theorem readField?_value {fuel depth : Nat} {kind : Kind} {text : List Char} :
    readField? (fuel + 1) depth "value" (.kind kind) text =
      (readContent? fuel depth kind text).map fun read => (.value read.1, read.2) := by
  simp only [readField?]
  cases readContent? fuel depth kind text <;> rfl

/-- A labelled value reads as its content does. -/
theorem readValue?_labelled {fuel depth : Nat} {kind : Kind} {content : Json} {rest : List Char}
    {result : Option Stored} (enough : 12 < fuel)
    (read : readContent? fuel depth kind (content.renderCharacters ++ '\x7d' :: rest) =
      result.map fun stored => (stored, '\x7d' :: rest)) :
    readValue? (fuel + 4) (depth + 1) ((labelled kind content).renderCharacters ++ rest) =
      result.map fun stored => (stored, rest) := by
  obtain ⟨behind, remaining⟩ : ∃ behind, renderString "value" ++
      ':' :: (content.renderCharacters ++ '\x7d' :: rest) = '"' :: behind := ⟨_, rfl⟩
  have labelKey := readKey_renderString (type_short (Nat.lt_add_right 2 enough))
    (renderString kind.name ++ ',' :: '"' :: behind)
  have named : kind.name.toList.length < fuel + 1 :=
    Nat.lt_succ_of_lt (Nat.lt_of_le_of_lt kind.length_name enough)
  have label := readField?_type named depth (',' :: '"' :: behind)
  have contentKey : readKey (fuel + 1) ('"' :: behind) =
      .ok ("value", content.renderCharacters ++ '\x7d' :: rest) := by
    rw [← remaining]
    exact readKey_renderString (Nat.lt_trans (by decide) (Nat.lt_add_right 1 enough)) _
  have contents : readField? (fuel + 1) depth "value" (.kind kind)
      (content.renderCharacters ++ '\x7d' :: rest) =
        result.map fun stored => (.value stored, '\x7d' :: rest) := by
    rw [readField?_value, read, Option.map_map]
    rfl
  have opened :
      readValue? (fuel + 4) (depth + 1) ((labelled kind content).renderCharacters ++ rest) =
      readFields? (fuel + 3) depth .nothing
        (renderString "type" ++ ':' :: (renderString kind.name ++ ',' :: '"' :: behind)) := by
    rw [renderCharacters_labelled, remaining]
    exact readValue?_object _
  rw [opened, readFields?_next labelKey label]
  cases result with
  | none => exact readFields?_refused contentKey contents
  | some stored => exact readFields?_last contentKey contents

/-! Contents. -/

/-- A content that is no bundle is read as a document. -/
theorem readContent?_document {fuel depth : Nat} {kind : Kind} {content : Json}
    (plain : kind ≠ .bundle) (representable : content.Throughout Representable)
    (nested : content.nesting ≤ depth) (enough : content.renderCharacters.length ≤ fuel)
    (rest : List Char) :
    readContent? (fuel + 1) depth kind (content.renderCharacters ++ '\x7d' :: rest) =
      (kind.value? ⟨content, none⟩).map fun stored => (stored, '\x7d' :: rest) := by
  have delimited : Delimited ('\x7d' :: rest) := by
    intro character first
    cases first
    exact .inr (.inr rfl)
  have read := readValue_render content fuel depth ('\x7d' :: rest) representable nested enough
    delimited
  simp only [readContent?, plain, if_false, read, Except.toOption, Option.bind_eq_bind,
    Option.bind_some, Option.pure_def]
  cases kind.value? ⟨content, none⟩ <;> rfl

theorem readContent?_bundle {fuel depth : Nat} {text : List Char} :
    readContent? (fuel + 1) depth .bundle text =
      (readBundle? fuel depth text).map fun read => (read.1.toStored, read.2) := by
  simp only [readContent?, if_true]
  cases readBundle? fuel depth text <;> rfl

theorem length_labelled (kind : Kind) (content : Json) :
    content.renderCharacters.length + 18 ≤ (labelled kind content).renderCharacters.length := by
  have whole := renderCharacters_labelled kind content []
  have typed := length_renderString "type"
  have named := length_renderString kind.name
  have valued := length_renderString "value"
  rw [List.append_nil] at whole
  rw [whole]
  simp only [List.length_cons, List.length_append, List.length_nil]
  have four : "type".toList.length = 4 := by decide
  have five : "value".toList.length = 5 := by decide
  omega

/-- A value other than a bundle reads back if its content has a value. -/
theorem readValue?_content {fuel depth : Nat} {kind : Kind} {content : Json} {rest : List Char}
    {value : Value} {ordered : value.Ordered} (written : ofValue value = labelled kind content)
    (plain : kind ≠ .bundle) (representable : content.Throughout Representable)
    (nested : content.nesting ≤ depth)
    (enough : (ofValue value).renderCharacters.length ≤ fuel)
    (valued : kind.value? ⟨content, none⟩ =
      if value.finite then some ⟨value, ordered⟩ else none) :
    readValue? fuel (depth + 1) ((ofValue value).renderCharacters ++ rest) =
      if value.finite then some (⟨value, ordered⟩, rest) else none := by
  have longer := length_labelled kind content
  rw [written] at enough ⊢
  obtain ⟨less, rfl⟩ : ∃ less, fuel = less + 1 + 4 := ⟨fuel - 5, by omega⟩
  have fits : content.renderCharacters.length ≤ less := by omega
  have read := readContent?_document plain representable nested fits rest
  rw [readValue?_labelled (by omega) read, valued]
  split <;> rfl

/-! Values. -/

theorem representable_of_isInt64 {value : Int} (fits : isInt64 value = true) :
    (Json.integer value).Representable := by
  have top : Int64.maxValue.toInt < UInt64.size := by decide
  simp only [isInt64, Bool.and_eq_true, decide_eq_true_eq] at fits
  exact ⟨fits.1, Int.lt_of_le_of_lt fits.2 top⟩

theorem representable_byte (byte : UInt8) : (Json.integer byte.toNat).Representable := by
  have low : Int64.minValue.toInt ≤ 0 := by decide
  have high : byte.toNat < UInt64.size := Nat.lt_trans byte.toNat_lt (by decide)
  exact ⟨Int.le_trans low (Int.natCast_nonneg _), by exact_mod_cast high⟩

theorem bytes?_toNat (bytes : List UInt8) :
    bytes? (bytes.map fun byte => Json.integer byte.toNat) = some bytes := by
  induction bytes with
  | nil => rfl
  | cons byte rest inductionHypothesis =>
      have small := byte.toNat_lt
      have within : ((0 : Int) ≤ byte.toNat && (byte.toNat : Int) < 256) = true := by
        rw [Bool.and_eq_true, decide_eq_true_eq, decide_eq_true_eq]
        omega
      simp only [List.map_cons, bytes?, within, if_true, inductionHypothesis, Option.map_some,
        Int.toNat_natCast, UInt8.ofNat_toNat]

theorem readValue?_null {fuel depth : Nat} {ordered : Value.null.Ordered} (rest : List Char)
    (enough : (ofValue .null).renderCharacters.length ≤ fuel) :
    readValue? fuel (depth + 1) ((ofValue .null).renderCharacters ++ rest) =
      if Value.null.finite then some (⟨.null, ordered⟩, rest) else none := by
  have size : (ofValue .null).renderCharacters.length = 15 := by decide
  obtain ⟨less, rfl⟩ : ∃ less, fuel = less + 3 := ⟨fuel - 3, by omega⟩
  have enoughName : 12 < less + 1 := by omega
  have key := readKey_renderString (type_short enoughName)
    (renderString Kind.null.name ++ '\x7d' :: rest)
  have four : Kind.null.name.toList.length = 4 := by decide
  have named : Kind.null.name.toList.length < less := by omega
  have label := readField?_type named depth ('\x7d' :: rest)
  have written : (ofValue .null).renderCharacters ++ rest = '\x7b' :: (renderString "type" ++
      ':' :: (renderString Kind.null.name ++ '\x7d' :: rest)) := by
    simp only [ofValue, renderCharacters, renderMembers, List.append_assoc, List.cons_append,
      List.nil_append]
  rw [written]
  exact (readValue?_object _).trans (readFields?_last key label)

/-! Steps through the entries of a bundle. -/

section

variable {fuel depth : Nat} {key : String} {stored : Stored} {text behind rest : List Char}

theorem readEntries?_refused {read : List (String × Stored)}
    (name : readKey fuel text = .ok (key, behind))
    (first : readValue? fuel depth behind = none) :
    readEntries? (fuel + 1) depth read text = none := by
  simp only [readEntries?, name, first, Except.toOption, Option.bind_eq_bind, Option.bind_some,
    Option.bind_none]

theorem readEntries?_last (name : readKey fuel text = .ok (key, behind))
    (first : readValue? fuel depth behind = some (stored, '\x7d' :: rest))
    (read : List (String × Stored)) :
    readEntries? (fuel + 1) depth read text =
      some (Bundle.ofList ((key, stored) :: read).reverse, rest) := by
  have brace : skipBlanks ('\x7d' :: rest) = '\x7d' :: rest := rfl
  simp only [readEntries?, name, first, brace, Except.toOption, Option.bind_eq_bind,
    Option.bind_some]

theorem readEntries?_next (name : readKey fuel text = .ok (key, behind))
    (first : readValue? fuel depth behind = some (stored, ',' :: '"' :: rest))
    (read : List (String × Stored)) :
    readEntries? (fuel + 1) depth read text =
      readEntries? fuel depth ((key, stored) :: read) ('"' :: rest) := by
  have comma : skipBlanks (',' :: '"' :: rest) = ',' :: '"' :: rest := rfl
  have quote : skipBlanks ('"' :: rest) = '"' :: rest := rfl
  simp only [readEntries?, name, first, comma, quote, Except.toOption, Option.bind_eq_bind,
    Option.bind_some]

end

theorem length_object (entries : List (String × Value)) :
    (Json.object (ofEntries entries)).renderCharacters.length =
      (renderMembers (ofEntries entries)).length + if entries = [] then 1 else 0 := by
  cases entries with
  | nil => rfl
  | cons entry rest => rfl

theorem readBundle?_entries {fuel depth : Nat} {text : List Char} :
    readBundle? (fuel + 1) (depth + 1) ('\x7b' :: '"' :: text) =
      readEntries? fuel depth [] ('"' :: text) := by
  have brace : skipBlanks ('\x7b' :: '"' :: text) = '\x7b' :: '"' :: text := rfl
  have quote : skipBlanks ('"' :: text) = '"' :: text := rfl
  simp only [readBundle?, brace, quote]
  split
  · rename_i same
    cases same
  · rfl

/-- A written bundle reads back as its entries do. -/
theorem readBundle?_object {entries : List (String × Value)}
    (ordered : (Value.bundle entries).Ordered) {fuel depth : Nat} (rest : List Char)
    (members : entries ≠ [] →
      readEntries? fuel depth [] ((renderMembers (ofEntries entries)).tail ++ rest) =
        if Value.finiteEntries entries then
          some (Bundle.ofList (Value.storedEntries entries ordered.2), rest)
        else none) :
    readBundle? (fuel + 1) (depth + 1)
        ((Json.object (ofEntries entries)).renderCharacters ++ rest) =
      if Value.finiteEntries entries then some (⟨entries, ordered⟩, rest) else none := by
  have whole := (Bundle.gathers_storedEntries ⟨entries, ordered⟩).eq_ofList
  cases entries with
  | nil =>
      have braces : skipBlanks ('\x7b' :: '\x7d' :: rest) = '\x7b' :: '\x7d' :: rest := rfl
      have brace : skipBlanks ('\x7d' :: rest) = '\x7d' :: rest := rfl
      simp only [ofEntries, renderCharacters, List.cons_append, List.nil_append, readBundle?,
        braces, brace, Value.finiteEntries, if_true]
      rfl
  | cons entry entries =>
      rw [whole]
      exact readBundle?_entries.trans (members (List.cons_ne_nil _ _))

mutual

/-- A written value reads back if its doubles are finite, and else is refused. -/
theorem readValue?_render : (value : Value) → (ordered : value.Ordered) → (fuel depth : Nat) →
    (rest : List Char) → 2 * value.levels + 2 ≤ depth →
      (ofValue value).renderCharacters.length ≤ fuel →
        readValue? fuel depth ((ofValue value).renderCharacters ++ rest) =
          if value.finite then some (⟨value, ordered⟩, rest) else none
  | .null, _, _, _ + 1, rest, _, enough => readValue?_null rest enough
  | .bool value, _, _, _ + 1, _, _, enough =>
      readValue?_content rfl (by decide) trivial (Nat.zero_le _) enough rfl
  | .int value, _, _, _ + 1, _, _, enough => by
      have fits := isInt32_toInt value
      refine readValue?_content rfl (by decide) ?_ (Nat.zero_le _) enough ?_
      · exact representable_of_isInt64 (isInt64_of_isInt32 fits)
      · simp only [Kind.value?, fits, if_true, Int32.ofInt_toInt, Value.finite]
  | .long value, _, _, _ + 1, _, _, enough => by
      have fits := isInt64_toInt value
      refine readValue?_content rfl (by decide) ?_ (Nat.zero_le _) enough ?_
      · exact representable_of_isInt64 fits
      · simp only [Kind.value?, fits, if_true, Int64.ofInt_toInt, Value.finite]
  | .double number, _, _, _ + 1, _, _, enough => by
      refine readValue?_content rfl (by decide) ?_ ?_ enough ?_
      · split
        · assumption
        · trivial
      · split <;> exact Nat.zero_le _
      · rw [Value.finite]
        cases number.isFinite <;> rfl
  | .string text, _, _, _ + 1, _, _, enough =>
      readValue?_content rfl (by decide) trivial (Nat.zero_le _) enough rfl
  | .strings items, _, _, depth + 1, _, deep, enough => by
      have listed : ThroughoutItems Representable (items.map Json.string) := by
        apply throughoutItems_map
        exact fun _ => trivial
      refine readValue?_content rfl (by decide) ⟨trivial, listed⟩ ?_ enough ?_
      · rw [nesting, nestingOfItems_map fun _ => rfl]
        omega
      · simp only [Kind.value?, strings?_eq_some.2 rfl, Option.map_some, Value.finite, if_true]
  | .bytes value, _, _, depth + 1, _, deep, enough => by
      have listed : ThroughoutItems Representable
          (value.map fun byte => Json.integer byte.toNat) := by
        apply throughoutItems_map
        exact representable_byte
      refine readValue?_content rfl (by decide) ⟨trivial, listed⟩ ?_ enough ?_
      · rw [nesting, nestingOfItems_map fun _ => rfl]
        omega
      · simp only [Kind.value?, bytes?_toNat, Option.map_some, Value.finite, if_true]
  | .bundle entries, ordered, fuel, depth + 1, rest, deep, enough => by
      have longer := length_labelled .bundle (.object (ofEntries entries))
      have size := length_object entries
      rw [ofValue] at enough ⊢
      rw [Value.levels] at deep
      obtain ⟨less, rfl⟩ : ∃ less, fuel = less + 1 + 1 + 4 := ⟨fuel - 6, by omega⟩
      obtain ⟨depth, rfl⟩ : ∃ above, depth = above + 1 := ⟨depth - 1, by omega⟩
      have members := readBundle?_object ordered ('\x7d' :: rest) fun nonempty =>
        readEntries?_render entries ordered.2 less depth [] ('\x7d' :: rest) nonempty (by omega)
          (by omega)
      obtain ⟨result, resulted⟩ : ∃ result : Option Stored, result =
          if Value.finiteEntries entries then some ⟨.bundle entries, ordered⟩ else none := ⟨_, rfl⟩
      have read : readContent? (less + 1 + 1) (depth + 1) .bundle
          ((Json.object (ofEntries entries)).renderCharacters ++ '\x7d' :: rest) =
            result.map fun stored => (stored, '\x7d' :: rest) := by
        rw [readContent?_bundle, members, resulted]
        split <;> rfl
      rw [readValue?_labelled (by omega) read, resulted, Value.finite]
      split <;> rfl

theorem readEntries?_render : (entries : List (String × Value)) →
    (ordered : Value.OrderedEntries entries) → (fuel depth : Nat) →
      (read : List (String × Stored)) → (rest : List Char) → entries ≠ [] →
        2 * Value.levelsOfEntries entries + 2 ≤ depth →
          (renderMembers (ofEntries entries)).length ≤ fuel + 1 →
            readEntries? fuel depth read ((renderMembers (ofEntries entries)).tail ++ rest) =
              if Value.finiteEntries entries then
                some (Bundle.ofList (read.reverse ++ Value.storedEntries entries ordered), rest)
              else none
  | [], _, _, _, _, _, nonempty, _, _ => absurd rfl nonempty
  | (key, value) :: entries, ordered, fuel, depth, read, rest, _, deep, enough => by
      have longer := length_renderString key
      rw [ofEntries, renderMembers, List.length_cons, List.length_append, List.length_cons,
        List.length_append] at enough
      rw [Value.levelsOfEntries] at deep
      obtain ⟨fuel, rfl⟩ : ∃ less, fuel = less + 1 := Nat.exists_eq_add_one.2 (by omega)
      have first := readValue?_render value ordered.1 fuel depth
        (renderMembers (ofEntries entries) ++ rest) (by omega) (by omega)
      have short : key.toList.length < fuel := by omega
      have name := readKey_renderString short
        ((ofValue value).renderCharacters ++ (renderMembers (ofEntries entries) ++ rest))
      rw [ofEntries, renderMembers, List.tail_cons, List.append_assoc, List.cons_append,
        List.append_assoc, Value.finiteEntries]
      cases finite : value.finite with
      | false =>
          rw [finite, if_neg Bool.false_ne_true] at first
          rw [Bool.false_and, if_neg Bool.false_ne_true]
          exact readEntries?_refused name first
      | true =>
          rw [finite, if_pos rfl] at first
          rw [Bool.true_and]
          cases entries with
          | nil =>
              have last := readEntries?_last name first read
              rw [List.reverse_cons] at last
              exact last
          | cons next entries =>
              have later := readEntries?_render (next :: entries) ordered.2 fuel depth
                ((key, ⟨value, ordered.1⟩) :: read) rest (List.cons_ne_nil _ _) (by omega)
                (by omega)
              rw [List.reverse_cons, List.append_assoc, List.singleton_append] at later
              exact (readEntries?_next name first read).trans later

end

/-- The text of a bundle reads back as the bundle if all its doubles are finite,
and as nothing else. -/
theorem parse?_render {bundle : Bundle} (shallow : bundle.depth ≤ Limits.bundleDepth) :
    parse? (render bundle) = if Value.finiteEntries bundle.entries then some bundle else none := by
  have text : (render bundle).toList = (ofBundle bundle).renderCharacters := by
    rw [render, Json.render, String.toList_ofList]
  have size := length_object bundle.entries
  have nested : Value.levelsOfEntries bundle.entries ≤ 16 := shallow
  obtain ⟨length, long⟩ : ∃ length, (ofBundle bundle).renderCharacters.length = length := ⟨_, rfl⟩
  have short : (renderMembers (ofEntries bundle.entries)).length ≤ 2 * length + 1 + 1 := by
    rw [ofBundle] at long
    omega
  have read := readBundle?_object bundle.ordered [] fun nonempty =>
    readEntries?_render bundle.entries bundle.ordered.2 (2 * length + 1) 126 [] [] nonempty
      (by omega) short
  rw [List.append_nil] at read
  simp only [parse?, text, long]
  rw [ofBundle, maxDepth, read]
  split <;> rfl

/-- Values of every kind, one of them a bundle with a double of its own. -/
def assortedSample : Bundle where
  entries :=
    [("blob", .bytes [0, 255]), ("count", .int (-3)), ("deep", .bundle [("ratio",
      .double ⟨0x3FB999999999999A⟩)]), ("flag", .bool true), ("large", .long 5000000000),
      ("names", .strings ["x", "\n"]), ("none", .null), ("text", .string "\"")]
  ordered := ⟨by decide, trivial, trivial, ⟨by decide, trivial, trivial⟩, trivial, trivial, trivial,
    trivial, trivial, trivial⟩

theorem parse?_render_assorted :
    assortedSample.depth ≤ Limits.bundleDepth ∧
      parse? (render assortedSample) = some assortedSample := by
  have shallow : assortedSample.depth ≤ Limits.bundleDepth := by decide
  have read := parse?_render shallow
  exact ⟨shallow, read⟩

/-- A bundle whose only double is infinite is written and then refused. -/
theorem infinite_refused :
    ∃ bundle : Bundle, bundle.depth ≤ Limits.bundleDepth ∧
      bundle.find? "k" = some (.double ⟨0x7FF0000000000000⟩) ∧
      render bundle = "\x7b\"k\":\x7b\"type\":\"double\",\"value\":null\x7d\x7d" ∧
      parse? (render bundle) = none := by
  refine ⟨⟨[("k", .double ⟨0x7FF0000000000000⟩)], by decide, trivial, trivial⟩,
    by decide, rfl, ?_, ?_⟩
  · decide +kernel
  · decide +kernel

end Tagged

end Courier
