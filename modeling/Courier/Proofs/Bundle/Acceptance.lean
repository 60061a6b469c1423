import Courier.Proofs.Bundle.Json
import Courier.Proofs.Bundle.Tagged
import Courier.Report

namespace Courier

/-! Which documents become bundles.

A document does if it is an object and every array in it, however deep the objects
nest, holds nothing but strings.  Conversion stops at the first other array and names
the key that holds it.  A place in a document is a path of keys, and of two places the
one with the lesser path comes first. -/

namespace Json

/-! Places. -/

/-- What stands behind a path of keys. -/
def at? : Json → List String → Option Json
  | document, [] => some document
  | .object members, key :: path => (Keyed.find? key members).bind fun value => value.at? path
  | _, _ :: _ => none

/-- Behind the path stands an array that holds something other than strings. -/
def MixedAt (document : Json) (path : List String) : Prop :=
  ∃ array, document.at? path = some array ∧ ¬ array.ListsStrings

/-- The path to the first such array, depth first and with the keys ascending. -/
structure FirstMixed (document : Json) (path : List String) : Prop where
  mixed : document.MixedAt path
  first : ∀ other, document.MixedAt other → other = path ∨ List.Lex Keyed.Precedes path other

variable {document value : Json} {members : List (String × Json)} {key : String}
  {path : List String}

theorem at?_object :
    (Json.object members).at? (key :: path) =
      (Keyed.find? key members).bind fun value => value.at? path := rfl

theorem Throughout.at? {holds : Json → Prop} {found : Json}
    (throughout : document.Throughout holds) (stands : document.at? path = some found) :
    found.Throughout holds := by
  induction path generalizing document with
  | nil =>
      cases stands
      exact throughout
  | cons key path inductionHypothesis =>
      cases document with
      | object members =>
          obtain ⟨value, listed, stands⟩ := Option.bind_eq_some_iff.1 stands
          have inside := throughoutMembers_iff.1 throughout.2 _ (Keyed.mem_of_find? listed)
          exact inductionHypothesis inside stands
      | _ => cases stands

theorem not_mixedAt (listed : document.Throughout ListsStrings) : ¬ document.MixedAt path := by
  rintro ⟨array, stands, mixed⟩
  exact mixed (listed.at? stands).holds

theorem mixedAt_object :
    (Json.object members).MixedAt path ↔
      ∃ key rest value, path = key :: rest ∧ Keyed.find? key members = some value ∧
        value.MixedAt rest := by
  constructor
  · rintro ⟨array, stands, mixed⟩
    cases path with
    | nil =>
        cases stands
        exact absurd trivial mixed
    | cons key rest =>
        obtain ⟨value, listed, stands⟩ := Option.bind_eq_some_iff.1 stands
        exact ⟨key, rest, value, rfl, listed, array, stands, mixed⟩
  · rintro ⟨key, rest, value, rfl, listed, array, stands, mixed⟩
    exact ⟨array, by rw [at?_object, listed, Option.bind_some, stands], mixed⟩

/-- The first place in the first member comes before every place in the others. -/
theorem FirstMixed.head {rest : List (String × Json)}
    (ascending : Keyed.Ascending ((key, value) :: rest)) (first : value.FirstMixed path) :
    (Json.object ((key, value) :: rest)).FirstMixed (key :: path) := by
  have above := (List.pairwise_cons.1 ascending).1
  have found : Keyed.find? key ((key, value) :: rest) = some value := by
    rw [Keyed.find?_cons, if_pos rfl]
  refine ⟨mixedAt_object.2 ⟨key, path, value, rfl, found, first.mixed⟩, fun other mixed => ?_⟩
  obtain ⟨otherKey, later, otherValue, rfl, listed, inside⟩ := mixedAt_object.1 mixed
  rw [Keyed.find?_cons] at listed
  split at listed
  · rename_i same
    cases listed
    cases same
    rcases first.first later inside with rfl | before
    · exact .inl rfl
    · exact .inr (.cons before)
  · exact .inr (.rel (above _ (Keyed.mem_of_find? listed)))

theorem FirstMixed.tail {rest : List (String × Json)}
    (ascending : Keyed.Ascending ((key, value) :: rest)) (listed : value.Throughout ListsStrings)
    (first : (Json.object rest).FirstMixed path) :
    (Json.object ((key, value) :: rest)).FirstMixed path := by
  have above : ∀ member ∈ rest, Keyed.Precedes key member.1 := (List.pairwise_cons.1 ascending).1
  -- Behind any other key than the first one there is the same in both objects.
  have elsewhere : ∀ {other : String}, key ≠ other →
      Keyed.find? other ((key, value) :: rest) = Keyed.find? other rest := fun different => by
    rw [Keyed.find?_cons, if_neg different]
  constructor
  · obtain ⟨holder, later, mixedValue, rfl, found, mixed⟩ := mixedAt_object.1 first.mixed
    have different : key ≠ holder := by
      rintro rfl
      exact Keyed.Precedes.irrefl key (above (key, mixedValue) (Keyed.mem_of_find? found))
    exact mixedAt_object.2 ⟨holder, later, mixedValue, rfl, (elsewhere different).trans found, mixed⟩
  · intro other mixed
    obtain ⟨otherKey, later, otherValue, rfl, found, mixed⟩ := mixedAt_object.1 mixed
    by_cases same : key = otherKey
    · rw [Keyed.find?_cons, if_pos same] at found
      cases found
      exact absurd mixed (not_mixedAt listed)
    · rw [elsewhere same] at found
      exact first.first _ (mixedAt_object.2 ⟨otherKey, later, otherValue, rfl, found, mixed⟩)

/-! Conversion. -/

mutual

theorem listsStrings_of_toStored : (document : Json) → (key : String) → (stored : Stored) →
    document.toStored key = .ok stored → document.Throughout ListsStrings
  | .null, _, _, _ => trivial
  | .bool _, _, _, _ => trivial
  | .integer _, _, _, _ => trivial
  | .double _, _, _, _ => trivial
  | .string _, _, _, _ => trivial
  | .array _, _, _, converted => by
      obtain ⟨texts, rfl, _⟩ := toStored_array.1 converted
      refine ⟨⟨texts, rfl⟩, throughoutItems_map (fun text => ?_) texts⟩
      exact trivial
  | .object members, _, _, converted => by
      obtain ⟨entries, listed, _⟩ := toStored_object.1 converted
      exact ⟨trivial, listsStrings_of_toEntries members entries listed⟩

theorem listsStrings_of_toEntries : (members : List (String × Json)) →
    (entries : List (String × Stored)) → toEntries members = .ok entries →
      ThroughoutMembers ListsStrings members
  | [], _, _ => trivial
  | (key, document) :: rest, _, converted => by
      obtain ⟨stored, later, first, others, _⟩ := toEntries_cons.1 converted
      exact ⟨listsStrings_of_toStored document key stored first,
        listsStrings_of_toEntries rest later others⟩

end

/-- The refusal of an array that stands under a key. -/
def mixedUnder (key : String) : Fault :=
  .config ("array under '" ++ key ++ "' must contain only strings")

mutual

/-- A document that is refused holds an array that is not strings, or is one, and the
refusal names the key that holds the first of them. -/
theorem refused_toStored : (document : Json) → (key : String) → (fault : Fault) →
    document.Ordered → document.toStored key = .error fault →
      ∃ path front holder, document.FirstMixed path ∧ key :: path = front ++ [holder] ∧
        fault = mixedUnder holder
  | .null, _, _, _, refused => by cases refused
  | .bool _, _, _, _, refused => by cases refused
  | .integer _, _, _, _, refused => by cases refused
  | .double _, _, _, _, refused => by cases refused
  | .string _, _, _, _, refused => by cases refused
  | .array items, key, _, _, refused => by
      have mixed : ¬ (Json.array items).ListsStrings := by
        rintro ⟨texts, same⟩
        rw [toStored_array.2 ⟨texts, same, rfl⟩] at refused
        cases refused
      refine ⟨[], [], key, ⟨⟨_, rfl, mixed⟩, ?_⟩, rfl, ?_⟩
      · rintro (_ | ⟨other, later⟩) ⟨array, stands, _⟩
        · exact .inl rfl
        · cases stands
      · simp only [toStored] at refused
        split at refused
        · cases refused
        · exact (Except.error.inj refused).symm
  | .object members, key, fault, ordered, refused => by
      have stopped : toEntries members = .error fault := by
        simp only [toStored] at refused
        split at refused
        · cases refused
        · rename_i other stopped
          rwa [Except.error.inj refused] at stopped
      obtain ⟨front, holder, first, named⟩ :=
        refused_toEntries members fault ordered.1 ordered.2 stopped
      exact ⟨front ++ [holder], key :: front, holder, first, rfl, named⟩

theorem refused_toEntries : (members : List (String × Json)) → (fault : Fault) →
    Keyed.Ascending members → OrderedMembers members → toEntries members = .error fault →
      ∃ front holder, (Json.object members).FirstMixed (front ++ [holder]) ∧
        fault = mixedUnder holder
  | [], _, _, _, refused => by cases refused
  | (key, document) :: rest, fault, ascending, ordered, refused => by
      cases first : document.toStored key with
      | error other =>
          simp only [toEntries, first] at refused
          cases refused
          obtain ⟨path, front, holder, found, ending, named⟩ :=
            refused_toStored document key fault ordered.1 first
          exact ⟨front, holder, ending ▸ FirstMixed.head ascending found, named⟩
      | ok stored =>
          cases others : toEntries rest with
          | ok later =>
              simp only [toEntries, first, others] at refused
              cases refused
          | error other =>
              simp only [toEntries, first, others] at refused
              cases refused
              obtain ⟨front, holder, found, named⟩ := refused_toEntries rest fault
                (List.pairwise_cons.1 ascending).2 ordered.2 others
              have listed := listsStrings_of_toStored document key stored first
              exact ⟨front, holder, FirstMixed.tail ascending listed found, named⟩

end

/-! Doubles. -/

theorem finiteEntries_iff {entries : List (String × Value)} :
    Value.finiteEntries entries = true ↔ ∀ entry ∈ entries, entry.2.finite = true := by
  induction entries with
  | nil => simp [Value.finiteEntries]
  | cons entry rest inductionHypothesis =>
      obtain ⟨key, value⟩ := entry
      simp [Value.finiteEntries, inductionHypothesis]

theorem finiteEntries_ofList {entries : List (String × Stored)}
    (finite : ∀ entry ∈ entries, entry.2.1.finite = true) :
    Value.finiteEntries (Bundle.ofList entries).entries = true := by
  rw [Bundle.entries_ofList]
  refine finiteEntries_iff.2 fun entry member => ?_
  obtain ⟨stored, listed, rfl⟩ := List.mem_map.1 (Keyed.mem_of_mem_ofList member)
  exact finite stored listed

theorem finite_storedInteger {number : Int} (representable : (Json.integer number).Representable) :
    (storedInteger number).1.finite = true := by
  unfold storedInteger
  split
  · rfl
  · split
    · rfl
    · exact Binary64.isFinite_ofInt (natAbs_lt_of_representable representable)

mutual

/-- Everything that is stored for the numbers of a document is finite. -/
theorem finite_toStored : (document : Json) → (key : String) → (stored : Stored) →
    document.Throughout Representable → document.toStored key = .ok stored →
      stored.1.finite = true
  | .null, _, _, _, converted => by cases converted; rfl
  | .bool _, _, _, _, converted => by cases converted; rfl
  | .integer _, _, _, representable, converted => by
      cases converted
      exact finite_storedInteger representable
  | .double _, _, _, representable, converted => by
      cases converted
      exact representable
  | .string _, _, _, _, converted => by cases converted; rfl
  | .array _, _, _, _, converted => by
      obtain ⟨texts, _, rfl⟩ := toStored_array.1 converted
      rfl
  | .object members, _, _, representable, converted => by
      obtain ⟨entries, listed, rfl⟩ := toStored_object.1 converted
      exact finiteEntries_ofList (finite_toEntries members entries representable.2 listed)

theorem finite_toEntries : (members : List (String × Json)) → (entries : List (String × Stored)) →
    ThroughoutMembers Representable members → toEntries members = .ok entries →
      ∀ entry ∈ entries, entry.2.1.finite = true
  | [], _, _, converted => by
      cases converted
      exact fun _ listed => nomatch listed
  | (key, document) :: rest, _, representable, converted => by
      obtain ⟨stored, later, first, others, rfl⟩ := toEntries_cons.1 converted
      exact List.forall_mem_cons.2 ⟨finite_toStored document key stored representable.1 first,
        finite_toEntries rest later representable.2 others⟩

end

end Json

namespace Bundle

theorem ofJson_object (members : List (String × Json)) :
    Bundle.ofJson (.object members) = (Json.toEntries members).map Bundle.ofList := rfl

/-- Every refusal is one of the configuration, and that of an object is the refusal of
the first array in it that is not strings. -/
theorem ofJson_refused {document : Json} {fault : Fault} (ordered : document.Ordered)
    (refused : Bundle.ofJson document = .error fault) :
    (∃ message, fault = .config message) ∧
      ∀ members, document = .object members → ∃ front holder,
        document.FirstMixed (front ++ [holder]) ∧ fault = Json.mixedUnder holder := by
  cases document with
  | object members =>
      have stopped : Json.toEntries members = .error fault := by
        rw [ofJson_object] at refused
        cases converted : Json.toEntries members with
        | ok entries => simp [converted, Except.map] at refused
        | error other =>
            rw [converted] at refused
            exact congrArg Except.error (Except.error.inj refused)
      obtain ⟨front, holder, first, named⟩ :=
        Json.refused_toEntries members fault ordered.1 ordered.2 stopped
      exact ⟨⟨_, named⟩, fun _ _ => ⟨front, holder, first, named⟩⟩
  | _ =>
      cases refused
      exact ⟨⟨_, rfl⟩, fun _ same => nomatch same⟩

theorem ofJson_accepted {document : Json} :
    (∃ bundle, Bundle.ofJson document = .ok bundle) ↔
      (∃ members, document = .object members) ∧ document.Throughout Json.ListsStrings := by
  constructor
  · rintro ⟨bundle, accepted⟩
    obtain ⟨members, entries, rfl, converted, _⟩ := ofJson_eq_ok.1 accepted
    exact ⟨⟨members, rfl⟩, trivial, Json.listsStrings_of_toEntries members entries converted⟩
  · rintro ⟨⟨members, rfl⟩, listed⟩
    obtain ⟨entries, converted⟩ := Json.toEntries_total members listed.2
    exact ⟨_, ofJson_eq_ok.2 ⟨members, entries, rfl, converted, rfl⟩⟩

theorem finite_ofJson {document : Json} {bundle : Bundle}
    (representable : document.Throughout Json.Representable)
    (accepted : Bundle.ofJson document = .ok bundle) :
    Value.finiteEntries bundle.entries = true := by
  obtain ⟨members, entries, rfl, converted, rfl⟩ := ofJson_eq_ok.1 accepted
  exact Json.finiteEntries_ofList
    (Json.finite_toEntries members entries representable.2 converted)

end Bundle

/-- A text that is JSON is refused for what it describes, and the message says so. -/
theorem Report.parseResult_refused {text : String} {written : Json} {refusal : Report.Refusal}
    (parsed : Json.parse text = .ok written)
    (refused : Report.parseResult (some text) = .error refusal) :
    ∃ message, Bundle.ofJson written.canonical = .error (.config message) ∧
      refusal.message = "--json: " ++ message := by
  cases converted : Bundle.ofJson written.canonical with
  | ok bundle => simp [Report.parseResult, Bundle.parse, parsed, converted] at refused
  | error fault =>
      obtain ⟨⟨message, rfl⟩, _⟩ := Bundle.ofJson_refused (Json.ordered_canonical written) converted
      simp only [Report.parseResult, Bundle.parse, parsed, converted, Except.error.injEq] at refused
      exact ⟨message, rfl, refused ▸ rfl⟩

namespace Bundle

/-- The objects without mixed arrays are the documents that become bundles, and none of
the doubles in such a bundle is infinite or a NaN.  A refusal is one of the
configuration; that of an object names the key of its first mixed array.  So a text that
is JSON is only ever refused for what it describes. -/
theorem ofJson_accepts {document : Json} (ordered : document.Ordered)
    (representable : document.Throughout Json.Representable) :
    ((∃ bundle, Bundle.ofJson document = .ok bundle) ↔
      (∃ members, document = .object members) ∧ document.Throughout Json.ListsStrings) ∧
    (∀ fault, Bundle.ofJson document = .error fault →
      (∃ message, fault = .config message) ∧
      ∀ members, document = .object members → ∃ front holder,
        document.FirstMixed (front ++ [holder]) ∧
        fault = .config ("array under '" ++ holder ++ "' must contain only strings")) ∧
    (∀ bundle, Bundle.ofJson document = .ok bundle →
      Value.finiteEntries bundle.entries = true) ∧
    ∀ text written refusal, Json.parse text = .ok written →
      Report.parseResult (some text) = .error refusal →
      ∃ message, Bundle.ofJson written.canonical = .error (.config message) ∧
        refusal.message = "--json: " ++ message :=
  ⟨ofJson_accepted, fun _ => ofJson_refused ordered, fun _ => finite_ofJson representable,
    fun _ _ _ => Report.parseResult_refused⟩

/-- Two mixed arrays: one under the first key, in an object and behind an array of
strings, and one under the last key. -/
def mixedSample : Json :=
  .object [("a", .object [("x", .array [.string "s"]), ("z", .array [.string "s", .integer 1])]),
    ("b", .array [.null])]

theorem ofJson_accepts_mixed :
    mixedSample.Ordered ∧ mixedSample.Throughout Json.Representable ∧
      Bundle.ofJson mixedSample =
        .error (.config "array under 'z' must contain only strings") ∧
      ∃ front holder, mixedSample.FirstMixed (front ++ [holder]) ∧
        Fault.config "array under 'z' must contain only strings" =
          .config ("array under '" ++ holder ++ "' must contain only strings") := by
  have ordered : mixedSample.Ordered :=
    ⟨by decide, ⟨by decide, ⟨trivial, trivial⟩, ⟨trivial, trivial, trivial⟩, trivial⟩,
      ⟨trivial, trivial⟩, trivial⟩
  have representable : mixedSample.Throughout Json.Representable :=
    ⟨trivial, ⟨trivial, ⟨trivial, trivial, trivial⟩,
      ⟨trivial, trivial, ⟨by decide, by decide⟩, trivial⟩, trivial⟩,
      ⟨trivial, trivial, trivial⟩, trivial⟩
  have refused : Bundle.ofJson mixedSample =
      .error (.config "array under 'z' must contain only strings") := rfl
  exact ⟨ordered, representable, refused,
    ((ofJson_accepts ordered representable).2.1 _ refused).2 _ rfl⟩

end Bundle

end Courier
