import Courier.Bundle.Change
import Courier.Proofs.Bundle.Locality

namespace Courier

/-! Bundles and the changes that made them.

What stands under a key is what the last change under it left there.  The bytes of a
bundle tell which values stand under which keys, at every level, and nothing more of
its history. -/

namespace Value

/-! Values as they are seen from outside, one level at a time. -/

/-- What stands behind a path of keys. -/
def at? : Value → List String → Option Value
  | value, [] => some value
  | .bundle entries, key :: path => (Keyed.find? key entries).bind fun value => value.at? path
  | _, _ :: _ => none

/-- The value itself, or of a bundle no more than that it is one. -/
def surface : Value → Value
  | .bundle _ => .bundle []
  | value => value

/-- The value behind a path, without what stands further down. -/
def seen (value : Value) (path : List String) : Option Value :=
  (value.at? path).map surface

variable {entries others : List (String × Value)}

theorem seen_nil (value : Value) : value.seen [] = some value.surface := by
  cases value <;> rfl

theorem seen_bundle (entries : List (String × Value)) (key : String) (path : List String) :
    (Value.bundle entries).seen (key :: path) =
      (Keyed.find? key entries).bind fun value => value.seen path := by
  simp only [seen, at?]
  cases Keyed.find? key entries <;> rfl

/-- What stands under a key of bundles that are seen alike is seen alike. -/
theorem find?_of_seen
    (same : ∀ path, (Value.bundle entries).seen path = (Value.bundle others).seen path) (key : String) :
    (Keyed.find? key entries = none ∧ Keyed.find? key others = none) ∨
      ∃ value other, Keyed.find? key entries = some value ∧ Keyed.find? key others = some other ∧
        ∀ path, value.seen path = other.seen path := by
  have behind : ∀ path, ((Keyed.find? key entries).bind fun value => value.seen path) =
      (Keyed.find? key others).bind fun value => value.seen path := by
    intro path
    rw [← seen_bundle, ← seen_bundle, same]
  cases first : Keyed.find? key entries with
  | none =>
      cases second : Keyed.find? key others with
      | none => exact .inl ⟨rfl, rfl⟩
      | some other => simpa [first, second, seen_nil] using behind []
  | some value =>
      cases second : Keyed.find? key others with
      | none => simpa [first, second, seen_nil] using behind []
      | some other =>
          simp only [first, second, Option.bind_some] at behind
          exact .inr ⟨value, other, rfl, rfl, behind⟩

mutual

/-- Values that are seen alike along every path are equal. -/
theorem eq_of_seen : (left right : Value) → left.Ordered → right.Ordered →
    (∀ path, left.seen path = right.seen path) → left = right
  | .bundle entries, right, leftOrdered, rightOrdered, same => by
      have whole := same []
      rw [seen_nil, seen_nil] at whole
      cases right with
      | bundle others =>
          refine congrArg Value.bundle (Keyed.eq_of_find? leftOrdered.1 rightOrdered.1 fun key => ?_)
          obtain ⟨absent, alsoAbsent⟩ | ⟨value, other, found, located, inside⟩ :=
            find?_of_seen same key
          · rw [absent, alsoAbsent]
          · have otherOrdered := orderedEntries_iff.1 rightOrdered.2 _ (Keyed.mem_of_find? located)
            rw [found, located, eq_of_seen_entries entries leftOrdered.2
              (Keyed.mem_of_find? found) otherOrdered inside]
      | _ => cases whole
  | .null, right, _, _, same | .bool _, right, _, _, same | .int _, right, _, _, same
  | .long _, right, _, _, same | .double _, right, _, _, same | .string _, right, _, _, same
  | .strings _, right, _, _, same | .bytes _, right, _, _, same => by
      have whole := same []
      rw [seen_nil, seen_nil] at whole
      cases right with
      | bundle others => cases whole
      | _ => exact Option.some.inj whole

theorem eq_of_seen_entries : (entries : List (String × Value)) → OrderedEntries entries →
    ∀ {key : String} {value other : Value}, (key, value) ∈ entries → other.Ordered →
      (∀ path, value.seen path = other.seen path) → value = other
  | [], _, _, _, _, member, _, _ => nomatch member
  | (_, first) :: rest, ordered, key, value, other, member, otherOrdered, same => by
      rcases List.mem_cons.1 member with here | later
      · cases here
        exact eq_of_seen first other ordered.1 otherOrdered same
      · exact eq_of_seen_entries rest ordered.2 later otherOrdered same

end

end Value

namespace Bundle

variable {bundle : Bundle} {before after changes : List Change} {change : Change} {key : String}

namespace Change

/-- The last of the changes under a key. -/
def last? (changes : List Change) (key : String) : Option Change :=
  changes.reverse.find? fun change => change.key == key

theorem last?_cons (change : Change) (changes : List Change) (key : String) :
    last? (change :: changes) key =
      (last? changes key).or (if change.key = key then some change else none) := by
  simp only [last?, List.reverse_cons, List.find?_append, List.find?_singleton, beq_iff_eq]

theorem last?_eq_some_iff : last? changes key = some change ↔
    ∃ before after, changes = before ++ change :: after ∧ change.key = key ∧
      ∀ later ∈ after, later.key ≠ key := by
  constructor
  · intro found
    obtain ⟨under, after, before, reversed, others⟩ := List.find?_eq_some_iff_append.1 found
    refine ⟨before.reverse, after.reverse, ?_, by simpa using under, ?_⟩
    · rw [← List.reverse_inj, reversed]
      simp
    · simpa using others
  · rintro ⟨before, after, rfl, under, others⟩
    refine List.find?_eq_some_iff_append.2 ⟨by simpa using under, after.reverse, before.reverse, ?_, ?_⟩
    · simp
    · simpa using others

end Change

/-! What one change does. -/

theorem find?_change (bundle : Bundle) (change : Change) (key : String) :
    (bundle.change change).2.find? key =
      if change.key = key then change.stored?.map Subtype.val else bundle.find? key := by
  cases change with
  | insert changed value => exact Keyed.find?_insert changed key value.1 bundle.entries
  | put changed value => exact Keyed.find?_insert changed key value.1 bundle.entries
  | remove changed => exact Keyed.find?_erase changed key bundle.entries

theorem answer_change (answers : change.answers) :
    (bundle.change change).1 = bundle.find? change.key := by
  cases change with
  | put => cases answers
  | _ => rfl

/-! What a run of changes does. -/

theorem changeAll_append (bundle : Bundle) (before after : List Change) :
    bundle.changeAll (before ++ after) =
      ((bundle.changeAll before).1 ++ ((bundle.changeAll before).2.changeAll after).1,
        ((bundle.changeAll before).2.changeAll after).2) := by
  induction before generalizing bundle with
  | nil => rfl
  | cons change rest inductionHypothesis =>
      simp only [List.cons_append, changeAll, inductionHypothesis]

theorem length_answers (bundle : Bundle) (changes : List Change) :
    (bundle.changeAll changes).1.length = changes.length := by
  induction changes generalizing bundle with
  | nil => rfl
  | cons change rest inductionHypothesis =>
      simp only [changeAll, List.length_cons, inductionHypothesis]

/-- After the changes there stands under a key what the last of them left there. -/
theorem find?_changeAll (bundle : Bundle) (changes : List Change) (key : String) :
    (bundle.changeAll changes).2.find? key =
      match Change.last? changes key with
      | some change => change.stored?.map Subtype.val
      | none => bundle.find? key := by
  induction changes generalizing bundle with
  | nil => rfl
  | cons change rest inductionHypothesis =>
      rw [Change.last?_cons, changeAll, inductionHypothesis, find?_change]
      cases Change.last? rest key with
      | some later => rfl
      | none => simp only [Option.none_or]; split <;> rfl

/-- The bundle that changes make of the empty one. -/
def built (changes : List Change) : Bundle :=
  (empty.changeAll changes).2

theorem find?_built {value : Value} : (built changes).find? key = some value ↔
    ∃ before change after, changes = before ++ change :: after ∧ change.key = key ∧
      change.stored?.map Subtype.val = some value ∧ ∀ later ∈ after, later.key ≠ key := by
  rw [built, find?_changeAll]
  constructor
  · intro stands
    cases found : Change.last? changes key with
    | none =>
        rw [found] at stands
        cases stands
    | some change =>
        rw [found] at stands
        obtain ⟨before, after, rfl, under, others⟩ := Change.last?_eq_some_iff.1 found
        exact ⟨before, change, after, rfl, under, stands, others⟩
  · rintro ⟨before, change, after, rfl, under, stands, others⟩
    rw [Change.last?_eq_some_iff.2 ⟨before, after, rfl, under, others⟩]
    exact stands

/-- A change that answers tells what stood under its key before it. -/
theorem answer_changeAll (before after : List Change) (answers : change.answers) :
    (empty.changeAll (before ++ change :: after)).1[before.length]? =
      some ((built before).find? change.key) := by
  rw [changeAll_append, List.getElem?_append_right (length_answers empty before).le,
    length_answers, Nat.sub_self]
  exact congrArg some (answer_change answers)

/-! What the bytes tell. -/

theorem eq_iff_find? {left right : Bundle} :
    left = right ↔ ∀ key, left.find? key = right.find? key := by
  constructor
  · rintro rfl key
    rfl
  · intro same
    exact Bundle.ext (Keyed.eq_of_find? left.ordered.1 right.ordered.1 same)

theorem eq_iff_seen {left right : Bundle} :
    left = right ↔
      ∀ path, left.toStored.1.seen path = right.toStored.1.seen path := by
  constructor
  · rintro rfl path
    rfl
  · intro same
    exact Bundle.ext (Value.bundle.inj (Value.eq_of_seen _ _ left.ordered right.ordered same))

/-- The bundle is written to its end, in fewer than `2 ^ 31` bytes. -/
structure Complete (bundle : Bundle) : Prop where
  finished : bundle.write.fault = none
  bounded : bundle.write.bytes.length < 2 ^ 31

theorem Complete.canonical (complete : bundle.Complete) :
    CanonicalBundle 0 bundle.write.bytes bundle :=
  canonicalBundle_write (depth_le_of_finished complete.finished) complete.bounded

/-- Different bundles have different bytes, since the bytes are read back. -/
theorem write_inj {left right : Bundle} (leftComplete : left.Complete)
    (rightComplete : right.Complete) : left.write.bytes = right.write.bytes ↔ left = right := by
  constructor
  · intro same
    have taken := takes_write (depth_le_of_finished leftComplete.finished) leftComplete.bounded
    have other := takes_write (depth_le_of_finished rightComplete.finished) rightComplete.bounded
    rw [← same, ← List.append_nil left.write.bytes] at other
    exact (taken.prefix_free other).2
  · rintro rfl
    rfl

/-- However two bundles came about, their bytes are the same if and only if the same
values stand under the same keys in both, and in the bundles nested in them.  The bytes
list the keys in ascending order at every level.  Under a key stands what the last
change under it stored, and every change that answers tells what stood there before. -/
theorem histories_encode :
    (∀ left right : List Change, (built left).Complete → (built right).Complete →
      ((built left).write.bytes = (built right).write.bytes ↔
        ∀ key, (built left).find? key = (built right).find? key) ∧
      ((built left).write.bytes = (built right).write.bytes ↔
        ∀ path, (built left).toStored.1.seen path = (built right).toStored.1.seen path)) ∧
    (∀ changes : List Change, (built changes).Complete →
      CanonicalBundle 0 (built changes).write.bytes (built changes)) ∧
    (∀ (changes : List Change) (key : String) (value : Value),
      (built changes).find? key = some value ↔
        ∃ before change after, changes = before ++ change :: after ∧ change.key = key ∧
          change.stored?.map Subtype.val = some value ∧ ∀ later ∈ after, later.key ≠ key) ∧
    ∀ (before : List Change) (change : Change) (after : List Change), change.answers →
      (empty.changeAll (before ++ change :: after)).1[before.length]? =
        some ((built before).find? change.key) := by
  refine ⟨fun left right leftComplete rightComplete => ?_, fun _ => Complete.canonical,
    fun _ _ _ => find?_built, fun before _ after => answer_changeAll before after⟩
  rw [write_inj leftComplete rightComplete]
  exact ⟨eq_iff_find?, eq_iff_seen⟩

/-- Two keys whose order by UTF-8 bytes is not their order by UTF-16 units. -/
def roundabout : List Change :=
  [.insert "ｚ" ⟨.null, trivial⟩, .insert "😀" ⟨.double ⟨0x7FF8000000000001⟩, trivial⟩,
    .put "x" ⟨.bytes [1], trivial⟩, .insert "ｚ" (built [.put "é" ⟨.int 1, trivial⟩]).toStored,
    .remove "x"]

def direct : List Change :=
  [.put "ｚ" (built [.put "b" ⟨.null, trivial⟩, .insert "é" ⟨.int 1, trivial⟩,
      .remove "b"]).toStored,
    .put "😀" ⟨.double ⟨0x7FF8000000000001⟩, trivial⟩]

theorem histories_encode_roundabout :
    (built roundabout).Complete ∧ (built direct).Complete ∧
      (built roundabout).write.bytes = (built direct).write.bytes ∧
      CanonicalBundle 0 (built roundabout).write.bytes (built roundabout) ∧
      (built roundabout).find? "ｚ" = some (.bundle [("é", .int 1)]) ∧
      (empty.changeAll roundabout).1[3]? = some (some .null) ∧
      (empty.changeAll roundabout).1[4]? = some (some (.bytes [1])) := by
  have complete : (built roundabout).Complete := ⟨rfl, by decide +kernel⟩
  have directComplete : (built direct).Complete := ⟨rfl, by decide +kernel⟩
  obtain ⟨alike, canonical, stands, answered⟩ := histories_encode
  refine ⟨complete, directComplete, ?_, canonical roundabout complete, ?_, ?_, ?_⟩
  · exact (alike _ _ complete directComplete).1.2 fun _ => rfl
  · exact (stands _ _ _).2 ⟨roundabout.take 3, _, [.remove "x"], rfl, rfl, rfl, by decide⟩
  · exact answered (roundabout.take 3) (.insert "ｚ" _) [.remove "x"] rfl
  · exact answered (roundabout.take 4) (.remove "x") [] rfl

end Bundle

end Courier
