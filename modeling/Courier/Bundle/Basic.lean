import Courier.Keyed
import Courier.Number.Binary64

namespace Courier

/-! Bundles: typed values under string keys.

`Value` is the tree of a value, and `Value.Ordered` says that every bundle in it
lists its keys in ascending order.  A `Bundle` is a list of entries together
with that property, so bundles with the same values under the same keys are
equal. -/

inductive Value where
  | null
  | bool (value : Bool)
  | int (value : Int32)
  | long (value : Int64)
  | double (value : Binary64)
  | string (value : String)
  | strings (items : List String)
  | bytes (value : List UInt8)
  | bundle (entries : List (String × Value))

namespace Value

mutual

/-- Every bundle in the value lists its keys in strictly ascending order. -/
def Ordered : Value → Prop
  | .bundle entries => Keyed.Ascending entries ∧ OrderedEntries entries
  | .null | .bool _ | .int _ | .long _ | .double _ | .string _ | .strings _ | .bytes _ => True

def OrderedEntries : List (String × Value) → Prop
  | [] => True
  | (_, value) :: rest => value.Ordered ∧ OrderedEntries rest

end

theorem orderedEntries_iff {entries : List (String × Value)} :
    OrderedEntries entries ↔ ∀ entry ∈ entries, entry.2.Ordered := by
  induction entries with
  | nil => simp [OrderedEntries]
  | cons entry rest inductionHypothesis =>
      obtain ⟨key, value⟩ := entry
      simp [OrderedEntries, inductionHypothesis]

mutual

/-- Numeric equality: doubles compare as numbers, everything else by value. -/
def same : Value → Value → Bool
  | .null, .null => true
  | .bool left, .bool right => left == right
  | .int left, .int right => left == right
  | .long left, .long right => left == right
  | .double left, .double right => left.equals right
  | .string left, .string right => left == right
  | .strings left, .strings right => left == right
  | .bytes left, .bytes right => left == right
  | .bundle left, .bundle right => sameEntries left right
  | _, _ => false

def sameEntries : List (String × Value) → List (String × Value) → Bool
  | [], [] => true
  | (leftKey, left) :: leftRest, (rightKey, right) :: rightRest =>
      leftKey == rightKey && left.same right && sameEntries leftRest rightRest
  | _, _ => false

end

mutual

/-- How many bundles nest in the value, itself included. -/
def levels : Value → Nat
  | .bundle entries => levelsOfEntries entries + 1
  | .null | .bool _ | .int _ | .long _ | .double _ | .string _ | .strings _ | .bytes _ => 0

def levelsOfEntries : List (String × Value) → Nat
  | [] => 0
  | (_, value) :: rest => max value.levels (levelsOfEntries rest)

end

end Value

abbrev Stored := { value : Value // value.Ordered }

/-- Typed values under string keys, in ascending order of the keys. -/
structure Bundle where
  entries : List (String × Value)
  ordered : (Value.bundle entries).Ordered

namespace Bundle

theorem ext {left right : Bundle} (same : left.entries = right.entries) : left = right := by
  cases left
  cases right
  cases same
  rfl

def empty : Bundle where
  entries := []
  ordered := ⟨Keyed.ascending_nil, trivial⟩

instance : Inhabited Bundle := ⟨empty⟩

def toStored (bundle : Bundle) : Stored :=
  ⟨.bundle bundle.entries, bundle.ordered⟩

private theorem ordered_of_mem {bundle : Bundle} {entry : String × Value}
    (member : entry ∈ bundle.entries) : entry.2.Ordered :=
  Value.orderedEntries_iff.1 bundle.ordered.2 entry member

/-- Stores a value under a key, in place of the one stored there before. -/
def insert (bundle : Bundle) (key : String) (value : Stored) : Bundle where
  entries := Keyed.insert key value.1 bundle.entries
  ordered := by
    refine ⟨Keyed.ascending_insert bundle.ordered.1 key value.1, ?_⟩
    refine Value.orderedEntries_iff.2 fun entry member => ?_
    rcases Keyed.mem_of_mem_insert member with same | stored
    · exact same ▸ value.2
    · exact ordered_of_mem stored

/-- Stores a value under a key unless something is stored there. -/
def insertNew (bundle : Bundle) (key : String) (value : Stored) : Bundle where
  entries := Keyed.insertNew key value.1 bundle.entries
  ordered := by
    refine ⟨Keyed.ascending_insertNew bundle.ordered.1 key value.1, ?_⟩
    refine Value.orderedEntries_iff.2 fun entry member => ?_
    rcases Keyed.mem_of_mem_insertNew member with same | stored
    · exact same ▸ value.2
    · exact ordered_of_mem stored

def erase (bundle : Bundle) (key : String) : Bundle where
  entries := Keyed.erase key bundle.entries
  ordered := by
    refine ⟨Keyed.ascending_erase bundle.ordered.1 key, ?_⟩
    refine Value.orderedEntries_iff.2 fun entry member => ?_
    exact ordered_of_mem (List.mem_filter.1 member).1

/-- The bundle of a list of entries, the last one of each key. -/
def ofList (entries : List (String × Stored)) : Bundle :=
  entries.foldr (fun entry bundle => bundle.insertNew entry.1 entry.2) empty

def find? (bundle : Bundle) (key : String) : Option Value :=
  Keyed.find? key bundle.entries

def contains (bundle : Bundle) (key : String) : Bool :=
  (bundle.find? key).isSome

def size (bundle : Bundle) : Nat :=
  bundle.entries.length

def isEmpty (bundle : Bundle) : Bool :=
  bundle.entries.isEmpty

def string? (bundle : Bundle) (key : String) : Option String :=
  match bundle.find? key with
  | some (.string text) => some text
  | _ => none

def int? (bundle : Bundle) (key : String) : Option Int32 :=
  match bundle.find? key with
  | some (.int value) => some value
  | _ => none

def long? (bundle : Bundle) (key : String) : Option Int64 :=
  match bundle.find? key with
  | some (.long value) => some value
  | some (.int value) => some value.toInt64
  | _ => none

def bool? (bundle : Bundle) (key : String) : Option Bool :=
  match bundle.find? key with
  | some (.bool value) => some value
  | _ => none

private theorem mem_of_find? {key : String} {value : Value}
    {entries : List (String × Value)} (found : Keyed.find? key entries = some value) :
    ∃ entry ∈ entries, entry.2 = value := by
  unfold Keyed.find? at found
  obtain ⟨entry, located, same⟩ := Option.map_eq_some_iff.1 found
  exact ⟨entry, List.mem_of_find?_eq_some located, same⟩

theorem ordered_of_find? {bundle : Bundle} {key : String} {value : Value}
    (found : bundle.find? key = some value) : value.Ordered := by
  obtain ⟨entry, member, same⟩ := mem_of_find? found
  exact same ▸ ordered_of_mem member

def bundle? (bundle : Bundle) (key : String) : Option Bundle :=
  match found : bundle.find? key with
  | some (.bundle entries) => some ⟨entries, ordered_of_find? found⟩
  | _ => none

/-- Numeric equality: doubles compare as numbers, everything else by value. -/
def same (left right : Bundle) : Bool :=
  Value.sameEntries left.entries right.entries

/-- How many bundles nest below this one on the deepest path. -/
def depth (bundle : Bundle) : Nat :=
  Value.levelsOfEntries bundle.entries

end Bundle

end Courier
