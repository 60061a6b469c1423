import Courier.Bundle.Basic
import Courier.Fault
import Courier.Json.Printer
import Courier.Json.Reader

namespace Courier

/-! Bundles as plain JSON.

Both kinds of integers become JSON integers, a byte array becomes an array of
its numbers, and a double that is not finite becomes null.  The other way, an
integer is an int if it fits one, else a long if it fits one, else a double; an
array has to hold strings only. -/

mutual

def Value.toJson : Value → Json
  | .null => .null
  | .bool value => .bool value
  | .int value => .integer value.toInt
  | .long value => .integer value.toInt
  | .double value => if value.isFinite then .double value else .null
  | .string value => .string value
  | .strings items => .array (items.map Json.string)
  | .bytes value => .array (value.map fun byte => Json.integer byte.toNat)
  | .bundle entries => .object (Value.membersToJson entries)

def Value.membersToJson : List (String × Value) → List (String × Json)
  | [] => []
  | (key, value) :: rest => (key, value.toJson) :: Value.membersToJson rest

end

def Bundle.toJson (bundle : Bundle) : Json :=
  .object (Value.membersToJson bundle.entries)

/-- The text of an optional bundle, null when it is absent. -/
def Bundle.jsonText (bundle : Option Bundle) : String :=
  (bundle.elim Json.null Bundle.toJson).render

namespace Json

/-- The value of an integer, by the narrowest kind that holds it. -/
def storedInteger (value : Int) : Stored :=
  if isInt32 value then ⟨.int (Int32.ofInt value), trivial⟩
  else if isInt64 value then ⟨.long (Int64.ofInt value), trivial⟩
  else ⟨.double (.ofInt value), trivial⟩

def strings? : List Json → Option (List String)
  | [] => some []
  | .string text :: rest => (strings? rest).map (text :: ·)
  | _ :: _ => none

mutual

/-- The value of a document that stands under a key. -/
def toStored (key : String) : Json → Except Fault Stored
  | .null => .ok ⟨.null, trivial⟩
  | .bool value => .ok ⟨.bool value, trivial⟩
  | .integer value => .ok (storedInteger value)
  | .double value => .ok ⟨.double value, trivial⟩
  | .string value => .ok ⟨.string value, trivial⟩
  | .array items =>
      match strings? items with
      | some texts => .ok ⟨.strings texts, trivial⟩
      | none => .error (.config ("array under '" ++ key ++ "' must contain only strings"))
  | .object members =>
      match toEntries members with
      | .ok entries => .ok (Bundle.ofList entries).toStored
      | .error fault => .error fault

def toEntries : List (String × Json) → Except Fault (List (String × Stored))
  | [] => .ok []
  | (key, document) :: rest =>
      match document.toStored key with
      | .error fault => .error fault
      | .ok value =>
          match toEntries rest with
          | .error fault => .error fault
          | .ok entries => .ok ((key, value) :: entries)

end

end Json

def Bundle.ofJson : Json → Except Fault Bundle
  | .object members => (Json.toEntries members).map Bundle.ofList
  | other => .error (.config ("bundle JSON must be an object, got " ++ other.render))

def Bundle.parse (text : String) : Except (Json.SyntaxError ⊕ Fault) Bundle :=
  match Json.parse text with
  | .error fault => .error (.inl fault)
  | .ok document =>
      match Bundle.ofJson document.canonical with
      | .error fault => .error (.inr fault)
      | .ok bundle => .ok bundle

end Courier
