import Courier.Keyed
import Courier.Number.Binary64

namespace Courier

/-! JSON documents.

An object keeps its members as they were written, repeated keys included.
`canonical` is the document's meaning: members in key order, the last of each
key. -/

/-- A JSON document.  A number is an integer or a finite double. -/
inductive Json where
  | null
  | bool (value : Bool)
  | integer (value : Int)
  | double (value : Binary64)
  | string (value : String)
  | array (items : List Json)
  | object (members : List (String × Json))

namespace Json

/-! Integers of a fixed width. -/

def isInt32 (value : Int) : Bool :=
  Int32.minValue.toInt ≤ value && value ≤ Int32.maxValue.toInt

def isInt64 (value : Int) : Bool :=
  Int64.minValue.toInt ≤ value && value ≤ Int64.maxValue.toInt

mutual

def canonical : Json → Json
  | .array items => .array (canonicalItems items)
  | .object members => .object (Keyed.ofList (canonicalMembers members))
  | .null => .null
  | .bool value => .bool value
  | .integer value => .integer value
  | .double value => .double value
  | .string value => .string value

def canonicalItems : List Json → List Json
  | [] => []
  | item :: rest => item.canonical :: canonicalItems rest

def canonicalMembers : List (String × Json) → List (String × Json)
  | [] => []
  | (key, value) :: rest => (key, value.canonical) :: canonicalMembers rest

end

mutual

/-- Every object lists its members in strictly ascending key order. -/
def Ordered : Json → Prop
  | .array items => OrderedItems items
  | .object members => Keyed.Ascending members ∧ OrderedMembers members
  | .null | .bool _ | .integer _ | .double _ | .string _ => True

def OrderedItems : List Json → Prop
  | [] => True
  | item :: rest => item.Ordered ∧ OrderedItems rest

def OrderedMembers : List (String × Json) → Prop
  | [] => True
  | (_, value) :: rest => value.Ordered ∧ OrderedMembers rest

end

end Json

end Courier
