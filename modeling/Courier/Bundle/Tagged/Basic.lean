import Courier.Bundle.Json

namespace Courier.Tagged

/-! Bundles as JSON that names the kind of every value.

A value is an object with its kind under `type` and its content under `value`;
the null value has no content. -/

inductive Kind where
  | null
  | bool
  | int
  | long
  | double
  | string
  | strings
  | bytes
  | bundle
deriving DecidableEq, Repr

/-- The kinds in the order of their numbers. -/
def Kind.all : List Kind :=
  [.null, .bool, .int, .long, .double, .string, .strings, .bytes, .bundle]

def Kind.name : Kind → String
  | .null => "null"
  | .bool => "bool"
  | .int => "int"
  | .long => "long"
  | .double => "double"
  | .string => "string"
  | .strings => "string_array"
  | .bytes => "byte_array"
  | .bundle => "bundle"

def Kind.ofName? (name : String) : Option Kind :=
  Kind.all.find? fun kind => kind.name == name

def Kind.ofNumber? (number : Int) : Option Kind :=
  if number < 0 then none else Kind.all[number.toNat]?

def labelled (kind : Kind) (content : Json) : Json :=
  .object [("type", .string kind.name), ("value", content)]

mutual

def ofValue : Value → Json
  | .null => .object [("type", .string Kind.null.name)]
  | .bool value => labelled .bool (.bool value)
  | .int value => labelled .int (.integer value.toInt)
  | .long value => labelled .long (.integer value.toInt)
  | .double value => labelled .double (if value.isFinite then .double value else .null)
  | .string value => labelled .string (.string value)
  | .strings items => labelled .strings (.array (items.map Json.string))
  | .bytes value => labelled .bytes (.array (value.map fun byte => Json.integer byte.toNat))
  | .bundle entries => labelled .bundle (.object (ofEntries entries))

def ofEntries : List (String × Value) → List (String × Json)
  | [] => []
  | (key, value) :: rest => (key, ofValue value) :: ofEntries rest

end

def ofBundle (bundle : Bundle) : Json :=
  .object (ofEntries bundle.entries)

def render (bundle : Bundle) : String :=
  (ofBundle bundle).render

end Courier.Tagged
