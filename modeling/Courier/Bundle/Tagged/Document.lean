import Courier.Bundle.Tagged.Basic

namespace Courier.Tagged

/-! Labelled values that are at hand as documents.

A content that stands in front of its kind is kept as a document until the kind
is known.  The fields of an object may stand in any order, other fields are
passed over, a repeated field is refused, and an array of the kind and the
content is taken like the object. -/

def bytes? : List Json → Option (List UInt8)
  | [] => some []
  | .integer value :: rest =>
      if 0 ≤ value && value < 256 then (bytes? rest).map (UInt8.ofNat value.toNat :: ·) else none
  | _ :: _ => none

/-- The content of a value: as a document, and as a bundle if it is one. -/
structure Content where
  document : Json
  bundle : Option Bundle

def Kind.value? : Kind → Content → Option Stored
  | .null, ⟨.null, _⟩ => some ⟨.null, trivial⟩
  | .bool, ⟨.bool value, _⟩ => some ⟨.bool value, trivial⟩
  | .int, ⟨.integer value, _⟩ =>
      if Json.isInt32 value then some ⟨.int (Int32.ofInt value), trivial⟩ else none
  | .long, ⟨.integer value, _⟩ =>
      if Json.isInt64 value then some ⟨.long (Int64.ofInt value), trivial⟩ else none
  | .double, ⟨.integer value, _⟩ => some ⟨.double (.ofInt value), trivial⟩
  | .double, ⟨.double value, _⟩ => some ⟨.double value, trivial⟩
  | .string, ⟨.string value, _⟩ => some ⟨.string value, trivial⟩
  | .strings, ⟨.array items, _⟩ =>
      (Json.strings? items).map fun texts => ⟨.strings texts, trivial⟩
  | .bytes, ⟨.array items, _⟩ => (bytes? items).map fun value => ⟨.bytes value, trivial⟩
  | .bundle, ⟨_, some nested⟩ => some nested.toStored
  | _, _ => none

/-- The kind in a field of an object: a name, alone or over an empty value. -/
def kindInField? : Json → Option Kind
  | .string name => Kind.ofName? name
  | .object [(name, .null)] => Kind.ofName? name
  | .object [(name, .object [])] => Kind.ofName? name
  | _ => none

/-- The kind in front of an array: a name or a number. -/
def kindInFront? : Json → Option Kind
  | .string name => Kind.ofName? name
  | .integer number => Kind.ofNumber? number
  | _ => none

/-- The value of the fields of an object.  Each of the two fields may stand
there once; the content of the null value may be missing. -/
def ofFields? (fields : List (String × Content)) : Option Stored :=
  match fields.filter fun field => field.1 == "type",
      fields.filter fun field => field.1 == "value" with
  | [(_, kind)], [] =>
      (kindInField? kind.document).bind fun kind => kind.value? ⟨.null, none⟩
  | [(_, kind)], [(_, content)] =>
      (kindInField? kind.document).bind fun kind => kind.value? content
  | _, _ => none

def ofItems? : List Content → Option Stored
  | [kind, content] => (kindInFront? kind.document).bind fun kind => kind.value? content
  | _ => none

mutual

def bundle? : Json → Option Bundle
  | .object members => (entries? members).map Bundle.ofList
  | _ => none

def entries? : List (String × Json) → Option (List (String × Stored))
  | [] => some []
  | (key, document) :: rest =>
      match value? document, entries? rest with
      | some value, some entries => some ((key, value) :: entries)
      | _, _ => none

def value? : Json → Option Stored
  | .object members => ofFields? (fields members)
  | .array items => ofItems? (contents items)
  | _ => none

def fields : List (String × Json) → List (String × Content)
  | [] => []
  | (key, document) :: rest => (key, ⟨document, bundle? document⟩) :: fields rest

def contents : List Json → List Content
  | [] => []
  | document :: rest => ⟨document, bundle? document⟩ :: contents rest

end

end Courier.Tagged
