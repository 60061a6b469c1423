import Courier.Bundle.Tagged.Document
import Courier.Json.Skipping

namespace Courier.Tagged

/-! Reading the text of labelled bundles.

A value is read straight from the text when its kind is known.  A content in
front of its kind is read as a document first, and a field with another name is
skipped.  Fuel and depth count as in reading a document. -/

/-- Reads a kind: its name, or an object with nothing but the name over a null. -/
def readKind? (fuel depth : Nat) (text : List Char) : Option (Kind × List Char) :=
  match Json.skipBlanks text, depth with
  | '"' :: rest, _ => do
      let (name, rest) ← (Json.readString fuel rest).toOption
      return (← Kind.ofName? name, rest)
  | '{' :: rest, depth + 1 => do
      let (name, rest) ← (Json.readKey fuel (Json.skipBlanks rest)).toOption
      let kind ← Kind.ofName? name
      match ← (Json.readValue fuel depth rest).toOption with
      | (.null, rest) =>
          match Json.skipBlanks rest with
          | '}' :: rest => return (kind, rest)
          | _ => none
      | _ => none
  | _, _ => none

/-- What the fields of an object have settled so far. -/
inductive Progress where
  | nothing
  | kind (kind : Kind)
  | content (document : Json)
  | value (value : Stored)

/-- The value that all the fields of an object settle. -/
def Progress.value? : Progress → Option Stored
  | .kind .null => some ⟨.null, trivial⟩
  | .value stored => some stored
  | _ => none

mutual

def readBundle? : (fuel depth : Nat) → (text : List Char) → Option (Bundle × List Char)
  | fuel + 1, depth + 1, text =>
      match Json.skipBlanks text with
      | '{' :: rest =>
          match Json.skipBlanks rest with
          | '}' :: rest => some (.empty, rest)
          | rest => readEntries? fuel depth [] rest
      | _ => none
  | _, _, _ => none

/-- Reads the entries of a bundle from the next one on; `read` holds the entries
before it, the last one first. -/
def readEntries? : (fuel depth : Nat) → (read : List (String × Stored)) →
    (text : List Char) → Option (Bundle × List Char)
  | 0, _, _, _ => none
  | fuel + 1, depth, read, text => do
      let (key, rest) ← (Json.readKey fuel text).toOption
      let (value, rest) ← readValue? fuel depth rest
      match Json.skipBlanks rest with
      | '}' :: rest => some (Bundle.ofList ((key, value) :: read).reverse, rest)
      | ',' :: rest => readEntries? fuel depth ((key, value) :: read) (Json.skipBlanks rest)
      | _ => none

/-- Reads a labelled value: an object, or an array of a kind's name and a
content. -/
def readValue? : (fuel depth : Nat) → (text : List Char) → Option (Stored × List Char)
  | fuel + 1, depth + 1, text =>
      match Json.skipBlanks text with
      | '{' :: rest => readFields? fuel depth .nothing (Json.skipBlanks rest)
      | '[' :: rest => do
          match Json.skipBlanks rest with
          | '"' :: rest =>
              let (name, rest) ← (Json.readString fuel rest).toOption
              let kind ← Kind.ofName? name
              match Json.skipBlanks rest with
              | ',' :: rest =>
                  let (value, rest) ← readContent? fuel depth kind rest
                  match Json.skipBlanks rest with
                  | ']' :: rest => some (value, rest)
                  | _ => none
              | _ => none
          | _ => none
      | _ => none
  | _, _, _ => none

/-- Reads the fields of a labelled object from the next one on. -/
def readFields? : (fuel depth : Nat) → (progress : Progress) → (text : List Char) →
    Option (Stored × List Char)
  | 0, _, _, _ => none
  | fuel + 1, depth, progress, text => do
      let (name, rest) ← (Json.readKey fuel text).toOption
      let (progress, rest) ← readField? fuel depth name progress rest
      match Json.skipBlanks rest with
      | '}' :: rest => return (← progress.value?, rest)
      | ',' :: rest => readFields? fuel depth progress (Json.skipBlanks rest)
      | _ => none

/-- Reads what stands in a field of a labelled object.  The kind and the content
may come in either order, each of them once. -/
def readField? : (fuel depth : Nat) → (name : String) → (progress : Progress) →
    (text : List Char) → Option (Progress × List Char)
  | 0, _, _, _, _ => none
  | fuel + 1, depth, name, progress, text =>
      if name == "type" then do
        let (kind, rest) ← readKind? fuel depth text
        match progress with
        | .nothing => return (.kind kind, rest)
        | .content document =>
            return (.value (← kind.value? ⟨document, bundle? document⟩), rest)
        | _ => none
      else if name == "value" then
        match progress with
        | .nothing => do
            let (document, rest) ← (Json.readValue fuel depth text).toOption
            return (.content document, rest)
        | .kind kind => do
            let (value, rest) ← readContent? fuel depth kind text
            return (.value value, rest)
        | _ => none
      else (Json.skipValue? fuel text).map fun rest => (progress, rest)

def readContent? : (fuel depth : Nat) → (kind : Kind) → (text : List Char) →
    Option (Stored × List Char)
  | 0, _, _, _ => none
  | fuel + 1, depth, kind, text => do
      if kind = .bundle then
        let (bundle, rest) ← readBundle? fuel depth text
        return (bundle.toStored, rest)
      else
        let (document, rest) ← (Json.readValue fuel depth text).toOption
        return (← kind.value? ⟨document, none⟩, rest)

end

/-- Reads the text of a labelled bundle and nothing behind it but blanks. -/
def parse? (text : String) : Option Bundle := do
  let characters := text.toList
  let (bundle, rest) ← readBundle? (2 * characters.length + 2) Json.maxDepth characters
  if (Json.skipBlanks rest).isEmpty then some bundle else none

end Courier.Tagged
