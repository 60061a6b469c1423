import Courier.Text.CaseData

namespace Courier.Text

/-! Lower case.

Every character has a lower-case form of its own but two.  The dotted capital I
becomes two characters, and a capital sigma becomes the final one when it ends
a word: a cased letter stands before it and none after it, ignorable characters
passed over. -/

def isCaseIgnorable (character : Char) : Bool :=
  caseIgnorable.holds character.toNat

def isCased (character : Char) : Bool :=
  cased.holds character.toNat

def CaseRun.holds (run : CaseRun) (codePoint : Nat) : Bool :=
  run.first ≤ codePoint && codePoint ≤ run.last && (codePoint - run.first) % run.stride == 0

/-- The lower-case form of one character outside any context. -/
def lowerCharacter (character : Char) : List Char :=
  if character = 'İ' then ['i', Char.ofNat 0x307]
  else
    match lowerRuns.find? fun run => run.holds character.toNat with
    | some run => [Char.ofNat (character.toNat + run.shift).toNat]
    | none => [character]

/-- The first character that is not ignorable is a cased letter. -/
def meetsCased (characters : List Char) : Bool :=
  match characters.dropWhile isCaseIgnorable with
  | [] => false
  | character :: _ => isCased character

/-- Lowers the characters that follow `before`, which holds the text read so
far, its last character first. -/
def lowerAfter (before : List Char) : List Char → List Char
  | [] => []
  | character :: rest =>
      let lowered :=
        if character = 'Σ' then
          if meetsCased before && !meetsCased rest then ['ς'] else ['σ']
        else lowerCharacter character
      lowered ++ lowerAfter (character :: before) rest

def lower (text : String) : String :=
  String.ofList (lowerAfter [] text.toList)

end Courier.Text
