import Mathlib.Tactic.IntervalCases
import Courier.Proofs.Json.Documents
import Courier.Proofs.Json.Numbers

namespace Courier.Json

/-! Written documents read back.

A document that is representable and not nested too deep reads back from its
text.  The reader gets by with as much fuel as the text has characters. -/

/-! Strings. -/

theorem escaped_plain {character : Char} (quote : character ≠ '"') (backslash : character ≠ '\\')
    (control : ¬ character.toNat < 0x20) : escaped character = [character] := by
  rw [escaped, if_neg quote, if_neg backslash, if_neg (by omega), if_neg (by omega),
    if_neg (by omega), if_neg (by omega), if_neg (by omega), if_neg (by omega), if_neg control]

/-- The characters by how they are written: the quote, the backslash and the
control characters are escaped, the others stand for themselves. -/
theorem escaped_induction {motive : Char → Prop} (quote : motive '"') (backslash : motive '\\')
    (control : ∀ code < 0x20, motive (Char.ofNat code))
    (plain : ∀ character, character ≠ '"' → character ≠ '\\' → ¬ character.toNat < 0x20 →
      escaped character = [character] → motive character) (character : Char) :
    motive character := by
  by_cases below : character.toNat < 0x20
  · have controlled := control character.toNat below
    rwa [Char.ofNat_toNat] at controlled
  · by_cases isQuote : character = '"'
    · exact isQuote ▸ quote
    · by_cases isBackslash : character = '\\'
      · exact isBackslash ▸ backslash
      · exact plain character isQuote isBackslash below
          (escaped_plain isQuote isBackslash below)

/-- A character is written as it is, or behind a backslash so that it reads back. -/
theorem escaped_cases (character : Char) :
    (escaped character = [character] ∧ character ≠ '"' ∧ character ≠ '\\' ∧
      ¬ character.toNat < 0x20) ∨
    ∃ escape, escaped character = '\\' :: escape ∧
      ∀ rest, readEscape (escape ++ rest) = .ok (character, rest) := by
  induction character using escaped_induction with
  | quote => exact .inr ⟨_, rfl, fun _ => rfl⟩
  | backslash => exact .inr ⟨_, rfl, fun _ => rfl⟩
  | control code below =>
      right
      interval_cases code <;> exact ⟨_, rfl, fun _ => rfl⟩
  | plain character quote backslash control written =>
      exact .inl ⟨written, quote, backslash, control⟩

theorem readStringFrom_escaped {text : List Char} {fuel : Nat} (enough : text.length < fuel)
    (read rest : List Char) :
    readStringFrom fuel read (text.flatMap escaped ++ '"' :: rest) =
      .ok (String.ofList (read.reverse ++ text), rest) := by
  induction text generalizing fuel read with
  | nil =>
      obtain ⟨fuel, rfl⟩ := Nat.exists_eq_add_one_of_ne_zero (Nat.ne_of_gt enough)
      rw [List.append_nil]
      rfl
  | cons character text inductionHypothesis =>
      obtain ⟨fuel, rfl⟩ :=
        Nat.exists_eq_add_one_of_ne_zero (Nat.ne_of_gt (Nat.zero_lt_of_lt enough))
      have less : text.length < fuel := by
        rw [List.length_cons] at enough
        omega
      have later := inductionHypothesis less (character :: read)
      rw [List.reverse_cons, List.append_assoc, List.singleton_append] at later
      rw [List.flatMap_cons, List.append_assoc]
      rcases escaped_cases character with
        ⟨plain, quote, backslash, control⟩ | ⟨escape, behind, reads⟩
      · rw [plain, List.singleton_append, readStringFrom]
        · rw [if_neg control]
          exact later
        · exact quote
        · exact backslash
      · rw [behind, List.cons_append, readStringFrom, reads]
        exact later

theorem length_le_escaped (text : List Char) : text.length ≤ (text.flatMap escaped).length := by
  induction text with
  | nil => exact Nat.le_refl 0
  | cons character text inductionHypothesis =>
      rw [List.flatMap_cons, List.length_append, List.length_cons]
      have some : 1 ≤ (escaped character).length := by
        rcases escaped_cases character with ⟨plain, _⟩ | ⟨escape, behind, _⟩
        · rw [plain, List.length_singleton]
        · rw [behind, List.length_cons]
          omega
      omega

theorem length_renderString (text : String) :
    text.toList.length + 2 ≤ (renderString text).length := by
  have longer := length_le_escaped text.toList
  rw [renderString, List.length_cons, List.length_append, List.length_singleton]
  omega

/-- A written string reads back behind its opening quote. -/
theorem readString_renderString {text : String} {fuel : Nat} (enough : text.toList.length < fuel)
    (rest : List Char) :
    ∃ behind, renderString text ++ rest = '"' :: behind ∧
      readString fuel behind = .ok (text, rest) := by
  refine ⟨text.toList.flatMap escaped ++ '"' :: rest, ?_, ?_⟩
  · rw [renderString, List.cons_append, List.append_assoc, List.singleton_append]
  · rw [readString, readStringFrom_escaped enough, List.reverse_nil, List.nil_append,
      String.ofList_toList]

theorem readKey_renderString {key : String} {fuel : Nat} (enough : key.toList.length < fuel)
    (rest : List Char) :
    readKey fuel (renderString key ++ ':' :: rest) = .ok (key, rest) := by
  obtain ⟨behind, written, read⟩ := readString_renderString enough (':' :: rest)
  rw [written]
  simp only [readKey, read]
  rfl

/-! How deep a document nests. -/

mutual

/-- How many arrays and objects nest in the document, itself included. -/
def nesting : Json → Nat
  | .array items => nestingOfItems items + 1
  | .object members => nestingOfMembers members + 1
  | .null | .bool _ | .integer _ | .double _ | .string _ => 0

def nestingOfItems : List Json → Nat
  | [] => 0
  | item :: rest => max item.nesting (nestingOfItems rest)

def nestingOfMembers : List (String × Json) → Nat
  | [] => 0
  | (_, value) :: rest => max value.nesting (nestingOfMembers rest)

end

theorem nestingOfItems_map {α : Type} {leaf : α → Json} (flat : ∀ value, (leaf value).nesting = 0)
    (values : List α) : nestingOfItems (values.map leaf) = 0 := by
  induction values with
  | nil => rfl
  | cons value rest inductionHypothesis =>
      rw [List.map_cons, nestingOfItems, flat, inductionHypothesis, Nat.max_self]

/-! Documents. -/

/-- A number is there only if its first character is a digit. -/
theorem digit_of_readNumber {negative : Bool} {text rest : List Char} {document : Json}
    (read : readNumber negative text = .ok (document, rest)) :
    ∃ digit behind, text = digit :: behind ∧ digit.isDigit = true := by
  unfold readNumber at read
  split at read
  · cases read
  · exact ⟨_, _, rfl, rfl⟩
  · split at read
    · rename_i isDigit
      exact ⟨_, _, rfl, isDigit⟩
    · cases read

/-- The characters with which a document starts. -/
def Opens (character : Char) : Prop :=
  isBlank character = false ∧ character ≠ ']' ∧ character ≠ '\x7d'

theorem opens_digit {digit : Char} (isDigit : digit.isDigit = true) : Opens digit := by
  refine ⟨?_, ?_, ?_⟩
  · rw [Bool.eq_false_iff]
    intro blank
    simp only [isBlank, Bool.or_eq_true, decide_eq_true_eq] at blank
    rcases blank with ((rfl | rfl) | rfl) | rfl <;> exact absurd isDigit (by decide)
  · rintro rfl
    exact absurd isDigit (by decide)
  · rintro rfl
    exact absurd isDigit (by decide)

theorem skipBlanks_opens {character : Char} (opens : Opens character) (text : List Char) :
    skipBlanks (character :: text) = character :: text := by
  rw [skipBlanks, List.dropWhile_cons_of_neg (by rw [opens.1]; decide)]

theorem readValue_number {fuel depth : Nat} {text rest : List Char} {document : Json}
    (read : readNumber false text = .ok (document, rest)) :
    readValue (fuel + 1) depth text = .ok (document, rest) := by
  obtain ⟨digit, behind, rfl, isDigit⟩ := digit_of_readNumber read
  rw [readValue, skipBlanks_opens (opens_digit isDigit)]
  split
  · rename_i same
    cases same
  all_goals
    rename_i same
    cases same
    first
      | exact absurd isDigit (by decide)
      | rw [if_pos isDigit, read]

theorem readValue_renderInteger {value : Int} {fuel depth : Nat} {rest : List Char}
    (representable : (Json.integer value).Representable) (delimited : Delimited rest) :
    readValue (fuel + 1) depth (renderInteger value ++ rest) = .ok (.integer value, rest) := by
  obtain ⟨low, high⟩ := representable
  unfold renderInteger
  split
  · rename_i below
    have fits : isInt64 value = true := by
      have top : (0 : Int) ≤ Int64.maxValue.toInt := by decide
      simp only [isInt64, Bool.and_eq_true, decide_eq_true_eq]
      exact ⟨low, Int.le_trans (Int.le_of_lt below) top⟩
    exact readNumber_negative below fits delimited
  · rename_i above
    have magnitude : (value.natAbs : Int) = value := by omega
    have small : value.natAbs < UInt64.size := by omega
    have read := readNumber_natural small delimited
    rw [magnitude] at read
    rw [List.nil_append]
    exact readValue_number read

theorem readValue_renderDouble {number : Binary64} {fuel depth : Nat} {rest : List Char}
    (finite : number.isFinite = true) (delimited : Delimited rest) :
    readValue (fuel + 1) depth (renderDouble number ++ rest) = .ok (.double number, rest) := by
  have read := Decimal.toBinary64?_shortest finite
  have shape := Decimal.shortest_digits finite
  unfold renderDouble
  cases sign : number.isNegative with
  | true =>
      rw [sign] at read
      rw [if_pos rfl]
      exact readNumber_renderDecimal shape read delimited
  | false =>
      rw [sign] at read
      rw [if_neg Bool.false_ne_true, List.nil_append]
      exact readValue_number (readNumber_renderDecimal shape read delimited)

theorem readValue_renderString {text : String} {fuel depth : Nat} {rest : List Char}
    (enough : text.toList.length < fuel) :
    readValue (fuel + 1) depth (renderString text ++ rest) = .ok (.string text, rest) := by
  obtain ⟨behind, written, read⟩ := readString_renderString enough rest
  rw [written, readValue, skipBlanks_opens ⟨rfl, by decide, by decide⟩]
  simp only [read]

theorem renderCharacters_opens {document : Json} (representable : document.Representable) :
    ∃ character behind, document.renderCharacters = character :: behind ∧ Opens character := by
  have plain : ∀ {character : Char} {behind : List Char},
      isBlank character = false → character ≠ ']' → character ≠ '\x7d' →
        ∃ first rest, character :: behind = first :: rest ∧ Opens first :=
    fun blank bracket brace => ⟨_, _, rfl, blank, bracket, brace⟩
  cases document with
  | null => exact plain rfl (by decide) (by decide)
  | bool value => cases value <;> exact plain rfl (by decide) (by decide)
  | integer value =>
      unfold renderCharacters renderInteger
      split
      · exact plain rfl (by decide) (by decide)
      · have whole := Decimal.whole_digitsOf value.natAbs
        cases shape : Decimal.digitsOf value.natAbs with
        | nil => exact absurd shape whole.nonempty
        | cons digit digits =>
            exact ⟨digit, digits, rfl, opens_digit (whole.digit digit (shape ▸ List.mem_cons_self))⟩
  | double number =>
      unfold renderCharacters renderDouble
      split
      · exact plain rfl (by decide) (by decide)
      · have read := readNumber_renderDecimal (Decimal.shortest_digits representable)
          (Decimal.toBinary64?_shortest representable) delimited_nil
        obtain ⟨digit, behind, written, isDigit⟩ := digit_of_readNumber read
        rw [List.append_nil] at written
        exact ⟨digit, behind, written, opens_digit isDigit⟩
  | string text => exact plain rfl (by decide) (by decide)
  | array items => cases items <;> exact plain rfl (by decide) (by decide)
  | object members =>
      cases members with
      | nil => exact plain rfl (by decide) (by decide)
      | cons member rest => exact plain rfl (by decide) (by decide)

/-- What is behind the comma in front of an item. -/
theorem renderItems_opens {item : Json} (representable : item.Representable) (items : List Json)
    (rest : List Char) :
    ∃ character behind, renderItems (item :: items) ++ rest = ',' :: character :: behind ∧
      (renderItems (item :: items)).tail ++ rest = character :: behind ∧ Opens character := by
  obtain ⟨character, behind, written, opens⟩ := renderCharacters_opens representable
  refine ⟨character, behind ++ renderItems items ++ rest, ?_, ?_, opens⟩
  · rw [renderItems, written]
    rfl
  · rw [renderItems, written]
    rfl

theorem delimited_renderItems (items : List Json) (rest : List Char) :
    Delimited (renderItems items ++ rest) := by
  intro character first
  cases items with
  | nil =>
      cases first
      exact .inr (.inl rfl)
  | cons item items =>
      cases first
      exact .inl rfl

theorem delimited_renderMembers (members : List (String × Json)) (rest : List Char) :
    Delimited (renderMembers members ++ rest) := by
  intro character first
  cases members with
  | nil =>
      cases first
      exact .inr (.inr rfl)
  | cons member members =>
      cases first
      exact .inl rfl

/-! One step of the reader at a time. -/

theorem readValue_array {fuel depth : Nat} {character : Char} {behind : List Char}
    (opens : Opens character) :
    readValue (fuel + 1) (depth + 1) ('[' :: character :: behind) =
      readItems fuel depth [] (character :: behind) := by
  rw [readValue, skipBlanks_opens ⟨rfl, by decide, by decide⟩]
  simp only [skipBlanks_opens opens]
  split
  · rename_i same
    cases same
    exact absurd rfl opens.2.1
  · rename_i same
    cases same
  · rfl

theorem readValue_object {fuel depth : Nat} {character : Char} {behind : List Char}
    (opens : Opens character) :
    readValue (fuel + 1) (depth + 1) ('\x7b' :: character :: behind) =
      readMembers fuel depth [] (character :: behind) := by
  rw [readValue, skipBlanks_opens ⟨rfl, by decide, by decide⟩]
  simp only [skipBlanks_opens opens]
  split
  · rename_i same
    cases same
    exact absurd rfl opens.2.2
  · rename_i same
    cases same
  · rfl

theorem readItems_last {fuel depth : Nat} {item : Json} {text rest : List Char}
    (first : readValue fuel depth text = .ok (item, ']' :: rest)) (read : List Json) :
    readItems (fuel + 1) depth read text = .ok (.array (item :: read).reverse, rest) := by
  rw [readItems, first]
  rfl

theorem readItems_next {fuel depth : Nat} {item : Json} {text behind : List Char}
    {character : Char} (opens : Opens character)
    (first : readValue fuel depth text = .ok (item, ',' :: character :: behind))
    (read : List Json) :
    readItems (fuel + 1) depth read text =
      readItems fuel depth (item :: read) (character :: behind) := by
  have comma : skipBlanks (',' :: character :: behind) = ',' :: character :: behind := rfl
  simp only [readItems, first, comma, skipBlanks_opens opens]
  split
  · rename_i same
    cases same
  · rename_i same
    cases same
    exact absurd rfl opens.2.1
  · rfl

theorem readMembers_last {fuel depth : Nat} {key : String} {value : Json}
    {text behind rest : List Char} (name : readKey fuel text = .ok (key, behind))
    (first : readValue fuel depth behind = .ok (value, '\x7d' :: rest))
    (read : List (String × Json)) :
    readMembers (fuel + 1) depth read text =
      .ok (.object ((key, value) :: read).reverse, rest) := by
  simp only [readMembers, name, first]
  rfl

theorem readMembers_next {fuel depth : Nat} {key : String} {value : Json}
    {text behind rest : List Char} {character : Char} (opens : Opens character)
    (name : readKey fuel text = .ok (key, behind))
    (first : readValue fuel depth behind = .ok (value, ',' :: character :: rest))
    (read : List (String × Json)) :
    readMembers (fuel + 1) depth read text =
      readMembers fuel depth ((key, value) :: read) (character :: rest) := by
  have comma : skipBlanks (',' :: character :: rest) = ',' :: character :: rest := rfl
  simp only [readMembers, name, first, comma, skipBlanks_opens opens]
  split
  · rename_i same
    cases same
  · rename_i same
    cases same
    exact absurd rfl opens.2.2
  · rfl

mutual

/-- A written document reads back, whatever delimited text is behind it. -/
theorem readValue_render : (document : Json) → (fuel depth : Nat) → (rest : List Char) →
    document.Throughout Representable → document.nesting ≤ depth →
      document.renderCharacters.length ≤ fuel → Delimited rest →
        readValue fuel depth (document.renderCharacters ++ rest) = .ok (document, rest)
  | document, 0, depth, rest, representable, nested, enough, delimited => by
      obtain ⟨character, behind, written, _⟩ := renderCharacters_opens representable.holds
      rw [written, List.length_cons] at enough
      omega
  | .null, fuel + 1, depth, rest, _, _, _, _ => rfl
  | .bool true, fuel + 1, depth, rest, _, _, _, _ => rfl
  | .bool false, fuel + 1, depth, rest, _, _, _, _ => rfl
  | .integer value, fuel + 1, depth, rest, representable, _, _, delimited => by
      rw [renderCharacters]
      exact readValue_renderInteger representable delimited
  | .double number, fuel + 1, depth, rest, representable, _, _, delimited => by
      rw [renderCharacters]
      exact readValue_renderDouble representable delimited
  | .string text, fuel + 1, depth, rest, _, _, enough, _ => by
      rw [renderCharacters] at enough ⊢
      have longer := length_renderString text
      exact readValue_renderString (by omega)
  | .array [], fuel + 1, depth + 1, rest, _, _, _, _ => rfl
  | .array (item :: items), fuel + 1, depth + 1, rest, representable, nested, enough, _ => by
      obtain ⟨character, behind, _, front, opens⟩ :=
        renderItems_opens representable.2.1.holds items rest
      have read := readItems_render (item :: items) fuel depth [] rest (List.cons_ne_nil _ _)
        representable.2 (Nat.le_of_succ_le_succ nested) enough
      change readValue (fuel + 1) (depth + 1)
        ('[' :: ((renderItems (item :: items)).tail ++ rest)) = _
      rw [front] at read ⊢
      exact (readValue_array opens).trans read
  | .object [], fuel + 1, depth + 1, rest, _, _, _, _ => rfl
  | .object (member :: members), fuel + 1, depth + 1, rest, representable, nested, enough, _ => by
      have read := readMembers_render (member :: members) fuel depth [] rest
        (List.cons_ne_nil _ _) representable.2 (Nat.le_of_succ_le_succ nested) enough
      exact (readValue_object ⟨rfl, by decide, by decide⟩).trans read

/-- Written items read back from behind the comma in front of them. -/
theorem readItems_render : (items : List Json) → (fuel depth : Nat) → (read : List Json) →
    (rest : List Char) → items ≠ [] → ThroughoutItems Representable items →
      nestingOfItems items ≤ depth → (renderItems items).length ≤ fuel + 1 →
        readItems fuel depth read ((renderItems items).tail ++ rest) =
          .ok (.array (read.reverse ++ items), rest)
  | [], _, _, _, _, nonempty, _, _, _ => absurd rfl nonempty
  | item :: items, fuel, depth, read, rest, _, representable, nested, enough => by
      rw [renderItems, List.length_cons, List.length_append] at enough
      rw [nestingOfItems, Nat.max_le] at nested
      have some : 1 ≤ (renderItems items).length := by
        cases items <;> exact Nat.le_add_left 1 _
      obtain ⟨fuel, rfl⟩ : ∃ less, fuel = less + 1 := Nat.exists_eq_add_one.2 (by omega)
      have first := readValue_render item fuel depth (renderItems items ++ rest) representable.1
        nested.1 (by omega) (delimited_renderItems items rest)
      rw [renderItems, List.tail_cons, List.append_assoc]
      cases items with
      | nil =>
          have last := readItems_last first read
          rw [List.reverse_cons] at last
          exact last
      | cons next items =>
          obtain ⟨character, behind, comma, front, opens⟩ :=
            renderItems_opens representable.2.1.holds items rest
          have later := readItems_render (next :: items) fuel depth (item :: read) rest
            (List.cons_ne_nil _ _) representable.2 nested.2 (by omega)
          rw [List.reverse_cons, List.append_assoc, List.singleton_append, front] at later
          rw [comma] at first
          rw [comma]
          exact (readItems_next opens first read).trans later

theorem readMembers_render : (members : List (String × Json)) → (fuel depth : Nat) →
    (read : List (String × Json)) → (rest : List Char) → members ≠ [] →
      ThroughoutMembers Representable members → nestingOfMembers members ≤ depth →
        (renderMembers members).length ≤ fuel + 1 →
          readMembers fuel depth read ((renderMembers members).tail ++ rest) =
            .ok (.object (read.reverse ++ members), rest)
  | [], _, _, _, _, nonempty, _, _, _ => absurd rfl nonempty
  | (key, value) :: members, fuel, depth, read, rest, _, representable, nested, enough => by
      have longer := length_renderString key
      rw [renderMembers, List.length_cons, List.length_append, List.length_cons,
        List.length_append] at enough
      rw [nestingOfMembers, Nat.max_le] at nested
      obtain ⟨fuel, rfl⟩ : ∃ less, fuel = less + 1 := Nat.exists_eq_add_one.2 (by omega)
      have first := readValue_render value fuel depth (renderMembers members ++ rest)
        representable.1 nested.1 (by omega) (delimited_renderMembers members rest)
      have short : key.toList.length < fuel := by omega
      have name := readKey_renderString short
        (renderCharacters value ++ (renderMembers members ++ rest))
      rw [renderMembers, List.tail_cons, List.append_assoc, List.cons_append, List.append_assoc]
      cases members with
      | nil =>
          have last := readMembers_last name first read
          rw [List.reverse_cons] at last
          exact last
      | cons next members =>
          have later := readMembers_render (next :: members) fuel depth ((key, value) :: read) rest
            (List.cons_ne_nil _ _) representable.2 nested.2 (by omega)
          rw [List.reverse_cons, List.append_assoc, List.singleton_append] at later
          exact (readMembers_next ⟨rfl, by decide, by decide⟩ name first read).trans later

end

/-- A representable document that nests at most as deep as the reader goes reads
back from its text. -/
theorem parse_render {document : Json} (representable : document.Throughout Representable)
    (nested : document.nesting ≤ maxDepth) : parse document.render = .ok document := by
  have read := readValue_render document (2 * document.renderCharacters.length + 2) maxDepth []
    representable nested (by omega) delimited_nil
  rw [List.append_nil] at read
  rw [parse, render, String.toList_ofList, readDocument, read]
  rfl

end Courier.Json
