import Courier.Proofs.Json.RoundTrip

namespace Courier.Json

/-! The text of a document is one line: it has no control characters, and so no
line feeds. -/

def Printed (text : List Char) : Prop :=
  ∀ character ∈ text, 0x20 ≤ character.toNat

instance (text : List Char) : Decidable (Printed text) :=
  decidable_of_iff (text.all fun character => decide (0x20 ≤ character.toNat))
    (by simp only [List.all_eq_true, decide_eq_true_eq, Printed])

theorem printed_append {front back : List Char} :
    Printed (front ++ back) ↔ Printed front ∧ Printed back :=
  List.forall_mem_append

theorem printed_cons {character : Char} {text : List Char} :
    Printed (character :: text) ↔ 0x20 ≤ character.toNat ∧ Printed text :=
  List.forall_mem_cons

theorem printed_digits {digits : List Char}
    (all : ∀ character ∈ digits, character.isDigit = true) : Printed digits := by
  intro character member
  have isDigit := all character member
  simp only [Char.isDigit, Bool.and_eq_true, decide_eq_true_eq, UInt32.le_iff_toNat_le] at isDigit
  exact Nat.le_trans (by decide) isDigit.1

theorem printed_digitsOf (value : Nat) : Printed (Decimal.digitsOf value) :=
  printed_digits fun _ => Decimal.isDigit_of_mem_digitsOf

theorem printed_escaped (character : Char) : Printed (escaped character) := by
  induction character using escaped_induction with
  | quote => decide
  | backslash => decide
  | control code below =>
      have all : ∀ code < 0x20, Printed (escaped (Char.ofNat code)) := by decide
      exact all code below
  | plain character _ _ control written =>
      rw [written]
      exact printed_cons.2 ⟨Nat.le_of_not_lt control, nofun⟩

theorem printed_renderString (text : String) : Printed (renderString text) := by
  refine printed_cons.2 ⟨by decide, printed_append.2 ⟨?_, by decide⟩⟩
  intro character member
  obtain ⟨written, _, within⟩ := List.mem_flatMap.1 member
  exact printed_escaped written character within

theorem printed_renderInteger (value : Int) : Printed (renderInteger value) := by
  refine printed_append.2 ⟨?_, printed_digitsOf _⟩
  split <;> decide

theorem printed_renderExponent (exponent : Int) : Printed (renderExponent exponent) := by
  refine printed_append.2 ⟨?_, printed_digitsOf _⟩
  split <;> decide

theorem printed_renderDecimal (decimal : Decimal) : Printed (renderDecimal decimal) := by
  have zeros : ∀ count, Printed (List.replicate count '0') :=
    fun count => printed_digits fun _ => Decimal.isDigit_of_mem_zeros
  have digits := printed_digitsOf decimal.digits
  have point : 0x20 ≤ '.'.toNat := by decide
  unfold renderDecimal
  simp only []
  split
  · split
    · exact printed_append.2 ⟨printed_append.2 ⟨digits, zeros _⟩, by decide⟩
    · split
      · refine printed_append.2 ⟨?_, printed_cons.2 ⟨point, ?_⟩⟩
        · exact fun character member => digits character (List.mem_of_mem_take member)
        · exact fun character member => digits character (List.mem_of_mem_drop member)
      · exact printed_append.2 ⟨printed_append.2 ⟨by decide, zeros _⟩, digits⟩
  · split
    · exact nofun
    · rename_i shape
      rw [shape] at digits
      exact printed_cons.2 ⟨(printed_cons.1 digits).1, printed_renderExponent _⟩
    · rename_i shape
      rw [shape] at digits
      obtain ⟨first, fraction⟩ := printed_cons.1 digits
      exact printed_cons.2 ⟨first, printed_cons.2 ⟨point, printed_append.2
        ⟨fraction, printed_renderExponent _⟩⟩⟩

theorem printed_renderDouble (number : Binary64) : Printed (renderDouble number) := by
  refine printed_append.2 ⟨?_, printed_renderDecimal _⟩
  split <;> decide

mutual

theorem printed_renderCharacters : (document : Json) → Printed document.renderCharacters
  | .null => by decide
  | .bool true => by decide
  | .bool false => by decide
  | .integer value => printed_renderInteger value
  | .double number => printed_renderDouble number
  | .string text => printed_renderString text
  | .array [] => by decide
  | .array (item :: items) => printed_cons.2 ⟨by decide,
      printed_append.2 ⟨printed_renderCharacters item, printed_renderItems items⟩⟩
  | .object [] => by decide
  | .object ((key, value) :: members) => printed_cons.2 ⟨by decide,
      printed_append.2 ⟨printed_renderString key, printed_cons.2 ⟨by decide,
        printed_append.2 ⟨printed_renderCharacters value, printed_renderMembers members⟩⟩⟩⟩

theorem printed_renderItems : (items : List Json) → Printed (renderItems items)
  | [] => by decide
  | item :: items => printed_cons.2 ⟨by decide,
      printed_append.2 ⟨printed_renderCharacters item, printed_renderItems items⟩⟩

theorem printed_renderMembers : (members : List (String × Json)) → Printed (renderMembers members)
  | [] => by decide
  | (key, value) :: members => printed_cons.2 ⟨by decide,
      printed_append.2 ⟨printed_renderString key, printed_cons.2 ⟨by decide,
        printed_append.2 ⟨printed_renderCharacters value, printed_renderMembers members⟩⟩⟩⟩

end

theorem lineFeed_not_mem_render (document : Json) : '\n' ∉ document.render.toList := by
  rw [render, String.toList_ofList]
  intro member
  exact absurd (printed_renderCharacters document '\n' member) (by decide)

end Courier.Json
