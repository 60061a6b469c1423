import Courier.Fault
import Mathlib.Data.Nat.Digits.Defs
import Mathlib.Tactic.GRewrite

namespace Courier

/-! How long the text of a defect gets.

`Defect.Within` holds of the defects of a parcel whose numbers lie within it.
Their texts quote numbers and nothing else, so they are short. -/

namespace Utf8

/-- The length and the place of a fault in a text of `size` bytes. -/
def Flaw.Within (size : Nat) : Flaw → Prop
  | .invalid length index => length ≤ 3 ∧ index ≤ size
  | .incomplete index => index ≤ size

theorem length_encode_le (characters : List Char) :
    (encode characters).length ≤ 4 * characters.length := by
  induction characters with
  | nil => simp [encode]
  | cons value later inductionHypothesis =>
      have width : (String.utf8EncodeChar value).length ≤ 4 := by
        rw [String.length_utf8EncodeChar]
        exact value.utf8Size_le_four
      change (String.utf8EncodeChar value ++ encode later).length ≤ _
      rw [List.length_append, List.length_cons]
      omega

theorem length_le_length_encode (characters : List Char) :
    characters.length ≤ (encode characters).length := by
  induction characters with
  | nil => simp [encode]
  | cons value later inductionHypothesis =>
      have width : 1 ≤ (String.utf8EncodeChar value).length := by
        rw [String.length_utf8EncodeChar]
        exact value.utf8Size_pos
      change _ ≤ (String.utf8EncodeChar value ++ encode later).length
      rw [List.length_append, List.length_cons]
      omega

end Utf8

/-- The numbers of a defect in a parcel of `size` bytes. -/
def Defect.Within (size : Nat) : Defect → Prop
  | .truncated _ needed offset held => needed < 2 ^ 32 ∧ offset ≤ size ∧ held = size
  | .invalidText flaw => flaw.Within size
  | .payloadMismatch _ consumed => consumed ≤ size
  | .negativeLength _ _ | .missingTerminator | .nestedTooDeep | .negativePayload _ | .badMagic _
  | .negativeCount _ | .nullKey | .nullString | .invalidArrayLength _ | .unknownTag _ => True
  | .shortRequest _ | .emptyReply | .unknownStatus _ | .unexpectedAdmission _ | .oversizedFrame _
  | .described _ _ => False

/-! Digits. -/

theorem length_toString_nat {number : Nat} (small : number < 10 ^ 10) :
    (toString number).toList.length ≤ 10 :=
  Nat.repr_length number 10 (by decide) small

theorem length_toString_int32 (number : Int32) : (toString number.toInt).toList.length ≤ 11 := by
  have lower := number.le_toInt
  have upper := number.toInt_lt
  cases shape : number.toInt with
  | ofNat size =>
      rw [shape, Int.ofNat_eq_natCast] at upper
      have digits := @length_toString_nat size (by omega)
      exact Nat.le_succ_of_le digits
  | negSucc size =>
      have digits := @length_toString_nat (size + 1) (by omega)
      change ("-" ++ toString (size + 1)).toList.length ≤ 11
      rw [String.toList_append, List.length_append]
      exact Nat.add_le_add (by decide : "-".toList.length ≤ 1) digits

theorem length_hexadecimal {number : Nat} (small : number < 2 ^ 32) :
    (Text.hexadecimal number).toList.length ≤ 10 := by
  have digits := Nat.toDigits_length 16 number 8 (by decide) (by omega)
  simp only [Text.hexadecimal, Text.hexDigits, String.toList_append, List.length_append,
    String.toList_ofList]
  exact Nat.add_le_add (by decide : "0x".toList.length ≤ 2) digits

theorem length_subject {defect : Defect} {size : Nat} (within : defect.Within size) :
    defect.subject.toList.length ≤ 20 := by
  cases defect with
  | truncated field => cases field <;> simp [Defect.subject, Field.name]
  | negativeLength field => cases field <;> simp [Defect.subject, Field.name]
  | described => exact within.elim
  | _ => simp [Defect.subject, Field.name]

theorem Utf8.Flaw.length_message {flaw : Flaw} {size : Nat} (within : flaw.Within size)
    (small : size < 10 ^ 9) : flaw.message.toList.length ≤ 80 := by
  unfold Flaw.message
  cases flaw with
  | invalid length index =>
      obtain ⟨few, inside⟩ := within
      have first := @length_toString_nat length (by omega)
      have second := @length_toString_nat index (by omega)
      simp only [String.toList_append, List.length_append]
      grw [first, second]
      decide
  | incomplete index =>
      have first := @length_toString_nat index (Nat.lt_of_le_of_lt within (by omega))
      simp only [String.toList_append, List.length_append]
      grw [first]
      decide

theorem length_reason {defect : Defect} {size : Nat} (within : defect.Within size)
    (small : size < 10 ^ 9) : defect.reason.toList.length ≤ 100 := by
  unfold Defect.reason
  cases defect with
  | truncated field needed offset held =>
      obtain ⟨short, inside, same⟩ := within
      have first := @length_toString_nat needed (by omega)
      have second := @length_toString_nat offset (by omega)
      have third := @length_toString_nat held (by omega)
      simp only [String.toList_append, List.length_append]
      grw [first, second, third]
      decide
  | invalidText flaw => exact Nat.le_trans (Utf8.Flaw.length_message within small) (by decide)
  | payloadMismatch declared consumed =>
      have second := @length_toString_nat consumed (Nat.lt_of_le_of_lt within (by omega))
      simp only [String.toList_append, List.length_append]
      grw [length_toString_int32, second]
      decide
  | badMagic found =>
      simp only [String.toList_append, List.length_append]
      grw [length_hexadecimal found.toUInt32.toNat_lt]
      decide
  | negativeLength _ number | negativePayload number | negativeCount number
  | invalidArrayLength number | unknownTag number =>
      simp only [String.toList_append, List.length_append]
      grw [length_toString_int32]
      decide
  | missingTerminator | nestedTooDeep | nullKey | nullString => decide
  | shortRequest | emptyReply | unknownStatus | unexpectedAdmission | oversizedFrame | described =>
      exact within.elim

/-- The text of a defect that a decoder reports is short. -/
theorem length_malformed {defect : Defect} {size : Nat} (within : defect.Within size)
    (small : size < 10 ^ 9) : (Utf8.bytes (Fault.malformed defect).message).length ≤ 600 := by
  refine Nat.le_trans (Utf8.length_encode_le _) ?_
  change 4 * ("Malformed " ++ defect.subject ++ ": " ++ defect.reason).toList.length ≤ _
  simp only [String.toList_append, List.length_append]
  grw [length_subject within, length_reason within small]
  decide

end Courier
