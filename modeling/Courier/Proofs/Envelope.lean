import Courier.Envelope

namespace Courier

/-! Admissions, requests and replies come back from their payloads, and nothing
else is read as a request or as a reply. -/

theorem Admission.decode_encode (admission : Admission) :
    decode admission.encode = .ok admission := by
  cases admission <;> rfl

/-- A word of four digits, highest first, is read back from them. -/
theorem ofBigEndian_uint32 (word : UInt32) :
    UInt32.ofNat (ofBigEndian (bigEndian 4 word.toNat)) = word := by
  have bounded : word.toNat < span 4 := word.toNat_lt
  rw [ofBigEndian_bigEndian, Nat.mod_eq_of_lt bounded, UInt32.ofNat_toNat]

/-- Four digits, highest first, are those of the word that they are read as. -/
theorem bigEndian_uint32 {digits : List UInt8} (width : digits.length = 4) :
    bigEndian 4 (UInt32.ofNat (ofBigEndian digits)).toNat = digits := by
  have bounded : ofBigEndian digits < span 4 := by
    rw [← width, ← List.length_reverse]
    exact ofLittleEndian_lt digits.reverse
  have written := bigEndian_ofBigEndian digits
  rw [width] at written
  rw [UInt32.toNat_ofNat_of_lt' bounded]
  exact written

theorem Request.decode_encode (request : Request) : decode request.encode = .ok request := by
  have code := ofBigEndian_uint32 request.code
  have flags := ofBigEndian_uint32 request.flags.bits
  have codeWidth := length_bigEndian 4 request.code.toNat
  have flagsWidth := length_bigEndian 4 request.flags.bits.toNat
  unfold encode
  generalize bigEndian 4 request.code.toNat = codeWord at code codeWidth
  generalize bigEndian 4 request.flags.bits.toNat = flagsWord at flags flagsWidth
  match codeWord, codeWidth, flagsWord, flagsWidth with
  | [_, _, _, _], _, [_, _, _, _], _ =>
      simp only [List.cons_append, List.nil_append, decode, code, flags]

theorem Request.encode_of_decode {payload : List UInt8} {request : Request}
    (decoded : decode payload = .ok request) : payload = request.encode := by
  match payload with
  | [] | [_] | [_, _] | [_, _, _] | [_, _, _, _] | [_, _, _, _, _] | [_, _, _, _, _, _]
  | [_, _, _, _, _, _, _] => contradiction
  | a :: b :: c :: d :: e :: f :: g :: h :: data =>
      cases decoded
      simp only [encode, @bigEndian_uint32 [a, b, c, d] rfl, @bigEndian_uint32 [e, f, g, h] rfl,
        List.cons_append, List.nil_append]

/-- Nothing but a payload without room for the code and the flags is refused. -/
theorem Request.decode_eq_error {payload : List UInt8} {fault : Fault} :
    decode payload = .error fault ↔
      payload.length < 8 ∧ fault = .malformed (.shortRequest payload.length) := by
  match payload with
  | [] | [_] | [_, _] | [_, _, _] | [_, _, _, _] | [_, _, _, _, _] | [_, _, _, _, _, _]
  | [_, _, _, _, _, _, _] => simp [decode, eq_comm]
  | a :: b :: c :: d :: e :: f :: g :: h :: data =>
      simp only [decode, reduceCtorEq, List.length_cons, false_iff]
      omega

/-- What is wrong with the payload of a frame that holds no reply. -/
inductive Reply.Garbled : List UInt8 → Defect → Prop where
  | empty : Garbled [] .emptyReply
  | unknown {status : UInt8} (above : 1 < status) (data : List UInt8) :
      Garbled (status :: data) (.unknownStatus status)

theorem Reply.decode_encode (reply : Reply) : decode reply.encode = .ok reply := by
  obtain ⟨handled, data⟩ := reply
  cases handled <;> rfl

theorem Reply.decode_garbled {payload : List UInt8} {defect : Defect}
    (garbled : Garbled payload defect) : decode payload = .error (.malformed defect) := by
  cases garbled with
  | empty => rfl
  | unknown above data =>
      unfold decode
      split <;> simp_all

theorem Reply.encode_or_garbled (payload : List UInt8) :
    (∃ reply : Reply, payload = reply.encode) ∨ ∃ defect, Garbled payload defect := by
  match payload with
  | [] => exact .inr ⟨_, .empty⟩
  | status :: data =>
      by_cases above : 1 < status
      · exact .inr ⟨_, .unknown above data⟩
      · by_cases handled : status = 0
        · exact .inl ⟨⟨true, data⟩, by rw [handled]; rfl⟩
        · have unhandled : status = 1 := by
            rw [UInt8.lt_iff_toNat_lt] at above
            rw [← UInt8.toNat_inj] at handled ⊢
            simp only [UInt8.reduceToNat, Nat.not_lt, UInt8.toNat_zero] at above handled ⊢
            omega
          exact .inl ⟨⟨false, data⟩, by rw [unhandled]; rfl⟩

theorem Reply.encode_of_decode {payload : List UInt8} {reply : Reply}
    (decoded : decode payload = .ok reply) : payload = reply.encode := by
  obtain ⟨written, rfl⟩ | ⟨defect, garbled⟩ := encode_or_garbled payload
  · rw [decode_encode] at decoded
    injection decoded with same
    rw [same]
  · rw [decode_garbled garbled] at decoded
    contradiction

/-! One payload for each value, and one value for each payload. -/

theorem Request.exists_decode {payload : List UInt8} :
    (∃ request, decode payload = .ok request) ↔ 8 ≤ payload.length := by
  constructor
  · rintro ⟨request, decoded⟩
    refine Nat.le_of_not_lt fun short => ?_
    rw [decode_eq_error.2 ⟨short, rfl⟩] at decoded
    contradiction
  · intro headed
    cases decoded : decode payload with
    | ok request => exact ⟨request, rfl⟩
    | error fault => exact absurd (decode_eq_error.1 decoded).1 (Nat.not_lt.2 headed)

example : Request.decode [0, 0, 0, 1, 0x80, 0, 0, 0x11, 9, 9] =
    .ok ⟨1, ⟨0x80000011⟩, [9, 9]⟩ := by
  rfl

theorem Reply.exists_decode {payload : List UInt8} :
    (∃ reply, decode payload = .ok reply) ↔
      payload.head? = some 0 ∨ payload.head? = some 1 := by
  constructor
  · rintro ⟨⟨handled, data⟩, decoded⟩
    rw [encode_of_decode decoded]
    cases handled with
    | true => exact .inl rfl
    | false => exact .inr rfl
  · intro known
    obtain ⟨reply, rfl⟩ | ⟨defect, garbled⟩ := encode_or_garbled payload
    · exact ⟨reply, decode_encode reply⟩
    · cases garbled with
      | empty => simp at known
      | unknown above data =>
          rw [List.head?_cons, Option.some.injEq, Option.some.injEq] at known
          obtain rfl | rfl := known <;> contradiction

section

variable {α : Type} (encode : α → List UInt8) (decode : List UInt8 → Except Fault α)

/-- The payloads of a form and the values that they are read as belong to each
other one to one. -/
structure OneToOne (Form : List UInt8 → Prop) : Prop where
  taken : ∀ payload, (∃ value, decode payload = .ok value) ↔ Form payload
  readBack : ∀ value, decode (encode value) = .ok value
  writtenBack : ∀ payload value, decode payload = .ok value → encode value = payload
  valuesApart : Function.Injective encode
  payloadsApart : ∀ first second value,
    decode first = .ok value → decode second = .ok value → first = second

variable {encode decode}

/-- Reading and writing that undo each other leave no two values with one
payload, and no two payloads with one value. -/
theorem OneToOne.of_inverse {Form : List UInt8 → Prop}
    (taken : ∀ payload, (∃ value, decode payload = .ok value) ↔ Form payload)
    (readBack : ∀ value, decode (encode value) = .ok value)
    (writtenBack : ∀ payload value, decode payload = .ok value → encode value = payload) :
    OneToOne encode decode Form where
  taken := taken
  readBack := readBack
  writtenBack := writtenBack
  valuesApart := by
    intro first second same
    have read := readBack first
    rw [same, readBack second] at read
    injection read with equal
    exact equal.symm
  payloadsApart first second value readFirst readSecond :=
    (writtenBack first value readFirst).symm.trans (writtenBack second value readSecond)

end

/-- Requests are the payloads with room for the code and the flags, and replies
those that begin with a known status. -/
theorem envelopes_one_to_one :
    OneToOne Request.encode Request.decode (fun payload => 8 ≤ payload.length) ∧
      OneToOne Reply.encode Reply.decode
        (fun payload => payload.head? = some 0 ∨ payload.head? = some 1) :=
  ⟨.of_inverse (fun _ => Request.exists_decode) Request.decode_encode
      fun _ _ decoded => (Request.encode_of_decode decoded).symm,
    .of_inverse (fun _ => Reply.exists_decode) Reply.decode_encode
      fun _ _ decoded => (Reply.encode_of_decode decoded).symm⟩

end Courier
