import Courier.Frame
import Courier.Proofs.Parcel.Fields

namespace Courier.Frame

/-! What stands at the front of the bytes that have arrived.

A payload within the limit comes off the front of its frame, and nothing but a
frame gives a payload. -/

variable {payload : List UInt8}

theorem encode?_of_le (fits : payload.length ≤ Limits.message) :
    encode? payload = .ok (encode payload) := by
  rw [encode?, checkSize, if_neg (Nat.not_lt.2 fits)]

theorem encode?_of_lt (large : Limits.message < payload.length) :
    encode? payload = .error (.payloadTooLarge payload.length Limits.message) := by
  rw [encode?, checkSize, if_pos large]

/-- The length in front of a payload within the limit does not wrap. -/
theorem ofBigEndian_length (fits : payload.length ≤ Limits.message) :
    ofBigEndian (bigEndian 4 payload.length) = payload.length := by
  rw [ofBigEndian_bigEndian]
  exact Nat.mod_eq_of_lt (Nat.lt_of_le_of_lt fits (by decide))

theorem length_encode (payload : List UInt8) : (encode payload).length = 4 + payload.length := by
  rw [encode, List.length_append, length_bigEndian]

theorem front_encode (fits : payload.length ≤ Limits.message) (rest : List UInt8) :
    front (encode payload ++ rest) = .frame payload rest := by
  have measured := ofBigEndian_length fits
  have width := length_bigEndian 4 payload.length
  unfold encode
  generalize bigEndian 4 payload.length = header at measured width
  match header, width with
  | [first, second, third, fourth], _ =>
      have enough : Decoder.holds (payload ++ rest) payload.length = true := by
        rw [Decoder.holds_iff, List.length_append]
        exact Nat.le_add_right _ _
      simp only [List.cons_append, List.nil_append, front, measured]
      rw [if_neg (Nat.not_lt.2 fits), if_pos enough, List.take_left, List.drop_left]

/-- The size that the bytes in front announce. -/
def declared (received : List UInt8) : Nat :=
  ofBigEndian (received.take 4)

theorem front_eq (received : List UInt8) :
    front received =
      if received.length < 4 then .incomplete
      else if Limits.message < declared received then
        .oversized (declared received) (received.drop 4)
      else if received.length < 4 + declared received then .incomplete
      else .frame ((received.drop 4).take (declared received))
        ((received.drop 4).drop (declared received)) := by
  match received with
  | [] | [_] | [_, _] | [_, _, _] => rfl
  | first :: second :: third :: fourth :: rest =>
      have header : ¬ (first :: second :: third :: fourth :: rest).length < 4 := by
        simp only [List.length_cons]
        omega
      have announced : declared (first :: second :: third :: fourth :: rest) =
          ofBigEndian [first, second, third, fourth] := rfl
      rw [if_neg header, announced]
      simp only [front]
      by_cases large : Limits.message < ofBigEndian [first, second, third, fourth]
      · rw [if_pos large, if_pos large]
        rfl
      · rw [if_neg large, if_neg large]
        simp only [Decoder.holds_iff, List.length_cons]
        by_cases enough : ofBigEndian [first, second, third, fourth] ≤ rest.length
        · rw [if_pos enough, if_neg (by omega)]
          rfl
        · rw [if_neg enough, if_pos (by omega)]

theorem front_eq_incomplete {received : List UInt8} :
    front received = .incomplete ↔
      received.length < 4 ∨
        declared received ≤ Limits.message ∧ received.length < 4 + declared received := by
  rw [front_eq]
  split
  · simp [*]
  · split
    · simp only [reduceCtorEq, false_iff]
      omega
    · split
      · simp only [true_iff]
        omega
      · simp only [reduceCtorEq, false_iff]
        omega

theorem front_eq_oversized {received rest : List UInt8} {size : Nat} :
    front received = .oversized size rest ↔
      4 ≤ received.length ∧ Limits.message < declared received ∧
        size = declared received ∧ rest = received.drop 4 := by
  rw [front_eq]
  split
  · simp only [reduceCtorEq, false_iff]
    omega
  · split
    · rename_i header large
      simp only [Front.oversized.injEq, Nat.not_lt.1 header, large, true_and, eq_comm]
    · split <;> simp only [reduceCtorEq, false_iff] <;> omega

theorem front_eq_frame {received rest : List UInt8} :
    front received = .frame payload rest ↔
      payload.length ≤ Limits.message ∧ received = encode payload ++ rest := by
  constructor
  · intro found
    rw [front_eq] at found
    split at found
    · contradiction
    · split at found
      · contradiction
      · split at found
        · contradiction
        · rename_i headed large cut
          injection found with taken left
          have width : (received.take 4).length = 4 := by
            rw [List.length_take]
            omega
          have size : payload.length = declared received := by
            rw [← taken, List.length_take, List.length_drop]
            omega
          have header := bigEndian_ofBigEndian (received.take 4)
          rw [width] at header
          refine ⟨by omega, ?_⟩
          rw [encode, size, declared, header, List.append_assoc, ← taken, ← left, List.take_append_drop,
            List.take_append_drop]
  · rintro ⟨fits, rfl⟩
    exact front_encode fits rest

end Courier.Frame
