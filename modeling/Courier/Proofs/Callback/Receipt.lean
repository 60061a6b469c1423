import Courier.Callback.Proxy
import Courier.Proofs.Bundle.RoundTrip
import Courier.Proofs.Callback.Dispatch
import Courier.Proofs.Parcel.Headers

namespace Courier

/-! One result on its way from a proxy to a callback in the same process, and
what comes back. -/

/-- The result has an encoding, in which no count wraps. -/
def Encodable (result : Option Bundle) : Prop :=
  ∀ bundle, result = some bundle →
    bundle.depth ≤ Limits.bundleDepth ∧ bundle.write.bytes.length < 2 ^ 31

theorem takes_writeTyped {result : Option Bundle} (encodable : Encodable result) :
    (Decoder.typed Decoder.bundle).Takes (Bundle.writeTyped result).bytes result := by
  apply Decoder.takes_typed fun _ _ taken => taken
  cases result with
  | none => exact .absent
  | some bundle =>
      obtain ⟨shallow, bounded⟩ := encodable bundle rfl
      exact .present (by decide) (Bundle.takes_write shallow bounded)

namespace Proxy

theorem fault_request_some (bundle : Bundle) :
    (request (some bundle)).fault =
      if bundle.depth ≤ Limits.bundleDepth then none else some (.unencodable .nestedTooDeep) := by
  rw [request, Draft.fault_andThen, Bundle.writeTyped, Draft.fault_andThen, Bundle.fault_write]
  rfl

theorem fault_request {result : Option Bundle} (encodable : Encodable result) :
    (request result).fault = none := by
  cases result with
  | none => rfl
  | some bundle => rw [fault_request_some, if_pos (encodable bundle rfl).1]

theorem bytes_request (result : Option Bundle) :
    (request result).bytes =
      Wire.interfaceToken Callback.descriptor ++ (Bundle.writeTyped result).bytes :=
  @Draft.bytes_andThen ⟨Wire.interfaceToken Callback.descriptor, none⟩ rfl _

theorem read_token (result : Option Bundle) :
    (Parcel.ofBytes (request result).bytes).read (Decoder.enforceInterface Callback.descriptor) =
      (.ok (), ⟨(request result).bytes, (Wire.interfaceToken Callback.descriptor).length⟩) := by
  have taken := Decoder.takes_enforceInterface
    (@Decoder.tokenForm_interfaceToken Callback.descriptor (by decide))
  have found := @Parcel.read_taken _ _ _ _ _ taken (.ofBytes (request result).bytes)
    (bytes_request result)
  rwa [Parcel.ofBytes, Nat.zero_add] at found

theorem read_result {result : Option Bundle} (encodable : Encodable result) :
    Parcel.read ⟨(request result).bytes, (Wire.interfaceToken Callback.descriptor).length⟩
        (Decoder.typed Decoder.bundle) =
      (.ok result, ⟨(request result).bytes, (request result).bytes.length⟩) := by
  have unread : (request result).bytes.drop (Wire.interfaceToken Callback.descriptor).length =
      (Bundle.writeTyped result).bytes ++ [] := by
    rw [bytes_request, List.drop_left, List.append_nil]
  have found := @Parcel.read_taken _ _ _ _ _ (takes_writeTyped encodable)
    ⟨(request result).bytes, (Wire.interfaceToken Callback.descriptor).length⟩ unread
  rwa [← List.length_append, ← bytes_request] at found

end Proxy

namespace Callback

variable {m : Type → Type} [Monad m]

theorem received_request {result : Option Bundle} (encodable : Encodable result) :
    received (Proxy.request result).bytes = .ok result := by
  simp only [received, Proxy.read_token, Proxy.read_result encodable]

theorem deliverFrom_request (callback : Callback m) {result : Option Bundle}
    (encodable : Encodable result) :
    callback.deliverFrom (Proxy.request result).bytes = callback.deliver result := by
  rw [deliverFrom, received_request encodable]

variable [LawfulMonad m]

theorem transact_sendResult (callback : Callback m) (data : Parcel) (flags : Flags) :
    callback.toBinder.transact sendResult data flags =
      (fun outcome => .ok (receipt flags outcome)) <$> callback.deliverFrom data.bytes := by
  change Except.ok <$> callback.stub.execute _ _ _ = _
  rw [callback.execute_sendResult, Functor.map_map]

/-- Every result that has an encoding is delivered once, and its receipt tells
what the callback returned. -/
theorem transact_request (callback : Callback m) {result : Option Bundle}
    (encodable : Encodable result) (flags : Flags) :
    callback.toBinder.transact sendResult (.ofBytes (Proxy.request result).bytes) flags =
      (fun outcome => .ok (receipt flags outcome)) <$> callback.deliver result := by
  rw [transact_sendResult, Parcel.bytes_ofBytes, callback.deliverFrom_request encodable]

end Callback

end Courier
