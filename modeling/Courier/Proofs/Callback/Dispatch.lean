import Courier.Callback.Stub
import Courier.Proofs.Handling

namespace Courier.Callback

/-! What the stub of a callback does with any transaction at all.

The code and the data of a transaction decide what it demands of the stub, and
whether the callback gets to see it. -/

/-- The result that the data carry behind the token of the interface. -/
def received (data : List UInt8) : Except Fault (Option Bundle) :=
  match (Parcel.ofBytes data).read (Decoder.enforceInterface descriptor) with
  | (.ok (), body) => (body.read (Decoder.typed Decoder.bundle)).1
  | (.error fault, _) => .error fault

inductive Demand where
  | delivery (result : Option Bundle)
  | description
  /-- Left to what every handler does. -/
  | unclaimed

def demand (code : UInt32) (data : List UInt8) : Except Fault Demand :=
  if code = sendResult then (received data).map .delivery
  else if Transaction.isCall code then
    ((Parcel.ofBytes data).read (Decoder.enforceInterface descriptor)).1.map fun _ => .unclaimed
  else if code = Transaction.interface then .ok .description
  else .ok .unclaimed

/-- The status of a transaction that delivered a result. -/
def receipt (flags : Flags) (outcome : Except Fault Unit) : Status :=
  .handled
    (if flags.isOneWay then .empty
      else
        match outcome with
        | .ok () => .ofBytes Wire.noException
        | .error fault => .ofBytes (Wire.exception fault))

variable {m : Type → Type} [Monad m] [LawfulMonad m]

/-- Delivers the result that the data carry. -/
def deliverFrom (callback : Callback m) (data : List UInt8) : m (Except Fault Unit) :=
  match received data with
  | .ok result => callback.deliver result
  | .error fault => pure (.error fault)

/-- The reply behind a delivery, which acknowledges it if somebody waits for that. -/
def acknowledged (flags : Flags) (outcome : Except Fault Unit) (reply : Parcel) : Parcel :=
  match outcome with
  | .ok () => if flags.isOneWay then reply else reply.append Wire.noException
  | .error _ => reply

/-- All that the stub does with a transaction. -/
theorem perform_stub (callback : Callback m) (code : UInt32) (flags : Flags) (data : List UInt8)
    (reply : Parcel) :
    (fun handled => (handled.1, handled.2.reply)) <$>
        (callback.stub.handle code flags).perform ⟨.ofBytes data, reply⟩ =
      match demand code data with
      | .ok (.delivery result) =>
          (fun outcome => (outcome.map fun _ => true, acknowledged flags outcome reply)) <$>
            callback.deliver result
      | .ok .description => pure (.ok true, reply.append (Wire.string descriptor))
      | .ok .unclaimed => pure (.ok (code == Transaction.ping), reply)
      | .error fault => pure (.error fault, reply) := by
  unfold demand stub
  by_cases delivers : code = sendResult
  · subst delivers
    have call : Transaction.isCall sendResult = true := by decide
    have other : sendResult ≠ Transaction.interface := by decide
    unfold received
    simp only [call, other, if_true, if_false, Handling.perform_bind, Handling.perform_read,
      pure_bind]
    obtain ⟨entered, body⟩ := (Parcel.ofBytes data).read (Decoder.enforceInterface descriptor)
    cases entered with
    | error fault => simp [Except.map]
    | ok done =>
        dsimp only
        cases (body.read (Decoder.typed Decoder.bundle)).1 with
        | error fault => simp [Except.map]
        | ok result =>
            simp only [Handling.perform_attempt, bind_assoc, pure_bind, Except.map, map_bind]
            rw [map_eq_pure_bind]
            refine bind_congr fun outcome => ?_
            cases outcome with
            | error fault => simp [acknowledged]
            | ok done =>
                cases oneWay : flags.isOneWay <;>
                  simp [acknowledged, oneWay, Handling.perform_map, Handling.perform_reply, Except.map]
  · rw [if_neg delivers]
    by_cases call : Transaction.isCall code = true
    · have other : code ≠ Transaction.interface := by
        rintro rfl
        exact absurd call (by decide)
      simp only [call, if_true, other, delivers, if_false, Handling.perform_bind,
        Handling.perform_read, pure_bind]
      cases ((Parcel.ofBytes data).read (Decoder.enforceInterface descriptor)).1 with
      | error fault => simp [Except.map]
      | ok done => simp [Except.map, Handler.fallback]
    · simp only [call, if_false, delivers]
      by_cases described : code = Transaction.interface
      · simp [described, Handling.perform_map, Handling.perform_reply, Except.map]
      · simp [described, Handler.fallback]

theorem execute_stub (callback : Callback m) (code : UInt32) (data : Parcel) (flags : Flags) :
    callback.stub.execute code data flags =
      match demand code data.bytes with
      | .ok (.delivery result) => receipt flags <$> callback.deliver result
      | .ok .description =>
          pure (Handler.conclude flags (.ok true) (.ofBytes (Wire.string descriptor)))
      | .ok .unclaimed =>
          pure (Handler.conclude flags (.ok (code == Transaction.ping)) .empty)
      | .error fault => pure (Handler.conclude flags (.error fault) .empty) := by
  rw [Handler.execute_eq, perform_stub]
  cases demand code data.bytes with
  | error fault => simp
  | ok demanded =>
      cases demanded with
      | description => simp [Parcel.append, Parcel.empty, Parcel.ofBytes]
      | unclaimed => simp
      | delivery result =>
          rw [Functor.map_map]
          refine map_congr fun outcome => ?_
          cases outcome with
          | error fault => rfl
          | ok done =>
              cases oneWay : flags.isOneWay <;>
                simp [receipt, acknowledged, Handler.conclude, oneWay, Except.map, Parcel.append, Parcel.clear,
                  Parcel.empty, Parcel.ofBytes]

/-- A fault of the data and one of the callback are answered alike. -/
theorem execute_sendResult (callback : Callback m) (data : Parcel) (flags : Flags) :
    callback.stub.execute sendResult data flags =
      receipt flags <$> callback.deliverFrom data.bytes := by
  rw [execute_stub, demand, if_pos rfl, deliverFrom]
  cases received data.bytes with
  | ok result => rfl
  | error fault => exact (map_pure (receipt flags) (.error fault)).symm

end Courier.Callback
