import Courier.Proofs.Callback.Receipt
import Courier.Proofs.Loopback

namespace Courier

/-! Results arrive at the callback behind a proxy, each once and in order,
whether the proxy holds the binder of the callback or a connection to its host. -/

namespace Proxy

/-- What a proxy reads off the receipt for what the callback returned. -/
def learned (policy : DeliveryPolicy) (outcome : Except Fault Unit) : Except Fault Unit :=
  match policy, outcome with
  | .oneWay, _ => .ok ()
  | .acknowledged, .ok () => .ok ()
  | .acknowledged, .error fault => ((Parcel.ofBytes (Wire.exception fault)).read Decoder.exception).1

/-- What a proxy owes its caller for what the callback returned.  An exception
code of zero stands for no exception. -/
def answer (policy : DeliveryPolicy) (outcome : Except Fault Unit) : Except Fault Unit :=
  match policy, outcome with
  | .oneWay, _ => .ok ()
  | .acknowledged, .ok () => .ok ()
  | .acknowledged, .error fault =>
      if fault.exceptionCode = 0 then .ok () else .error (.remote fault.exceptionCode fault.message)

/-- If the proxy waits for the text of a fault, its length does not wrap. -/
def Legible (policy : DeliveryPolicy) (outcome : Except Fault Unit) : Prop :=
  ∀ fault, policy = .acknowledged → outcome = .error fault →
    (Utf8.bytes fault.message).length < 2 ^ 31

theorem learned_error {fault : Fault} (bounded : (Utf8.bytes fault.message).length < 2 ^ 31) :
    learned .acknowledged (.error fault) = answer .acknowledged (.error fault) := by
  by_cases unlisted : fault.exceptionCode = 0
  · have header : Wire.exception fault = Wire.noException ++ Wire.string fault.message := by
      rw [Wire.exception, unlisted]
      rfl
    have found := @Parcel.read_taken _ _ _ _ _ Decoder.takes_noException
      (.ofBytes (Wire.exception fault)) header
    simp only [learned, answer, found, unlisted, if_true]
  · have found := @Parcel.read_raised _ _ _ _ _ (Decoder.raises_exception unlisted bounded)
      (.ofBytes (Wire.exception fault)) (List.append_nil _).symm
    simp only [learned, answer, found, unlisted, if_false]

theorem learned_eq_answer {policy : DeliveryPolicy} {outcome : Except Fault Unit}
    (legible : Legible policy outcome) : learned policy outcome = answer policy outcome := by
  cases policy with
  | oneWay => rfl
  | acknowledged =>
      cases outcome with
      | ok done => rfl
      | error fault => exact learned_error (legible fault rfl rfl)

variable {m : Type → Type} [Monad m] [LawfulMonad m] {result : Option Bundle}

/-- A result whose request can be written reaches the callback as the request has
it. -/
theorem deliver_drafted (callback : Callback m) {proxy : Proxy m}
    (held : proxy.remote = callback.toBinder) (drafted : (request result).fault = none) :
    proxy.deliver result =
      learned proxy.policy <$> callback.deliverFrom (request result).bytes := by
  unfold deliver
  simp only [drafted]
  cases chosen : proxy.policy with
  | acknowledged =>
      simp only [sendAcknowledged, held, callback.transact_sendResult, bind_map_left]
      rw [map_eq_pure_bind (learned _)]
      refine bind_congr fun outcome => ?_
      cases outcome <;> rfl
  | oneWay =>
      simp only [sendOneWay, held, callback.transact_sendResult, bind_map_left, bind_assoc,
        pure_bind]
      rw [map_eq_pure_bind (learned _)]
      refine bind_congr fun outcome => ?_
      cases outcome <;> rfl

theorem deliver_local (callback : Callback m) {proxy : Proxy m}
    (held : proxy.remote = callback.toBinder) (encodable : Encodable result) :
    proxy.deliver result = learned proxy.policy <$> callback.deliver result := by
  rw [deliver_drafted callback held (fault_request encodable),
    callback.deliverFrom_request encodable]

/-- The flags of the transaction in which a proxy delivers a result. -/
def flags : DeliveryPolicy → Flags
  | .acknowledged => .none
  | .oneWay => .oneWay

/-- What comes of a delivery over a connection, and the client's end of it then. -/
def settled (address : String) (host : Host) (number : Nat) (policy : DeliveryPolicy)
    (outcome : Except Fault Unit) : Except Fault Unit × Remote Host :=
  let reply := Reply.ofOutcome (.ok (Callback.receipt (flags policy) outcome))
  if reply.encode.length ≤ Limits.message then
    (learned policy outcome, Loopback.idle address (host.keep number []))
  else (.error (.deadObject address), Loopback.broken address)

theorem deliver_remote (callback : Callback m) {host : Host} {number : Nat} {address : String}
    (opened : host.pending? number = some []) {proxy : Proxy (Session m Host)}
    (held : proxy.remote = Remote.binder (Loopback.peer callback.toBinder number))
    (encodable : Encodable result)
    (fits : (Request.encode
      ⟨Callback.sendResult, flags proxy.policy, (request result).bytes⟩).length ≤ Limits.message) :
    ((proxy.deliver result).run (Loopback.idle address host)).run =
      (fun outcome => some (settled address host number proxy.policy outcome)) <$>
        callback.deliver result := by
  have sent := @Loopback.issue_idle _ _ _ callback.toBinder number address host opened
    ⟨Callback.sendResult, .ofBytes (request result).bytes, flags proxy.policy⟩ fits
  simp only [Call.issue, Call.seen, Parcel.bytes_ofBytes, callback.transact_request encodable,
    Functor.map_map, ← held] at sent
  unfold deliver
  simp only [fault_request encodable]
  cases chosen : proxy.policy with
  | acknowledged =>
      rw [chosen, flags] at sent
      simp only [sendAcknowledged]
      rw [Remote.run_bind_settled sent, map_eq_pure_bind]
      refine bind_congr fun outcome => ?_
      have awaited : Flags.none.isOneWay = false := rfl
      by_cases replyFits : (Reply.ofOutcome (.ok (Callback.receipt .none outcome))).encode.length ≤
          Limits.message
      · simp only [settled, Loopback.settled, flags, awaited, replyFits, if_true]
        cases outcome <;> rfl
      · simp only [settled, Loopback.settled, flags, awaited, replyFits, if_false]
        rfl
  | oneWay =>
      rw [chosen, flags] at sent
      simp only [sendOneWay, bind_assoc]
      rw [Remote.run_bind_settled sent, map_eq_pure_bind]
      refine bind_congr fun outcome => ?_
      have unawaited : Flags.oneWay.isOneWay = true := rfl
      have silent : Callback.receipt .oneWay outcome = .handled .empty := rfl
      have small : (Reply.ofOutcome (.ok (.handled .empty))).encode.length ≤ Limits.message := by
        decide
      simp only [settled, Loopback.settled, flags, unawaited, silent, small, if_true, pure_bind]
      rfl

end Proxy

end Courier
