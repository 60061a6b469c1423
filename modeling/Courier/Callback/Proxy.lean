import Courier.Binder
import Courier.Text.Lower

namespace Courier

/-! The sending end of a callback: results go to a binder as transactions.

An acknowledged result waits for the reply and fails if the receiver failed.  A
one-way result that cannot be delivered goes to a fallback instead: the one the
proxy was given, or else the one that is registered at that moment. -/

/-- How a proxy delivers a result. -/
inductive DeliveryPolicy where
  | acknowledged
  | oneWay
deriving DecidableEq, Repr

namespace DeliveryPolicy

def name : DeliveryPolicy → String
  | .acknowledged => "ack"
  | .oneWay => "oneway"

/-- Shows the policy. -/
def describe : DeliveryPolicy → String
  | .acknowledged => "Acknowledged"
  | .oneWay => "OneWay"

/-- Reads the name of a policy, in any case. -/
def parse (text : String) : Except Fault DeliveryPolicy :=
  let lowered := Text.lower text
  if lowered = "ack" || lowered = "acknowledged" then .ok .acknowledged
  else if lowered = "oneway" || lowered = "one-way" then .ok .oneWay
  else .error (.config ("unknown delivery policy: " ++ lowered))

end DeliveryPolicy

/-- A callback that forwards to a binder. -/
structure Proxy (m : Type → Type) where
  remote : Binder m
  policy : DeliveryPolicy := .oneWay
  fallback : Option (Callback m) := none
  registered : m (Option (Callback m))

namespace Proxy

variable {m : Type → Type}

def request (result : Option Bundle) : Draft :=
  Draft.andThen ⟨Wire.interfaceToken Callback.descriptor, none⟩ fun _ =>
    Bundle.writeTyped result

variable [Monad m]

def resolveFallback (proxy : Proxy m) : m (Option (Callback m)) :=
  match proxy.fallback with
  | some callback => pure (some callback)
  | none => proxy.registered

def sendAcknowledged (proxy : Proxy m) (data : Parcel) : m (Except Fault Unit) := do
  match ← proxy.remote.transact Callback.sendResult data .none with
  | .ok (.handled reply) => return (reply.read Decoder.exception).1
  | .ok .unhandled => return .error (.unknownTransaction Callback.sendResult)
  | .error fault => return .error fault

/-- Sends a request and tells whether it was delivered. -/
def sendOneWay (proxy : Proxy m) (data : Parcel) : m (Except Fault Bool) := do
  match ← proxy.remote.transact Callback.sendResult data .oneWay with
  | .ok status => return .ok status.isHandled
  | .error fault => return if fault.isTransport then .ok false else .error fault

/-- Delivers a result.  A result that has no encoding is neither sent nor given
to the fallback. -/
def deliver (proxy : Proxy m) (result : Option Bundle) : m (Except Fault Unit) := do
  let draft := request result
  match draft.fault with
  | some fault => return .error fault
  | none =>
      let data := Parcel.ofBytes draft.bytes
      match proxy.policy with
      | .acknowledged => proxy.sendAcknowledged data
      | .oneWay =>
          match ← proxy.sendOneWay data with
          | .error fault => return .error fault
          | .ok true => return .ok ()
          | .ok false =>
              match ← proxy.resolveFallback with
              | some callback => callback.deliver result
              | none => return .ok ()

def toCallback (proxy : Proxy m) : Callback m where
  deliver := proxy.deliver

omit [Monad m] in
def describe (proxy : Proxy m) : String :=
  "CallbackProxy \x7b policy: " ++ proxy.policy.describe ++ ", has_fallback: " ++
    (if proxy.fallback.isSome then "true" else "false") ++ " \x7d"

end Proxy

/-- What stands for a binder towards its callers. -/
inductive Interface (m : Type → Type) where
  | attached (callback : Callback m)
  | proxied (proxy : Proxy m)

namespace Interface

variable {m : Type → Type} [Monad m]

/-- The callback of a binder: the one that it carries under the name of the
interface, or else a proxy with the default policy. -/
def ofBinder (binder : Binder m) (registered : m (Option (Callback m))) : Interface m :=
  match (binder.attachment? Callback.descriptor).bind Attachment.implementation with
  | some callback => .attached callback
  | none => .proxied { remote := binder, registered := registered }

def toCallback : Interface m → Callback m
  | .attached callback => callback
  | .proxied proxy => proxy.toCallback

end Interface

end Courier
