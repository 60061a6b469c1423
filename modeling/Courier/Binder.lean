import Courier.Callback.Basic
import Courier.Parcel.Pool
import Courier.Text.Quoted

namespace Courier

/-! Binders: targets of transactions.

A binder in this process runs a handler on every transaction and may carry an
implementation that callers can use without a transaction. -/

/-- The request and the reply of a transaction while it is handled. -/
structure Exchange where
  data : Parcel
  reply : Parcel
deriving DecidableEq, Repr

/-- A step of a handler, which reads the request and writes the reply. -/
abbrev Handling (m : Type → Type) := ExceptT Fault (StateT Exchange m)

namespace Handling

variable {m : Type → Type} [Monad m] {α : Type}

def perform (step : Handling m α) (exchange : Exchange) :
    m (Except Fault α × Exchange) :=
  step.run.run exchange

def read (decoder : Decoder α) : Handling m α :=
  ExceptT.mk fun exchange =>
    let (outcome, data) := exchange.data.read decoder
    pure (outcome, { exchange with data := data })

def reply (bytes : List UInt8) : Handling m Unit :=
  ExceptT.mk fun exchange =>
    pure (.ok (), { exchange with reply := exchange.reply.append bytes })

def attempt (action : m (Except Fault α)) : Handling m α :=
  ExceptT.mk fun exchange => do
    let outcome ← action
    pure (outcome, exchange)

end Handling

/-- Handles transactions: true if it knows the code. -/
structure Handler (m : Type → Type) where
  handle : (code : UInt32) → (flags : Flags) → Handling m Bool

/-- An implementation that a binder hands out to callers in its own process:
a callback, or something of another interface. -/
structure Attachment (m : Type → Type) where
  descriptor : String
  implementation : Option (Callback m)

structure Binder (m : Type → Type) where
  transact : (code : UInt32) → (data : Parcel) → (flags : Flags) → m (Except Fault Status)
  attached : Option (Attachment m) := none

namespace Handler

variable {m : Type → Type} [Monad m]

/-- What every handler does with the codes that it does not claim. -/
def fallback (code : UInt32) : Handling m Bool :=
  pure (code == Transaction.ping)

/-- The status of a transaction after its handler ran.  Nobody learns of the
failure of a one-way transaction, and its reply is empty. -/
def conclude (flags : Flags) (verdict : Except Fault Bool) (reply : Parcel) : Status :=
  match verdict with
  | .ok true => .handled (if flags.isOneWay then reply.clear else reply)
  | .ok false => .unhandled
  | .error fault =>
      .handled (if flags.isOneWay then reply.clear
        else reply.clear.append (Wire.exception fault))

/-- Runs the handler on a copy of the request.  The parcels that are not passed on are
given back. -/
def execute (handler : Handler m) (code : UInt32) (data : Parcel) (flags : Flags)
    (parcels : Supply m := .fresh) : m Status := do
  let incoming ← parcels.obtain
  let reply ← parcels.obtain
  let (verdict, exchange) ←
    (handler.handle code flags).perform ⟨incoming.append data.bytes, reply⟩
  let status := conclude flags verdict exchange.reply
  if !status.isHandled then
    parcels.recycle exchange.reply
  parcels.recycle exchange.data
  return status

end Handler

namespace Binder

variable {m : Type → Type} [Monad m]

def ofHandler (handler : Handler m) (parcels : Supply m := .fresh) : Binder m where
  transact := fun code data flags => Except.ok <$> handler.execute code data flags parcels

/-- Attaches an implementation, in place of the one attached before. -/
def attach (binder : Binder m) (attachment : Attachment m) : Binder m :=
  { binder with attached := some attachment }

omit [Monad m] in
def attachment? (binder : Binder m) (descriptor : String) : Option (Attachment m) :=
  binder.attached.filter fun attachment => attachment.descriptor == descriptor

def ping (binder : Binder m) : m Bool := do
  match ← binder.transact Transaction.ping .empty .none with
  | .ok (.handled _) => return true
  | _ => return false

def interfaceDescriptor (binder : Binder m) : m (Except Fault (Option String)) := do
  match ← binder.transact Transaction.interface .empty .none with
  | .ok (.handled reply) => return (reply.read Decoder.string?).1
  | .ok .unhandled => return .ok none
  | .error fault => return .error fault

omit [Monad m] in
def describe (binder : Binder m) : String :=
  "LocalBinder \x7b descriptor: " ++
    (match binder.attached with
      | some attachment => "Some(" ++ Text.quoted attachment.descriptor ++ ")"
      | none => "None") ++ " \x7d"

end Binder

end Courier
