import Courier.Binder
import Courier.Envelope
import Courier.Frame

namespace Courier.Connection

/-! One admitted connection of a host.

The connection answers the requests that have arrived in full, in order, and
keeps the bytes of the next one until the rest of it comes.  It ends at a frame
that is too large, at a request that is too short, and at a reply that no frame
holds. -/

variable {m : Type → Type} [Monad m]

structure Progress where
  sent : List UInt8
  /-- The bytes that wait for more, or nothing if the connection has ended. -/
  pending : Option (List UInt8)
deriving DecidableEq, Repr

/-- Gives back the parcel of an outcome that nobody waits for. -/
def discard (parcels : Supply m) : Except Fault Status → m Unit
  | .ok (.handled reply) => parcels.recycle reply
  | .ok .unhandled | .error _ => pure ()

/-- The reply for what came of a transaction; a fault travels as an exception.  The
parcel with the bytes of the reply is given back. -/
def conclude (parcels : Supply m) : Except Fault Status → m Reply
  | .ok (.handled reply) => do
      parcels.recycle reply
      return ⟨true, reply.bytes⟩
  | .ok .unhandled => return ⟨false, []⟩
  | .error fault => do
      let parcel ← parcels.obtain
      let reply := parcel.append (Wire.exception fault)
      parcels.recycle reply
      return ⟨true, reply.bytes⟩

/-- Runs a transaction and gives its reply, if somebody waits for it. -/
def answer (binder : Binder m) (request : Request) (parcels : Supply m := .fresh) :
    m (Option Reply) := do
  let outcome ← binder.transact request.code (.ofBytes request.data) request.flags
  if request.flags.isOneWay then
    discard parcels outcome
    return none
  else return some (← conclude parcels outcome)

/-- The frame of a reply, which is empty where there is none. -/
def replyFrame : Option Reply → Except Fault (List UInt8)
  | none => .ok []
  | some reply => Frame.encode? reply.encode

/-- Serves the requests at the front of the bytes that have arrived. -/
def serve (binder : Binder m) (received : List UInt8) (parcels : Supply m := .fresh) :
    m Progress :=
  match found : Frame.front received with
  | .incomplete => pure ⟨[], some received⟩
  | .oversized _ _ => pure ⟨[], none⟩
  | .frame payload rest =>
      have : rest.length < received.length := Frame.length_lt_of_front found
      match Request.decode payload with
      | .error _ => pure ⟨[], none⟩
      | .ok request => do
          let reply ← answer binder request parcels
          match replyFrame reply with
          | .error _ => return ⟨[], none⟩
          | .ok sent =>
              let progress ← serve binder rest parcels
              return { progress with sent := sent ++ progress.sent }
termination_by received.length

end Courier.Connection
