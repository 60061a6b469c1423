import Courier.Binder
import Courier.Envelope
import Courier.Frame

namespace Courier

/-! The client's end of a connection to a host.

What the other end does is left open: a `Peer` tells what it sends back for
everything that reaches it, and whether it closes.  Once the connection breaks
the remote binder is dead for good. -/

/-- What reaches a peer. -/
inductive Stimulus where
  | connected
  /-- Nothing, since the last time. -/
  | idle
  | received (bytes : List UInt8)
deriving DecidableEq, Repr

structure Reaction (π : Type) where
  peer : π
  accepted : Bool := true
  sent : List UInt8 := []
  /-- The peer closes behind what it sent. -/
  closed : Bool := false

/-- The other end of a connection, with states in `π`. -/
structure Peer (m : Type → Type) (π : Type) where
  react : π → Stimulus → m (Reaction π)

/-- The peer at an address where nobody listens. -/
def Peer.unreachable {m : Type → Type} [Pure m] : Peer m Unit where
  react := fun _ _ => pure { peer := (), accepted := false }

/-- An open stream: the peer, the bytes of it that are not read yet, and whether
it has closed behind them. -/
structure Link (π : Type) where
  peer : π
  unread : List UInt8 := []
  closed : Bool := false
deriving DecidableEq, Repr

def Link.after {π : Type} (link : Link π) (reaction : Reaction π) : Link π :=
  if link.closed then { link with peer := reaction.peer }
  else ⟨reaction.peer, link.unread ++ reaction.sent, reaction.closed⟩

/-- The stream is known to be closed: nothing is left to read. -/
def Link.hungUp {π : Type} (link : Link π) : Bool :=
  link.closed && link.unread.isEmpty

/-- A binder behind a connection.  Without a stream it is dead. -/
structure Remote (π : Type) where
  address : String
  link : Option (Link π)
deriving DecidableEq, Repr

/-- Calls through a remote binder.  A call that waits for a peer which neither
answers nor closes has no result. -/
abbrev Session (m : Type → Type) (π : Type) := StateT (Remote π) (OptionT m)

namespace Remote

variable {m : Type → Type} [Monad m] {π : Type}

/-- Connects to a host.  A host that is not there, is busy, or does not admit
the connection in time leaves a dead object. -/
def connect (peer : Peer m π) (initial : π) (address : String) :
    m (Except Fault (Remote π)) := do
  let reaction ← peer.react initial .connected
  let link := Link.after ⟨initial, [], false⟩ reaction
  if !reaction.accepted then return .error (.deadObject address)
  else
    match Frame.front link.unread with
    | .frame payload rest =>
        match Admission.decode payload with
        | .ok .accepted => return .ok ⟨address, some { link with unread := rest }⟩
        | _ => return .error (.deadObject address)
    | _ => return .error (.deadObject address)

def die {α : Type} : Session m π (Except Fault α) := do
  let remote : Remote π ← get
  set ({ remote with link := none } : Remote π)
  return .error (.deadObject remote.address)

/-- The stream, with what the peer has done meanwhile. -/
def look (peer : Peer m π) : Session m π (Option (Link π)) := do
  let remote : Remote π ← get
  match remote.link with
  | none => return none
  | some link =>
      let link := link.after (← peer.react link.peer .idle)
      set ({ remote with link := some link } : Remote π)
      return some link

def isAlive (peer : Peer m π) : Session m π Bool := do
  match ← look peer with
  | none => return false
  | some link => return !link.hungUp

def receive (link : Link π) : Session m π (Except Fault Status) := do
  match Frame.front link.unread with
  | .frame payload rest =>
      modify fun remote => { remote with link := some { link with unread := rest } }
      return (Reply.decode payload).map Reply.toStatus
  | .oversized _ _ => die
  | .incomplete => if link.closed then die else failure

/-- Sends a request and, unless it is one-way, waits for the reply.  A request
that no frame holds is refused before anything else. -/
def transact (peer : Peer m π) (code : UInt32) (data : Parcel) (flags : Flags) :
    Session m π (Except Fault Status) := do
  match Frame.encode? (Request.encode ⟨code, flags, data.bytes⟩) with
  | .error fault => return .error fault
  | .ok frame =>
      let remote : Remote π ← get
      match ← look peer with
      | none => return .error (.deadObject remote.address)
      | some link =>
          if link.hungUp then die
          else
            let reaction ← peer.react link.peer (.received frame)
            let link := link.after reaction
            if !reaction.accepted then die
            else if flags.isOneWay then
              modify fun remote => { remote with link := some link }
              return .ok (.handled .empty)
            else receive link

def binder (peer : Peer m π) : Binder (Session m π) where
  transact := transact peer

end Remote

end Courier
