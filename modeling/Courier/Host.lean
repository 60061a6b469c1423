import Courier.Connection

namespace Courier

/-! A host: one binder for many connections.

Every new connection takes a slot while there are free ones and is told that the
host is busy otherwise.  An admitted connection gives its slot back when it
ends, whichever way it ends.

A shutdown is a signal.  The listener and the connections take notice of it on their
own, each at its time: new connections may be admitted after the signal, and open
ones may be served. -/

/-- Slots for connections: how many there are and how many are taken. -/
structure Slots where
  limit : Nat
  active : Nat := 0
deriving DecidableEq, Repr

namespace Slots

def acquire? (slots : Slots) : Option Slots :=
  if slots.active < slots.limit then some { slots with active := slots.active + 1 } else none

def release (slots : Slots) : Slots :=
  { slots with active := slots.active - 1 }

end Slots

/-- How far a host is with shutting down: the signal comes before the listener ends. -/
inductive Host.Phase where
  | running
  | signalled
  | withdrawn
deriving DecidableEq, Repr

/-- A host and its open connections, by their numbers, with the bytes that each
of them has not served yet. -/
structure Host where
  slots : Slots
  connections : List (Nat × List UInt8) := []
  phase : Host.Phase := .running
deriving DecidableEq, Repr

namespace Host

/-- A host that admits at most `limit` connections at a time. -/
def start (limit : Nat) : Host :=
  { slots := ⟨limit, 0⟩ }

/-- The host has not been told to shut down. -/
def running (host : Host) : Bool :=
  host.phase == .running

/-- The host takes note of new connections. -/
def listening (host : Host) : Bool :=
  host.phase != .withdrawn

def active (host : Host) : Nat :=
  host.slots.active

def pending? (host : Host) (number : Nat) : Option (List UInt8) :=
  (host.connections.find? fun connection => connection.1 == number).map Prod.snd

/-- Removes an open connection and gives its slot back. -/
def close (host : Host) (number : Nat) : Host :=
  { host with
    slots := host.slots.release
    connections := host.connections.filter fun connection => connection.1 != number }

/-- Keeps the bytes that an open connection has not served yet. -/
def keep (host : Host) (number : Nat) (pending : List UInt8) : Host :=
  { host with
    connections := host.connections.map fun connection =>
      if connection.1 == number then (number, pending) else connection }

inductive Event where
  | connect (number : Nat)
  | receive (number : Nat) (bytes : List UInt8)
  /-- A connection ends: its peer has left, or does not take what is written to it, or the
  connection has taken notice of the shutdown. -/
  | leave (number : Nat)
  /-- The host is told to shut down. -/
  | shutdown
  /-- The listener ends, if the host was told to shut down. -/
  | withdraw
deriving DecidableEq, Repr

/-- What a host sends on a connection, and whether it closes it then. -/
structure Emission where
  number : Nat
  sent : List UInt8
  closed : Bool := false
deriving DecidableEq, Repr

variable {m : Type → Type} [Monad m]

/-- Takes a new connection in, or turns it away.  A number that is in use is not
that of a new connection. -/
def accept (host : Host) (number : Nat) : Host × List Emission :=
  if (host.pending? number).isSome then (host, [])
  else if !host.listening then (host, [⟨number, [], true⟩])
  else
    match host.slots.acquire? with
    | some slots =>
        ({ host with slots := slots, connections := host.connections ++ [(number, [])] },
          [⟨number, Frame.encode Admission.accepted.encode, false⟩])
    | none => (host, [⟨number, Frame.encode Admission.busy.encode, true⟩])

/-- Serves the bytes that arrive on a connection. -/
def receive (binder : Binder m) (host : Host) (number : Nat) (bytes : List UInt8)
    (parcels : Supply m := .fresh) : m (Host × List Emission) := do
  match host.pending? number with
  | none => return (host, [])
  | some pending =>
      let progress ← Connection.serve binder (pending ++ bytes) parcels
      match progress.pending with
      | some rest => return (host.keep number rest, [⟨number, progress.sent, false⟩])
      | none => return (host.close number, [⟨number, progress.sent, true⟩])

/-- Forgets a connection that has ended. -/
def leave (host : Host) (number : Nat) : Host × List Emission :=
  match host.pending? number with
  | none => (host, [])
  | some _ => (host.close number, [⟨number, [], true⟩])

def shutdown (host : Host) : Host :=
  if host.running then { host with phase := .signalled } else host

def withdraw (host : Host) : Host :=
  if host.running then host else { host with phase := .withdrawn }

def step (binder : Binder m) (host : Host) (event : Event) (parcels : Supply m := .fresh) :
    m (Host × List Emission) :=
  match event with
  | .connect number => pure (host.accept number)
  | .receive number bytes => host.receive binder number bytes parcels
  | .leave number => pure (host.leave number)
  | .shutdown => pure (host.shutdown, [])
  | .withdraw => pure (host.withdraw, [])

/-- Runs events in order. -/
def run (binder : Binder m) (host : Host) (events : List Event) (parcels : Supply m := .fresh) :
    m (Host × List Emission) :=
  match events with
  | [] => pure (host, [])
  | event :: rest => do
      let (host, emissions) ← host.step binder event parcels
      let (host, later) ← run binder host rest parcels
      return (host, emissions ++ later)

/-- The bytes that a connection receives from a host. -/
def sentTo (number : Nat) (emissions : List Emission) : List UInt8 :=
  (emissions.filter fun emission => emission.number == number).flatMap Emission.sent

end Host

end Courier
