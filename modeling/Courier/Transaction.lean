import Courier.Parcel.Basic

namespace Courier

/-! Transactions: a code, a request and flags, answered by a status. -/

/-- The flag bits of a transaction.  Bits without a meaning are kept. -/
structure Flags where
  bits : UInt32 := 0
deriving DecidableEq, Repr

namespace Flags

def none : Flags := {}

/-- Nobody waits for a reply. -/
def oneWay : Flags := ⟨1⟩

def isOneWay (flags : Flags) : Bool :=
  flags.bits &&& oneWay.bits != 0

end Flags

inductive Status where
  | handled (reply : Parcel)
  | unhandled
deriving DecidableEq, Repr

namespace Status

def isHandled : Status → Bool
  | .handled _ => true
  | .unhandled => false

end Status

namespace Transaction

/-! Codes.  The codes from `firstCall` to `lastCall` belong to the interface of
the target; `ping` and `interface` are answered by every target. -/

def firstCall : UInt32 := 0x00000001
def lastCall : UInt32 := 0x00ffffff

/-- Asks whether the target answers: the letters _PNG. -/
def ping : UInt32 := 0x5F504E47

/-- Asks for the name of the target's interface: the letters _NTF. -/
def interface : UInt32 := 0x5F4E5446

/-- The code belongs to the interface of the target. -/
def isCall (code : UInt32) : Bool :=
  firstCall ≤ code && code ≤ lastCall

end Transaction

end Courier
