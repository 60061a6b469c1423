import Courier.Binder
import Courier.Envelope

namespace Courier

/-! Transactions as they are issued, and binders that note what is asked of them. -/

/-- A transaction as it is issued, or as a handler sees it. -/
structure Call where
  code : UInt32
  data : Parcel
  flags : Flags
deriving DecidableEq, Repr

namespace Call

def request (call : Call) : Request :=
  ⟨call.code, call.flags, call.data.bytes⟩

/-- What a handler sees of a call: the request from its first byte on. -/
def seen (call : Call) : Call :=
  { call with data := .ofBytes call.data.bytes }

variable {m : Type → Type}

def issue (binder : Binder m) (call : Call) : m (Except Fault Status) :=
  binder.transact call.code call.data call.flags

end Call

/-- The call that a host makes for a request. -/
def Request.call (request : Request) : Call :=
  ⟨request.code, .ofBytes request.data, request.flags⟩

theorem Request.length_encode (request : Request) :
    request.encode.length = 8 + request.data.length := by
  simp only [encode, List.length_append, length_bigEndian]
  omega

variable {m : Type → Type} [Monad m]

/-- The binder with a journal of what is asked of it. -/
def Binder.recorded (binder : Binder m) : Binder (StateT (List Call) m) where
  transact := fun code data flags => do
    modify fun journal => journal ++ [⟨code, data, flags⟩]
    binder.transact code data flags

theorem Call.issue_recorded [LawfulMonad m] (binder : Binder m) (call : Call) (journal : List Call) :
    (call.issue binder.recorded).run journal =
      (fun outcome => (outcome, journal ++ [call])) <$> call.issue binder := by
  simp [issue, Binder.recorded]

end Courier
