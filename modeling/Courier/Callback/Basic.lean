import Courier.Bundle.Basic
import Courier.Fault
import Courier.Transaction

namespace Courier

/-! Callbacks: receivers of a result.

A callback runs in a monad `m` of effects, which the library leaves open. -/

structure Callback (m : Type → Type) where
  /-- Delivers a result, which may be absent. -/
  deliver : Option Bundle → m (Except Fault Unit)

namespace Callback

/-- The name of the interface, carried by every request. -/
def descriptor : String := "me.zhanghai.android.files.util.IRemoteCallback"

/-- The code of the transaction that delivers a result. -/
def sendResult : UInt32 := Transaction.firstCall

/-- Takes every result and drops it. -/
def noop {m : Type → Type} [Pure m] : Callback m where
  deliver := fun _ => pure (.ok ())

end Callback

end Courier
