import Courier.Limits
import Courier.Parcel.Basic

namespace Courier

/-! Recycled parcels.

Every thread keeps a few idle buffers.  A parcel that is obtained is the buffer that
was given back last, or a new one, and a parcel that is done with is cleared before
its buffer is kept.  A task may go on on another thread at any time, so a parcel can
go back to another pool than the one it comes from. -/

/-- The idle buffers of a thread, the one that was given back last in front. -/
structure Pool where
  idle : List (List UInt8)
  cleared : ∀ buffer ∈ idle, buffer = []
  bounded : idle.length ≤ Limits.idleBuffers

namespace Pool

def empty : Pool where
  idle := []
  cleared := List.forall_mem_nil _
  bounded := Nat.zero_le _

/-- Makes a parcel of an idle buffer, or of a new one. -/
def obtain (pool : Pool) : Parcel × Pool :=
  (.ofBytes (pool.idle.head?.getD []),
    { idle := pool.idle.tail
      cleared := fun buffer member => pool.cleared buffer (List.mem_of_mem_tail member)
      bounded := Nat.le_trans (by rw [List.length_tail]; exact Nat.sub_le _ _) pool.bounded })

/-- Clears a parcel and keeps its buffer, if there is room. -/
def recycle (pool : Pool) (parcel : Parcel) : Pool :=
  if room : pool.idle.length < Limits.idleBuffers then
    { idle := parcel.clear.bytes :: pool.idle
      cleared := List.forall_mem_cons.2 ⟨rfl, pool.cleared⟩
      bounded := room }
  else pool

end Pool

/-- The pools of all threads, and the threads on which they are used from now on. -/
structure Threads where
  pools : (thread : Nat) → Pool
  schedule : (turn : Nat) → Nat

/-- Uses the pool of the thread whose turn it is. -/
def Threads.use {α : Type} (threads : Threads) (access : Pool → α × Pool) : α × Threads :=
  let current := threads.schedule 0
  let (result, pool) := access (threads.pools current)
  (result,
    { pools := fun thread => if thread = current then pool else threads.pools thread
      schedule := fun turn => threads.schedule (turn + 1) })

/-- Where parcels come from, and where they go when they are done with. -/
structure Supply (m : Type → Type) where
  obtain : m Parcel
  recycle : Parcel → m Unit

namespace Supply

variable {m : Type → Type} [Monad m]

/-- New parcels, which are left alone afterwards.  Nobody can tell them from recycled ones
(`Host.run_pooled`). -/
def fresh : Supply m where
  obtain := pure .empty
  recycle := fun _ => pure ()

/-- The parcels of the pools. -/
def pooled : Supply (StateT Threads m) where
  obtain := modifyGet fun threads => threads.use Pool.obtain
  recycle := fun parcel => modifyGet fun threads => threads.use fun pool => ((), pool.recycle parcel)

end Supply

end Courier
