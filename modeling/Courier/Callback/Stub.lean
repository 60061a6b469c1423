import Courier.Binder

namespace Courier

/-! The receiving end of a callback: a handler that decodes transactions and
delivers what they carry. -/

namespace Callback

variable {m : Type → Type} [Monad m]

/-- The handler of a callback.  A call of the interface has to carry its token;
a reply acknowledges a delivery unless nobody waits for it. -/
def stub (callback : Callback m) : Handler m where
  handle := fun code flags => do
    if Transaction.isCall code then
      Handling.read (Decoder.enforceInterface descriptor)
    if code = Transaction.interface then
      Handling.reply (Wire.string descriptor)
      return true
    else if code = sendResult then
      let result ← Handling.read (Decoder.typed Decoder.bundle)
      Handling.attempt (callback.deliver result)
      if !flags.isOneWay then
        Handling.reply Wire.noException
      return true
    else Handler.fallback code

/-- The binder of a callback, which hands the callback itself to callers in its
own process. -/
def toBinder (callback : Callback m) : Binder m :=
  (Binder.ofHandler callback.stub).attach ⟨descriptor, some callback⟩

end Callback

end Courier
