import Courier.Host
import Courier.Remote

namespace Courier.Loopback

/-! A host as the other end of a remote binder's connection. -/

variable {m : Type → Type} [Monad m]

/-- What a host does with what reaches it on one connection. -/
def respond (binder : Binder m) (number : Nat) (host : Host) :
    Stimulus → m (Host × List Host.Emission)
  | .connected => pure (host.accept number)
  | .idle => pure (host, [])
  | .received bytes => host.receive binder number bytes

/-- The end of one connection of a host.  A host that does not listen any more is not
there for new connections. -/
def peer (binder : Binder m) (number : Nat) : Peer m Host where
  react := fun host stimulus => do
    let (next, emissions) ← respond binder number host stimulus
    return {
      peer := next
      accepted := stimulus ≠ .connected || host.listening
      sent := Host.sentTo number emissions
      closed := (next.pending? number).isNone }

end Courier.Loopback
