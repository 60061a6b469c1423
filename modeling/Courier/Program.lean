import Courier.Callback.Stub
import Courier.CommandLine
import Courier.Host
import Courier.Remote
import Courier.Report

namespace Courier

/-! The program: hosting a callback, and sending a result to a hosted one.

What it needs of the machine is left open: where its lines go, what is at the
other end of a connection, and how a binder is hosted. -/

/-- The machine that the program runs on. -/
structure Machine (m : Type → Type) (π : Type) where
  output : Report.Writer m
  complain : String → m Unit
  peer : Peer m π
  /-- The peer at an address, before anything reaches it. -/
  dial : String → m π
  /-- Hosts a binder until the user stops it, and tells the port that it got. -/
  host : Site → Binder m → (Nat → m Unit) → m (Except Fault Unit)

namespace Program

inductive Failure where
  | refused (reason : Report.Refusal)
  | unreachable (address : String)
  | fault (reason : Fault)

def Failure.message : Failure → String
  | .refused reason => reason.message
  | .unreachable address => "no callback host at " ++ address
  | .fault reason => reason.message

variable {m : Type → Type} [Monad m] {π : Type}

/-- A callback whose effects are lifted to calls through a remote binder. -/
def duringSession (callback : Callback m) : Callback (Session m π) where
  deliver := fun result => (callback.deliver result : m (Except Fault Unit))

/-- The proxy through which a result is sent.  What cannot be delivered is
reported. -/
def proxy (machine : Machine m π) (policy : DeliveryPolicy) : Proxy (Session m π) where
  remote := Remote.binder machine.peer
  policy := policy
  fallback := some (duringSession (Report.undelivered machine.output))
  registered := pure none

/-- Sends a result.  Nothing is printed unless the result was acknowledged or
could not be delivered. -/
def send (machine : Machine m π) (address : String) (json : Option String)
    (policy : DeliveryPolicy) : OptionT m (Except Failure Unit) := do
  match Report.parseResult json with
  | .error reason => return .error (.refused reason)
  | .ok result =>
      let initial ← machine.dial address
      match ← OptionT.lift (Remote.connect machine.peer initial address) with
      | .error _ => return .error (.unreachable address)
      | .ok remote =>
          let (outcome, _) ← ((proxy machine policy).deliver result).run remote
          match outcome, policy with
          | .error reason, _ => return .error (.fault reason)
          | .ok (), .oneWay => return .ok ()
          | .ok (), .acknowledged =>
              match ← machine.output.line Report.acknowledgedLine with
              | .error reason => return .error (.fault reason)
              | .ok () => return .ok ()

def hosted (machine : Machine m π) : Binder m :=
  (Report.printing machine.output).toBinder

def serve (machine : Machine m π) (host : String) (port : Nat) :
    m (Except Failure Unit) := do
  match Site.parse (host ++ ":" ++ toString port) with
  | .error reason => return .error (.fault reason)
  | .ok site =>
      let announce := fun port => do
        let _ ← machine.output.line (Report.portLine port)
        return ()
      match ← machine.host site (hosted machine) announce with
      | .error reason => return .error (.fault reason)
      | .ok () => return .ok ()

def runCommand (machine : Machine m π) : Command → OptionT m (Except Failure Unit)
  | .serve host port => OptionT.lift (serve machine host port)
  | .send address json policy => send machine address json policy

def usage : String :=
  "Host or invoke a remote result callback\n\n" ++
    "serve [-p PORT] [--host HOST]\n" ++
    "send --addr ADDRESS [--json JSON] [--ack]\n\n" ++
    "-d, --debug  Enable debug logging\n-h, --help   Print help"

/-- Runs the program and gives its exit status: 0 for success, 1 for a failure,
2 for arguments that make no sense. -/
def run (machine : Machine m π) (arguments : List String) : OptionT m Nat := do
  match CommandLine.parse arguments with
  | .error reason =>
      machine.complain reason.message
      return 2
  | .ok .help =>
      let _ ← machine.output.line usage
      return 0
  | .ok (.run command _) =>
      match ← runCommand machine command with
      | .ok () => return 0
      | .error reason =>
          machine.complain reason.message
          return 1

end Program

end Courier
