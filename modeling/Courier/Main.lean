import Courier.Program

namespace Courier

/-! The program on a machine without a network: lines go to the standard output,
complaints to the standard error, nobody listens anywhere, and no address can be
listened on. -/

/-- Runs an action, giving the text of its error. -/
def guarded (action : IO Unit) : IO (Except String Unit) :=
  try
    action
    return .ok ()
  catch error => return .error (toString error)

/-- The standard output. -/
def standardOutput : Report.Writer IO where
  write := fun text => guarded (IO.print text)
  flush := guarded do (← IO.getStdout).flush

/-- This machine. -/
def machine : Machine IO Unit where
  output := standardOutput
  complain := fun text => IO.eprintln ("Error: " ++ text)
  peer := Peer.unreachable
  dial := fun _ => pure ()
  host := fun _ _ _ => return .error (.ofIo "network is unreachable")

end Courier

def main (arguments : List String) : IO UInt32 := do
  match ← (Courier.Program.run Courier.machine arguments).run with
  | some status => return status.toUInt32
  | none => return 1
