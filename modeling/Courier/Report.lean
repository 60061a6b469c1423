import Courier.Bundle.Json
import Courier.Callback.Basic

namespace Courier.Report

/-! The lines in which the program reports results. -/

def resultLine (result : Option Bundle) : String :=
  "CALLBACK_RESULT=" ++ Bundle.jsonText result

def undeliveredLine (result : Option Bundle) : String :=
  "CALLBACK_UNDELIVERED=" ++ Bundle.jsonText result

def acknowledgedLine : String := "CALLBACK_ACK=ok"

def portLine (port : Nat) : String :=
  "CALLBACK_PORT=" ++ toString port

/-- Where lines go.  Writing and flushing fail with the text of an error. -/
structure Writer (m : Type → Type) where
  write : String → m (Except String Unit)
  flush : m (Except String Unit)

namespace Writer

variable {m : Type → Type} [Monad m]

def line (writer : Writer m) (text : String) : m (Except Fault Unit) := do
  match ← writer.write (text ++ "\n") with
  | .error reason => return .error (.ofIo reason)
  | .ok () =>
      match ← writer.flush with
      | .error reason => return .error (.ofIo reason)
      | .ok () => return .ok ()

end Writer

variable {m : Type → Type} [Monad m]

def undelivered (writer : Writer m) : Callback m where
  deliver := fun result => writer.line (undeliveredLine result)

def printing (writer : Writer m) : Callback m where
  deliver := fun result => writer.line (resultLine result)

inductive Refusal where
  | notJson (fault : Json.SyntaxError)
  | unfit (fault : Fault)

def Refusal.message : Refusal → String
  | .notJson _ => "--json is not valid JSON"
  | .unfit (.config message) => "--json: " ++ message
  | .unfit fault => fault.message

/-- The result that a text describes, absent without a text. -/
def parseResult : Option String → Except Refusal (Option Bundle)
  | none => .ok none
  | some text =>
      match Bundle.parse text with
      | .ok bundle => .ok (some bundle)
      | .error (.inl fault) => .error (.notJson fault)
      | .error (.inr fault) => .error (.unfit fault)

end Courier.Report
