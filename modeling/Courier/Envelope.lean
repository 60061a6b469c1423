import Courier.Bytes
import Courier.Transaction

namespace Courier

/-! The payloads of frames: admissions, requests and replies. -/

/-- The first frame of a connection: whether the host takes it. -/
inductive Admission where
  | accepted
  | busy
deriving DecidableEq, Repr

namespace Admission

def encode : Admission → List UInt8
  | .accepted => [0]
  | .busy => [1]

def decode : List UInt8 → Except Fault Admission
  | [0] => .ok .accepted
  | [1] => .ok .busy
  | payload => .error (.malformed (.unexpectedAdmission payload))

end Admission

structure Request where
  code : UInt32
  flags : Flags
  data : List UInt8
deriving DecidableEq, Repr

namespace Request

/-- The code and the flags, highest bytes first, and the data. -/
def encode (request : Request) : List UInt8 :=
  bigEndian 4 request.code.toNat ++ (bigEndian 4 request.flags.bits.toNat ++ request.data)

def decode : List UInt8 → Except Fault Request
  | a :: b :: c :: d :: e :: f :: g :: h :: data =>
      .ok {
        code := UInt32.ofNat (ofBigEndian [a, b, c, d])
        flags := ⟨UInt32.ofNat (ofBigEndian [e, f, g, h])⟩
        data := data }
  | payload => .error (.malformed (.shortRequest payload.length))

end Request

/-- The answer to a transaction that somebody waits for. -/
structure Reply where
  handled : Bool
  data : List UInt8
deriving DecidableEq, Repr

namespace Reply

def status (reply : Reply) : UInt8 :=
  if reply.handled then 0 else 1

def encode (reply : Reply) : List UInt8 :=
  reply.status :: reply.data

def decode : List UInt8 → Except Fault Reply
  | [] => .error (.malformed .emptyReply)
  | 0 :: data => .ok ⟨true, data⟩
  | 1 :: data => .ok ⟨false, data⟩
  | status :: _ => .error (.malformed (.unknownStatus status))

def toStatus (reply : Reply) : Status :=
  if reply.handled then .handled (.ofBytes reply.data) else .unhandled

end Reply

end Courier
