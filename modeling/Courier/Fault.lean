import Courier.Limits
import Courier.Text.Quoted
import Courier.Text.Utf8

namespace Courier

/-! Why something failed.

`Defect` says what is wrong with bytes that do not decode, `Fault` names every
failure of the library.  Each fault has a text and an exception code; a reply
carries both across a connection, where they arrive as `Fault.remote`. -/

inductive Field where
  | int32
  | uint32
  | int64
  | float64
  | string
  | byteArray
deriving DecidableEq, Repr

def Field.name : Field → String
  | .int32 => "i32"
  | .uint32 => "u32"
  | .int64 => "i64"
  | .float64 => "f64"
  | .string => "string"
  | .byteArray => "byte array"

inductive Defect where
  /-- A field of `needed` bytes starts at `offset` of a parcel of `size` bytes. -/
  | truncated (field : Field) (needed offset size : Nat)
  | negativeLength (field : Field) (length : Int32)
  | missingTerminator
  | invalidText (flaw : Utf8.Flaw)
  | nestedTooDeep
  | negativePayload (length : Int32)
  | badMagic (found : Int32)
  | negativeCount (count : Int32)
  | nullKey
  | payloadMismatch (declared : Int32) (consumed : Nat)
  | nullString
  | invalidArrayLength (length : Int32)
  | unknownTag (tag : Int32)
  | shortRequest (size : Nat)
  | emptyReply
  | unknownStatus (status : UInt8)
  | unexpectedAdmission (payload : List UInt8)
  | oversizedFrame (size : Nat)
  | described (subject reason : String)
deriving DecidableEq, Repr

def Defect.subject : Defect → String
  | .truncated field _ _ _ => field.name
  | .negativeLength field _ => field.name
  | .missingTerminator => Field.string.name
  | .invalidText _ => Field.string.name
  | .nestedTooDeep => "bundle"
  | .negativePayload _ => "bundle"
  | .badMagic _ => "bundle"
  | .negativeCount _ => "bundle"
  | .nullKey => "bundle"
  | .payloadMismatch _ _ => "bundle"
  | .nullString => "bundle value"
  | .invalidArrayLength _ => "bundle value"
  | .unknownTag _ => "bundle value"
  | .shortRequest _ => "transaction request"
  | .emptyReply => "transaction reply"
  | .unknownStatus _ => "transaction reply"
  | .unexpectedAdmission _ => "admission"
  | .oversizedFrame _ => "ipc_frame"
  | .described subject _ => subject

/-- Bytes as a list of numbers in brackets. -/
def listed (bytes : List UInt8) : String :=
  "[" ++ ", ".intercalate (bytes.map fun byte => toString byte.toNat) ++ "]"

def Defect.reason : Defect → String
  | .truncated _ needed offset size =>
      "need " ++ toString needed ++ " bytes at offset " ++ toString offset ++
        ", parcel holds " ++ toString size
  | .negativeLength _ length => "negative length " ++ toString length.toInt
  | .missingTerminator => "missing NUL terminator"
  | .invalidText flaw => flaw.message
  | .nestedTooDeep => "nesting deeper than " ++ toString Limits.bundleDepth
  | .negativePayload length => "negative length " ++ toString length.toInt
  | .badMagic found => "bad magic " ++ Text.hexadecimal found.toUInt32.toNat
  | .negativeCount count => "negative entry count " ++ toString count.toInt
  | .nullKey => "null key"
  | .payloadMismatch declared consumed =>
      "declared " ++ toString declared.toInt ++ " bytes but read " ++ toString consumed
  | .nullString => "null string"
  | .invalidArrayLength length => "invalid string array length " ++ toString length.toInt
  | .unknownTag tag => "unknown type tag " ++ toString tag.toInt
  | .shortRequest size =>
      "frame of " ++ toString size ++ " bytes is shorter than its header"
  | .emptyReply => "empty reply frame"
  | .unknownStatus status => "unknown status byte " ++ toString status.toNat
  | .unexpectedAdmission payload => "unexpected frame " ++ listed payload
  | .oversizedFrame size =>
      "message size " ++ toString size ++ " exceeds maximum " ++ toString Limits.message
  | .described _ reason => reason

inductive Obstacle where
  | nestedTooDeep
  | described (subject reason : String)
deriving DecidableEq, Repr

def Obstacle.subject : Obstacle → String
  | .nestedTooDeep => "bundle"
  | .described subject _ => subject

def Obstacle.reason : Obstacle → String
  | .nestedTooDeep => "nesting deeper than " ++ toString Limits.bundleDepth
  | .described _ reason => reason

/-- A failure.  `source` is the text of the failure that caused it. -/
inductive Fault where
  | interfaceMismatch (expected actual : String)
  | unknownTransaction (code : UInt32)
  | malformed (defect : Defect)
  | unencodable (obstacle : Obstacle)
  | payloadTooLarge (size limit : Nat)
  | remote (code : Int32) (message : String)
  | transport (message : String) (source : Option String)
  | deadObject (address : String)
  | duplicateRegistration
  | io (message : String) (source : Option String)
  | json (message : String) (source : Option String)
  | config (message : String)
  | other (message : String)
deriving DecidableEq, Repr

namespace Fault

def message : Fault → String
  | .interfaceMismatch expected actual =>
      "Interface mismatch: expected " ++ expected ++ ", got " ++ Text.quoted actual
  | .unknownTransaction code =>
      "Unknown transaction code: " ++ Text.hexadecimal code.toNat
  | .malformed defect => "Malformed " ++ defect.subject ++ ": " ++ defect.reason
  | .unencodable obstacle => "Cannot encode " ++ obstacle.subject ++ ": " ++ obstacle.reason
  | .payloadTooLarge size limit =>
      "Payload of " ++ toString size ++ " bytes exceeds the " ++ toString limit ++
        " byte limit"
  | .remote code message =>
      "Remote exception (" ++ toString code.toInt ++ "): " ++ message
  | .transport message _ => "Transport error: " ++ message
  | .deadObject address => "Remote object at " ++ address ++ " is dead"
  | .duplicateRegistration => "set_default() called twice"
  | .io message _ => "IO error: " ++ message
  | .json message _ => "JSON error: " ++ message
  | .config message => "Configuration error: " ++ message
  | .other message => message

def source : Fault → Option String
  | .transport _ source => source
  | .io _ source => source
  | .json _ source => source
  | _ => none

def ofIo (message : String) : Fault :=
  .io message (some message)

def ofJson (message : String) : Fault :=
  .json message (some message)

/-! Exception codes. -/

def security : Int32 := -1
def badParcelable : Int32 := -2
def illegalArgument : Int32 := -3
def illegalState : Int32 := -5
def unsupportedOperation : Int32 := -7
def transactionFailed : Int32 := -129

/-- The exception code that stands for a fault in a reply. -/
def exceptionCode : Fault → Int32
  | .interfaceMismatch _ _ => security
  | .malformed _ => badParcelable
  | .unencodable _ => badParcelable
  | .json _ _ => badParcelable
  | .config _ => illegalArgument
  | .payloadTooLarge _ _ => illegalArgument
  | .unknownTransaction _ => unsupportedOperation
  | .transport _ _ => transactionFailed
  | .deadObject _ => transactionFailed
  | .remote code _ => code
  | .duplicateRegistration => illegalState
  | .io _ _ => illegalState
  | .other _ => illegalState

/-- The request did not reach its target, as opposed to failing there. -/
def isTransport : Fault → Bool
  | .transport _ _ => true
  | .deadObject _ => true
  | _ => false

end Fault

end Courier
