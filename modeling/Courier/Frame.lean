import Courier.Bytes
import Courier.Fault
import Courier.Parcel.Decoder

namespace Courier.Frame

/-! Frames: payloads behind their length, four bytes with the highest first.

`front` looks at the bytes that have arrived so far, `read` takes a frame off a
stream that ends, whatever the pieces in which the stream comes, and `write`
puts one on a stream that may be full. -/

def checkSize (size : Nat) : Except Fault Unit :=
  if Limits.message < size then .error (.payloadTooLarge size Limits.message) else .ok ()

def encode (payload : List UInt8) : List UInt8 :=
  bigEndian 4 payload.length ++ payload

def encode? (payload : List UInt8) : Except Fault (List UInt8) :=
  match checkSize payload.length with
  | .ok () => .ok (encode payload)
  | .error fault => .error fault

/-! Frames that have arrived. -/

/-- What stands at the front of the bytes that have arrived. -/
inductive Front where
  | frame (payload rest : List UInt8)
  | oversized (size : Nat) (rest : List UInt8)
  | incomplete

def front : List UInt8 → Front
  | first :: second :: third :: fourth :: rest =>
      let size := ofBigEndian [first, second, third, fourth]
      if Limits.message < size then .oversized size rest
      else if Decoder.holds rest size then .frame (rest.take size) (rest.drop size)
      else .incomplete
  | _ => .incomplete

theorem length_lt_of_front {received payload rest : List UInt8}
    (found : front received = .frame payload rest) : rest.length < received.length := by
  match received with
  | [] | [_] | [_, _] | [_, _, _] => simp [front] at found
  | first :: second :: third :: fourth :: others =>
      simp only [front] at found
      split at found
      · exact Front.noConfusion found
      · split at found
        · injection found with _ remaining
          subst remaining
          simp only [List.length_drop, List.length_cons]
          omega
        · exact Front.noConfusion found

/-! Reading frames off a stream. -/

/-- The bytes of a stream, in the pieces in which reading yields them. -/
abbrev Source := List (List UInt8)

/-- Takes `needed` more bytes off a stream; `taken` holds the pieces before
them, the last one first.  A stream that ends before that is used up. -/
def fill : (needed : Nat) → (taken : List (List UInt8)) → Source → Option (List UInt8) × Source
  | needed, taken, [] =>
      if needed = 0 then (some taken.reverse.flatten, []) else (none, [])
  | needed, taken, piece :: rest =>
      if needed = 0 then (some taken.reverse.flatten, piece :: rest)
      else if needed < piece.length then
        (some (piece.take needed :: taken).reverse.flatten, piece.drop needed :: rest)
      else fill (needed - piece.length) (piece :: taken) rest

/-- Reads a frame.  A stream that ends inside the length has no further frame;
one that ends inside the payload is broken. -/
def read (source : Source) : Except Fault (Option (List UInt8)) × Source :=
  match fill 4 [] source with
  | (none, rest) => (.ok none, rest)
  | (some header, rest) =>
      let size := ofBigEndian header
      if Limits.message < size then (.error (.malformed (.oversizedFrame size)), rest)
      else
        match fill size [] rest with
        | (none, rest) => (.error (.ofIo "early eof"), rest)
        | (some payload, rest) => (.ok (some payload), rest)

def readMany : (count : Nat) → Source → List (Except Fault (Option (List UInt8))) × Source
  | 0, source => ([], source)
  | count + 1, source =>
      match read source with
      | (.ok (some payload), rest) =>
          let (outcomes, rest) := readMany count rest
          (.ok (some payload) :: outcomes, rest)
      | (outcome, rest) => ([outcome], rest)

/-! Writing frames to a stream. -/

/-- A stream that is written to, and how many more bytes it takes, if it is not
unlimited. -/
structure Sink where
  written : List UInt8 := []
  room : Option Nat := none
deriving DecidableEq, Repr

namespace Sink

/-- Writes bytes, as many as there is room for. -/
def write (sink : Sink) (bytes : List UInt8) : Except Fault Unit × Sink :=
  match sink.room with
  | none => (.ok (), { sink with written := sink.written ++ bytes })
  | some room =>
      if bytes.length ≤ room then
        (.ok (), ⟨sink.written ++ bytes, some (room - bytes.length)⟩)
      else (.error (.ofIo "write zero"), ⟨sink.written ++ bytes.take room, some 0⟩)

end Sink

/-- Writes a frame: the length, and then the payload. -/
def write (sink : Sink) (payload : List UInt8) : Except Fault Unit × Sink :=
  match checkSize payload.length with
  | .error fault => (.error fault, sink)
  | .ok () =>
      match sink.write (bigEndian 4 payload.length) with
      | (.error fault, sink) => (.error fault, sink)
      | (.ok (), sink) => sink.write payload

def writeMany (sink : Sink) : List (List UInt8) → List (Except Fault Unit) × Sink
  | [] => ([], sink)
  | payload :: rest =>
      let (outcome, sink) := write sink payload
      let (outcomes, sink) := writeMany sink rest
      (outcome :: outcomes, sink)

end Courier.Frame
