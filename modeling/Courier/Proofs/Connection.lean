import Courier.Host
import Courier.Proofs.Envelope
import Courier.Proofs.Frame

namespace Courier

/-! How a connection takes what has arrived, and what becomes of the connection
in the host.

At the front of a stream stands a request, or the start of a frame whose rest is
missing, or something that ends the connection. -/

variable {m : Type → Type} [Monad m]

/-- The reply for what came of a transaction; a fault travels as an exception. -/
def Reply.ofOutcome : Except Fault Status → Reply
  | .ok (.handled reply) => ⟨true, reply.bytes⟩
  | .ok .unhandled => ⟨false, []⟩
  | .error fault => ⟨true, Wire.exception fault⟩

namespace Connection

theorem conclude_fresh [LawfulMonad m] (outcome : Except Fault Status) :
    conclude .fresh outcome = (pure (.ofOutcome outcome) : m Reply) := by
  obtain fault | ⟨reply⟩ | _ := outcome
  · exact (pure_bind _ _).trans (pure_bind _ _)
  · exact pure_bind _ _
  · rfl

theorem discard_fresh (outcome : Except Fault Status) :
    discard .fresh outcome = (pure () : m Unit) := by
  obtain fault | ⟨reply⟩ | _ := outcome <;> rfl

/-- Without recycled parcels a request is one transaction and nothing else. -/
theorem answer_fresh [LawfulMonad m] (binder : Binder m) (request : Request) :
    answer binder request = do
      let outcome ← binder.transact request.code (.ofBytes request.data) request.flags
      return if request.flags.isOneWay then none else some (.ofOutcome outcome) := by
  refine bind_congr fun outcome => ?_
  cases request.flags.isOneWay with
  | true => exact (congrArg (· >>= _) (discard_fresh outcome)).trans (pure_bind _ _)
  | false => exact (congrArg (· >>= _) (conclude_fresh outcome)).trans (pure_bind _ _)

/-- The rest of the first frame has not arrived. -/
inductive Waiting (left : List UInt8) : Prop where
  | header (few : left.length < 4)
  | payload (headed : 4 ≤ left.length) (small : Frame.declared left ≤ Limits.message)
      (cut : left.length < 4 + Frame.declared left)

/-- The first frame is too large, or too short for a request. -/
inductive Broken : List UInt8 → Prop where
  | oversized {left : List UInt8} (headed : 4 ≤ left.length)
      (large : Limits.message < Frame.declared left) : Broken left
  | malformed {payload rest : List UInt8} (short : payload.length < 8) :
      Broken (Frame.encode payload ++ rest)

theorem front_of_waiting {left : List UInt8} (waiting : Waiting left) :
    Frame.front left = .incomplete := by
  cases waiting with
  | header few => exact Frame.front_eq_incomplete.2 (.inl few)
  | payload headed small cut => exact Frame.front_eq_incomplete.2 (.inr ⟨small, cut⟩)

theorem waiting_of_front {left : List UInt8} (found : Frame.front left = .incomplete) :
    Waiting left := by
  by_cases headed : 4 ≤ left.length
  · obtain few | ⟨small, cut⟩ := Frame.front_eq_incomplete.1 found
    · omega
    · exact .payload headed small cut
  · exact .header (Nat.not_le.1 headed)

/-- What stands at the front of a stream. -/
theorem waiting_or_broken_or_request (received : List UInt8) :
    Waiting received ∨ Broken received ∨
      ∃ (request : Request) (rest : List UInt8), request.encode.length ≤ Limits.message ∧
        received = Frame.encode request.encode ++ rest := by
  cases found : Frame.front received with
  | incomplete => exact .inl (waiting_of_front found)
  | oversized size rest =>
      obtain ⟨headed, large, _⟩ := Frame.front_eq_oversized.1 found
      exact .inr (.inl (.oversized headed large))
  | frame payload rest =>
      obtain ⟨fits, rfl⟩ := Frame.front_eq_frame.1 found
      cases decoded : Request.decode payload with
      | error fault => exact .inr (.inl (.malformed (Request.decode_eq_error.1 decoded).1))
      | ok request =>
          rw [Request.encode_of_decode decoded] at fits ⊢
          exact .inr (.inr ⟨request, rest, fits, rfl⟩)

/-- More bytes do not mend a frame. -/
theorem Broken.append {left : List UInt8} (broken : Broken left) (later : List UInt8) :
    Broken (left ++ later) := by
  cases broken with
  | oversized headed large =>
      refine .oversized (by rw [List.length_append]; omega) ?_
      rwa [Frame.declared, List.take_append_of_le_length headed]
  | malformed short =>
      rw [List.append_assoc]
      exact .malformed short

/-- The steps of a connection, as `serve` has them without a word on why they end. -/
theorem serve_eq (binder : Binder m) (parcels : Supply m) (received : List UInt8) :
    serve binder received parcels =
      match Frame.front received with
      | .incomplete => pure ⟨[], some received⟩
      | .oversized _ _ => pure ⟨[], none⟩
      | .frame payload rest =>
          match Request.decode payload with
          | .error _ => pure ⟨[], none⟩
          | .ok request => do
              let reply ← answer binder request parcels
              match replyFrame reply with
              | .error _ => return ⟨[], none⟩
              | .ok sent =>
                  let progress ← serve binder rest parcels
                  return { progress with sent := sent ++ progress.sent } := by
  rw [serve]
  split
  · rename_i found
    exact found ▸ rfl
  · rename_i found
    exact found ▸ rfl
  · rename_i found
    dsimp only
    exact found ▸ rfl

theorem serve_waiting (binder : Binder m) {parcels : Supply m} {left : List UInt8}
    (waiting : Waiting left) : serve binder left parcels = pure ⟨[], some left⟩ := by
  rw [serve_eq, front_of_waiting waiting]

theorem serve_broken (binder : Binder m) {parcels : Supply m} {left : List UInt8}
    (broken : Broken left) : serve binder left parcels = pure ⟨[], none⟩ := by
  cases broken with
  | oversized headed large =>
      rw [serve_eq, Frame.front_eq_oversized.2 ⟨headed, large, rfl, rfl⟩]
  | malformed short =>
      have fits : _ ≤ Limits.message := Nat.le_trans (Nat.le_of_lt short) (by decide)
      rw [serve_eq, Frame.front_encode fits]
      simp only [Request.decode_eq_error.2 ⟨short, rfl⟩]

/-- A request at the front is answered, and unless no frame holds its reply the
requests behind it are served. -/
theorem serve_request (binder : Binder m) {parcels : Supply m} {request : Request}
    (fits : request.encode.length ≤ Limits.message) (rest : List UInt8) :
    serve binder (Frame.encode request.encode ++ rest) parcels = do
      let reply ← answer binder request parcels
      match replyFrame reply with
      | .error _ => return ⟨[], none⟩
      | .ok sent =>
          let progress ← serve binder rest parcels
          return { progress with sent := sent ++ progress.sent } := by
  rw [serve_eq, Frame.front_encode fits]
  simp only [request.decode_encode]

/-- How far a connection gets with one request. -/
def Progress.behind (reply : Option Reply) : Progress :=
  match replyFrame reply with
  | .error _ => ⟨[], none⟩
  | .ok sent => ⟨sent, some []⟩

theorem serve_single [LawfulMonad m] (binder : Binder m) {request : Request}
    (fits : request.encode.length ≤ Limits.message) :
    serve binder (Frame.encode request.encode) = Progress.behind <$> answer binder request := by
  have served := @serve_request _ _ binder .fresh _ fits []
  rw [List.append_nil] at served
  rw [served, map_eq_pure_bind]
  refine bind_congr fun reply => ?_
  unfold Progress.behind
  cases replyFrame reply with
  | error fault => rfl
  | ok sent => simp [serve_waiting binder (@Waiting.header [] (by decide))]

end Connection

namespace Host

theorem pending?_keep {host : Host} {number : Nat} {pending : List UInt8}
    (opened : host.pending? number = some pending) (rest : List UInt8) :
    (host.keep number rest).pending? number = some rest := by
  obtain ⟨connection, found, rfl⟩ := Option.map_eq_some_iff.1 opened
  have named := List.find?_some found
  have renamed : (fun connection : Nat × List UInt8 => connection.1 == number) ∘
      (fun connection => if connection.1 == number then (number, rest) else connection) =
        fun connection => connection.1 == number := by
    funext connection
    by_cases same : connection.1 = number <;> simp [same]
  simp only [pending?, keep, List.find?_map, renamed, found, Option.map_some, named, if_true]

theorem pending?_close (host : Host) (number : Nat) :
    (host.close number).pending? number = none := by
  simp [pending?, close]

theorem pending?_entered {host : Host} {number : Nat} (fresh : host.pending? number = none)
    (slots : Slots) (phase : Phase) :
    (Host.mk slots (host.connections ++ [(number, [])]) phase).pending? number = some [] := by
  rw [pending?, Option.map_eq_none_iff] at fresh
  simp [pending?, List.find?_append, fresh]

/-- The host after one of its connections got as far as `progress`. -/
def advance (host : Host) (number : Nat) (progress : Connection.Progress) : Host :=
  match progress.pending with
  | some rest => host.keep number rest
  | none => host.close number

theorem pending?_advance {host : Host} {number : Nat} {pending : List UInt8}
    (opened : host.pending? number = some pending) (progress : Connection.Progress) :
    (host.advance number progress).pending? number = progress.pending := by
  unfold advance
  cases progress.pending with
  | some rest => exact pending?_keep opened rest
  | none => exact pending?_close host number

theorem receive_open [LawfulMonad m] (binder : Binder m) {parcels : Supply m} {host : Host}
    {number : Nat} {pending : List UInt8} (opened : host.pending? number = some pending)
    (bytes : List UInt8) :
    host.receive binder number bytes parcels =
      (fun progress => (host.advance number progress,
        [⟨number, progress.sent, progress.pending.isNone⟩])) <$>
          Connection.serve binder (pending ++ bytes) parcels := by
  unfold receive
  simp only [opened]
  rw [map_eq_pure_bind]
  refine bind_congr fun progress => ?_
  unfold advance
  cases progress.pending <;> rfl

theorem receive_single [LawfulMonad m] (binder : Binder m) {host : Host} {number : Nat}
    {request : Request} (opened : host.pending? number = some [])
    (fits : request.encode.length ≤ Limits.message) :
    host.receive binder number (Frame.encode request.encode) =
      (fun progress => (host.advance number progress,
        [⟨number, progress.sent, progress.pending.isNone⟩])) <$>
          (Connection.Progress.behind <$> Connection.answer binder request) := by
  rw [receive_open binder opened, List.nil_append, Connection.serve_single binder fits]

theorem sentTo_single (number : Nat) (sent : List UInt8) (closed : Bool) :
    sentTo number [⟨number, sent, closed⟩] = sent := by
  simp [sentTo]

end Host

end Courier
