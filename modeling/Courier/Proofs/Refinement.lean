import Courier.Proofs.Call
import Courier.Proofs.Handling
import Courier.Proofs.Loopback

namespace Courier

/-! A remote binder refines the binder that a host serves.

Calls that are issued one after the other over a connection run the handler on
the same transactions as calls of the binder itself, and come to the same for
their caller, as long as frames hold the requests and the replies. -/

namespace Call

/-- What a caller behind a connection learns of what came of a call. -/
def reported (call : Call) (status : Status) : Status :=
  if call.flags.isOneWay then .handled .empty
  else
    match status with
    | .handled reply => .handled (.ofBytes reply.bytes)
    | .unhandled => .unhandled

variable {m : Type → Type} [Monad m]

/-- Issues a call through a remote binder and tells whether that is alive then. -/
def issueRemotely {π : Type} (peer : Peer m π) (call : Call) :
    Session m π (Except Fault Status × Bool) := do
  let outcome ← call.issue (Remote.binder peer)
  return (outcome, ← Remote.isAlive peer)

end Call

/-- The handler with a journal of what it is run on. -/
def Handler.recorded {m : Type → Type} [Monad m] (handler : Handler m) :
    Handler (StateT (List Call) m) where
  handle := fun code flags =>
    ExceptT.mk fun exchange => do
      modify fun journal => journal ++ [⟨code, exchange.data, flags⟩]
      (handler.handle code flags).perform exchange

namespace Handler

variable {m : Type → Type} [Monad m] [LawfulMonad m]

/-- What comes of a call at the handler. -/
def answer (handler : Handler m) (call : Call) : m Status :=
  handler.execute call.code call.data call.flags

theorem answer_recorded (handler : Handler m) (call : Call) (journal : List Call) :
    (handler.recorded.answer call).run journal =
      (fun status => (status, journal ++ [call.seen])) <$> handler.answer call := by
  simp [answer, execute_eq, recorded, Call.seen]

theorem answerAll_recorded (handler : Handler m) (calls journal : List Call) :
    (calls.mapM handler.recorded.answer).run journal =
      (fun statuses => (statuses, journal ++ calls.map Call.seen)) <$>
        calls.mapM handler.answer := by
  induction calls generalizing journal with
  | nil => simp
  | cons call rest inductionHypothesis =>
      simp [List.mapM_cons, answer_recorded, inductionHypothesis]

theorem issueAll_ofHandler (handler : Handler m) (calls : List Call) :
    calls.mapM (Call.issue (.ofHandler handler)) =
      List.map Except.ok <$> calls.mapM handler.answer := by
  induction calls with
  | nil => simp
  | cons call rest inductionHypothesis =>
      rw [List.mapM_cons, inductionHypothesis]
      simp [Call.issue, Binder.ofHandler, answer]

end Handler

namespace Loopback

variable {m : Type → Type} [Monad m] [LawfulMonad m]
variable {binder : Binder m} {number : Nat} {address : String} {host : Host}

theorem isAlive_idle (opened : host.pending? number = some []) :
    ((Remote.isAlive (peer binder number)).run (idle address host)).run =
      pure (some (true, idle address host)) := by
  have listening : (Link.mk host [] false).hungUp = false := rfl
  simp [Remote.isAlive, look_idle opened, listening]

theorem isAlive_broken :
    ((Remote.isAlive (peer binder number)).run (broken address)).run =
      pure (some (false, broken address)) := by
  simp [Remote.isAlive, Remote.look, broken]

/-- Unless no frame holds the reply, the call leaves nothing under way. -/
theorem settled_of_fits (call : Call) {status : Status}
    (fits : (Reply.ofOutcome (.ok status)).encode.length ≤ Limits.message) :
    settled address host number call.flags (.ok status) =
      (.ok (call.reported status), idle address (host.keep number [])) := by
  simp only [settled, Call.reported, fits, if_true]
  cases call.flags.isOneWay <;> cases status <;> rfl

theorem isAlive_settled (opened : host.pending? number = some []) (flags : Flags)
    (outcome : Except Fault Status) :
    let remote := (settled address host number flags outcome).2
    ((Remote.isAlive (peer binder number)).run remote).run =
      pure (some (remote.link.isSome, remote)) := by
  have kept := Host.pending?_keep opened []
  unfold settled
  split
  · exact isAlive_idle kept
  · dsimp only
    split
    · exact isAlive_idle kept
    · exact isAlive_broken

theorem issueRemotely_ofHandler (handler : Handler m) (opened : host.pending? number = some [])
    {call : Call} (fits : call.request.encode.length ≤ Limits.message) :
    ((call.issueRemotely (peer (.ofHandler handler) number)).run (idle address host)).run =
      (fun status =>
        let settlement := settled address host number call.flags (.ok status)
        some ((settlement.1, settlement.2.link.isSome), settlement.2)) <$> handler.answer call := by
  have issued := @issue_idle _ _ _ (.ofHandler handler) number address host opened _ fits
  have answered : call.seen.issue (.ofHandler handler) = Except.ok <$> handler.answer call := rfl
  rw [answered] at issued
  simp [Call.issueRemotely, issued, isAlive_settled opened]

variable {σ : Type}

/-- Calls over a connection that a host has just admitted run its handler on what
calls of the handler's own binder run it on, and come to the same for the caller,
but for the replies of one-way calls.  The remote binder is alive after every
call, and nothing is left under way. -/
theorem calls_refine_hosted (handler : Handler (StateM σ)) (host : Host) (number : Nat)
    (address : String) (remote : Remote Host) (calls journal : List Call) (state : σ)
    (connected : (((Remote.connect (peer (.ofHandler handler.recorded) number) host address).run
      journal).run state).1.1 = .ok remote)
    (requestsFit : ∀ call ∈ calls, call.request.encode.length ≤ Limits.message)
    (repliesFit : ∀ outcome ∈ (((calls.mapM (Call.issue (.ofHandler handler.recorded))).run
      journal).run state).1.1, (Reply.ofOutcome outcome).encode.length ≤ Limits.message) :
    ∃ (statuses : List Status) (next : Host) (final : σ),
      ((calls.mapM (Call.issue (.ofHandler handler.recorded))).run journal).run state =
        ((statuses.map .ok, journal ++ calls.map Call.seen), final) ∧
      ((((calls.mapM (Call.issueRemotely (peer (.ofHandler handler.recorded) number))).run
          remote).run).run journal).run state =
        ((some (calls.zipWith (fun call status => (.ok (call.reported status), true)) statuses,
          idle address next), journal ++ calls.map Call.seen), final) ∧
      next.pending? number = some [] := by
  rw [connect_eq] at connected
  obtain ⟨entered, rfl, opened⟩ := idle_of_admitted connected
  obtain ⟨statuses, final, ran⟩ : ∃ statuses final,
      (calls.mapM handler.answer).run state = pure (statuses, final) := ⟨_, _, rfl⟩
  have recorded : ((calls.mapM handler.recorded.answer).run journal).run state =
      pure ((statuses, journal ++ calls.map Call.seen), final) := by
    rw [handler.answerAll_recorded, StateT.run_map, ran, map_pure]
  have direct : ((calls.mapM (Call.issue (.ofHandler handler.recorded))).run journal).run state =
      pure ((statuses.map .ok, journal ++ calls.map Call.seen), final) := by
    rw [Handler.issueAll_ofHandler, StateT.run_map, StateT.run_map, recorded, map_pure]
  rw [direct] at repliesFit
  have step : ∀ call ∈ calls, ∀ host : Host, host.pending? number = some [] →
      ∃ settle : Status → (Except Fault Status × Bool) × Remote Host,
        ((call.issueRemotely (peer (.ofHandler handler.recorded) number)).run
            (idle address host)).run =
          (fun status => some (settle status)) <$> handler.recorded.answer call ∧
        ∀ status, (Reply.ofOutcome (.ok status)).encode.length ≤ Limits.message →
          settle status =
            ((.ok (call.reported status), true), idle address (host.keep number [])) := by
    intro call member host opened
    refine ⟨_, issueRemotely_ofHandler handler.recorded opened (requestsFit call member), ?_⟩
    intro status fits
    rw [settled_of_fits call fits]
    rfl
  obtain ⟨next, stillOpen, remotely⟩ := mapM_idle step opened recorded fun pair member =>
    repliesFit _ (List.mem_map_of_mem (List.of_mem_zip member).2)
  exact ⟨statuses, next, final, direct, remotely, stillOpen⟩

/-- Counts its transactions and answers the first call with a word. -/
def tally : Handler (StateM Nat) where
  handle := fun code _ => do
    Handling.attempt (do modify (· + 1); return .ok ())
    if code = Transaction.firstCall then
      Handling.reply (Wire.int32 7)
      return true
    else Handler.fallback code

/-- A one-way call from inside its request, one that is answered and one of an
unknown code. -/
def tallied : List Call :=
  [⟨Transaction.firstCall, ⟨[1, 2], 1⟩, ⟨0x80000001⟩⟩,
    ⟨Transaction.firstCall, .empty, ⟨0x10⟩⟩, ⟨2, .ofBytes [3], .none⟩]

theorem calls_refine_hosted_tallied :
    ∃ (statuses : List Status) (next : Host) (final : Nat),
      ((tallied.mapM (Call.issue (.ofHandler tally.recorded))).run []).run 0 =
        ((statuses.map .ok, tallied.map Call.seen), final) ∧
      ((((tallied.mapM (Call.issueRemotely (peer (.ofHandler tally.recorded) 4))).run
          (idle "127.0.0.1:1" ⟨⟨16, 1⟩, [(4, [])], .running⟩)).run).run []).run 0 =
        ((some (tallied.zipWith (fun call status => (.ok (call.reported status), true)) statuses,
          idle "127.0.0.1:1" next), tallied.map Call.seen), final) ∧
      next.pending? 4 = some [] := by
  have connected : (((Remote.connect (peer (.ofHandler tally.recorded) 4) (.start 16)
      "127.0.0.1:1").run []).run 0).1.1 =
        .ok (idle "127.0.0.1:1" ⟨⟨16, 1⟩, [(4, [])], .running⟩) := by
    rw [connect_eq]
    rfl
  exact calls_refine_hosted tally (.start 16) 4 "127.0.0.1:1" _ tallied [] 0 connected
    (by decide) (by decide)

end Loopback

end Courier
