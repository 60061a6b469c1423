import Courier.Loopback
import Courier.Proofs.Remote

namespace Courier.Loopback

/-! A call over an open connection with nothing under way.

The host runs the transaction and answers in the same step, so the call comes to
what `settled` makes of the outcome at the target. -/

variable {m : Type → Type} [Monad m] [LawfulMonad m]
variable {binder : Binder m} {number : Nat} {address : String} {host : Host}

/-- The client's end of an open connection on which nothing is under way. -/
def idle (address : String) (host : Host) : Remote Host :=
  ⟨address, some ⟨host, [], false⟩⟩

/-- The client's end of a broken connection. -/
def broken (address : String) : Remote Host :=
  ⟨address, none⟩

theorem react_idle (opened : host.pending? number = some []) :
    (peer binder number).react host .idle = pure { peer := host } := by
  simp [peer, respond, Host.sentTo, opened]

/-- What the peer does once a request was answered. -/
def reaction (host : Host) (number : Nat) (reply : Option Reply) : Reaction Host :=
  let progress := Connection.Progress.behind reply
  { peer := host.advance number progress
    sent := progress.sent
    closed := progress.pending.isNone }

theorem react_request (opened : host.pending? number = some []) {request : Request}
    (fits : request.encode.length ≤ Limits.message) :
    (peer binder number).react host (.received (Frame.encode request.encode)) =
      reaction host number <$> Connection.answer binder request := by
  simp only [peer, respond, Host.receive_single binder opened fits]
  rw [bind_map_left, bind_map_left, map_eq_pure_bind]
  refine bind_congr fun reply => congrArg pure ?_
  rw [Host.sentTo_single, Host.pending?_advance opened]
  rfl

theorem look_idle (opened : host.pending? number = some []) :
    ((Remote.look (peer binder number)).run (idle address host)).run =
      pure (some (some ⟨host, [], false⟩, idle address host)) := by
  simp [Remote.look, idle, react_idle opened, Link.after]

/-- What a call comes to for the caller, and its end of the connection then. -/
def settled (address : String) (host : Host) (number : Nat) (flags : Flags)
    (outcome : Except Fault Status) : Except Fault Status × Remote Host :=
  let reply := Reply.ofOutcome outcome
  if flags.isOneWay then (.ok (.handled .empty), idle address (host.keep number []))
  else if reply.encode.length ≤ Limits.message then
    (.ok reply.toStatus, idle address (host.keep number []))
  else (.error (.deadObject address), broken address)

/-- The client reads what the host sent behind its request. -/
theorem concluded_reaction (flags : Flags) (outcome : Except Fault Status) :
    Remote.concluded address flags (Link.after ⟨host, [], false⟩
        (reaction host number (if flags.isOneWay then none else some (.ofOutcome outcome)))) =
      some (settled address host number flags outcome) := by
  unfold Remote.concluded settled
  cases flags.isOneWay with
  | true => rfl
  | false =>
      rw [if_neg Bool.false_ne_true, if_neg Bool.false_ne_true, if_neg Bool.false_ne_true]
      by_cases fits : (Reply.ofOutcome outcome).encode.length ≤ Limits.message
      · have front := Frame.front_encode fits []
        rw [List.append_nil] at front
        simp [Link.after, reaction, Connection.Progress.behind, Connection.replyFrame,
          Frame.encode?_of_le fits, front, Reply.decode_encode, fits, idle, Host.advance, Except.map]
      · have front : Frame.front [] = .incomplete := rfl
        simp [Link.after, reaction, Connection.Progress.behind, Connection.replyFrame,
          Frame.encode?_of_lt (Nat.not_le.1 fits), front, fits, broken]

theorem issue_idle (opened : host.pending? number = some []) {call : Call}
    (fits : call.request.encode.length ≤ Limits.message) :
    ((call.issue (Remote.binder (peer binder number))).run (idle address host)).run =
      (fun outcome => some (settled address host number call.flags outcome)) <$>
        call.seen.issue binder := by
  have unbroken : (Link.after ⟨host, [], false⟩ { peer := host }).hungUp = false := rfl
  have accepted : ∀ reply, (reaction host number reply).accepted = true := fun _ => rfl
  have answered : Connection.answer binder call.request =
      (fun outcome => if call.flags.isOneWay then none else some (Reply.ofOutcome outcome)) <$>
        call.seen.issue binder := by
    rw [Connection.answer_fresh, map_eq_pure_bind]
    rfl
  have small := call.request.length_encode ▸ fits
  rw [idle, Remote.issue_alive _ address _ small, react_idle opened, pure_bind, unbroken,
    if_neg Bool.false_ne_true]
  change (peer binder number).react host _ >>= _ = _
  rw [react_request opened fits, answered, bind_map_left, bind_map_left, map_eq_pure_bind]
  refine bind_congr fun outcome => ?_
  rw [accepted, if_pos rfl]
  exact congrArg pure (concluded_reaction call.flags outcome)

/-! Connecting. -/

/-- What a new connection comes to for the caller. -/
def admitted (host : Host) (number : Nat) (address : String) : Except Fault (Remote Host) :=
  if (host.pending? number).isSome || !host.listening then .error (.deadObject address)
  else
    match host.slots.acquire? with
    | some slots =>
        .ok (idle address
          { host with slots := slots, connections := host.connections ++ [(number, [])] })
    | none => .error (.deadObject address)

theorem connect_eq (binder : Binder m) (host : Host) (number : Nat) (address : String) :
    Remote.connect (peer binder number) host address = pure (admitted host number address) := by
  have silent : Frame.front [] = .incomplete := rfl
  have accepted := @Frame.front_encode Admission.accepted.encode (by decide) []
  have busy := @Frame.front_encode Admission.busy.encode (by decide) []
  rw [List.append_nil] at accepted busy
  cases opened : host.pending? number with
  | some pending =>
      cases listening : host.listening <;>
        simp [Remote.connect, peer, respond, Host.accept, admitted, opened, listening, Link.after,
          Host.sentTo, silent]
  | none =>
      cases listening : host.listening with
      | false =>
          simp [Remote.connect, peer, respond, Host.accept, admitted, opened, listening]
      | true =>
          cases free : host.slots.acquire? with
          | none =>
              simp [Remote.connect, peer, respond, Host.accept, admitted, opened, listening, free,
                Link.after, Host.sentTo, busy, Admission.decode_encode]
          | some slots =>
              simp [Remote.connect, peer, respond, Host.accept, admitted, opened, listening, free,
                Link.after, Host.sentTo, accepted, Admission.decode_encode,
                Host.pending?_entered opened, idle]

/-- Right after a connection was admitted nothing is under way on it. -/
theorem idle_of_admitted {remote : Remote Host} (entered : admitted host number address = .ok remote) :
    ∃ next : Host, remote = idle address next ∧ next.pending? number = some [] := by
  unfold admitted at entered
  split at entered
  · contradiction
  · rename_i fresh
    cases free : host.slots.acquire? with
    | none => simp [free] at entered
    | some slots =>
        simp only [free, Except.ok.injEq] at entered
        have unused : host.pending? number = none := by
          simp only [Bool.or_eq_true, not_or, Option.isSome_iff_ne_none, Decidable.not_not] at fresh
          exact fresh.1
        exact ⟨_, entered.symm, Host.pending?_entered unused _ _⟩

/-! Runs. -/

/-- Steps over a connection come to what the steps that they cause at the host
come to, as long as each of them leaves the connection idle. -/
theorem mapM_idle {σ τ ι α β : Type} {remotely : ι → Session (StateT τ (StateM σ)) Host β}
    {hosted : ι → StateT τ (StateM σ) α} {learn : ι → α → β} {Fits : ι → α → Prop}
    {inputs : List ι}
    (step : ∀ input ∈ inputs, ∀ host : Host, host.pending? number = some [] →
      ∃ settle : α → β × Remote Host,
        ((remotely input).run (idle address host)).run =
          (fun outcome => some (settle outcome)) <$> hosted input ∧
        ∀ outcome, Fits input outcome →
          settle outcome = (learn input outcome, idle address (host.keep number [])))
    {host : Host} (opened : host.pending? number = some []) {journal journalAfter : τ}
    {state stateAfter : σ} {outcomes : List α}
    (ran : ((inputs.mapM hosted).run journal).run state =
      pure ((outcomes, journalAfter), stateAfter))
    (fits : ∀ pair ∈ inputs.zip outcomes, Fits pair.1 pair.2) :
    ∃ next : Host, next.pending? number = some [] ∧
      ((((inputs.mapM remotely).run (idle address host)).run).run journal).run state =
        pure ((some (inputs.zipWith learn outcomes, idle address next), journalAfter), stateAfter) := by
  induction inputs generalizing host journal state outcomes with
  | nil =>
      cases ran
      exact ⟨host, opened, rfl⟩
  | cons input rest inductionHypothesis =>
      obtain ⟨outcome, middle, between, head⟩ : ∃ outcome middle between,
          ((hosted input).run journal).run state = pure ((outcome, middle), between) :=
        ⟨_, _, _, rfl⟩
      obtain ⟨later, last, final, tail⟩ : ∃ later last final,
          ((rest.mapM hosted).run middle).run between = pure ((later, last), final) :=
        ⟨_, _, _, rfl⟩
      simp only [List.mapM_cons, StateT.run_bind, head, tail, pure_bind, StateT.run_pure] at ran
      cases ran
      obtain ⟨settle, stepped, settled⟩ := step input List.mem_cons_self host opened
      have kept := Host.pending?_keep opened []
      obtain ⟨next, stillOpen, ran⟩ :=
        inductionHypothesis (fun other member => step other (List.mem_cons_of_mem _ member)) kept tail
          fun pair member => fits pair (List.mem_cons_of_mem _ member)
      refine ⟨next, stillOpen, ?_⟩
      have headSettled := settled outcome (fits (input, outcome) List.mem_cons_self)
      simp [List.mapM_cons, stepped, head, headSettled, ran]

end Courier.Loopback
