import Courier.Proofs.Call
import Courier.Proofs.Connection
import Courier.Remote

namespace Courier

/-! Calls through a remote binder, whatever its peer does.

`Remote.Step` lists what can come of a call: what the peer saw and did meanwhile,
the outcome, and the remote binder afterwards.  A call that is none of these
waits for the rest of a reply from a peer that keeps the connection open. -/

/-- The peer with a journal of what reaches it and what it does then. -/
def Peer.watched {m : Type → Type} [Monad m] {π : Type} (peer : Peer m π) :
    Peer (StateT (List (Stimulus × Reaction π)) m) π where
  react := fun state stimulus => do
    let reaction ← peer.react state stimulus
    modify fun journal => journal ++ [(stimulus, reaction)]
    return reaction

theorem Peer.react_watched {m : Type → Type} [Monad m] [LawfulMonad m] {π : Type} (peer : Peer m π)
    (state : π) (stimulus : Stimulus) (journal : List (Stimulus × Reaction π)) :
    (peer.watched.react state stimulus).run journal =
      (fun reaction => (reaction, journal ++ [(stimulus, reaction)])) <$>
        peer.react state stimulus := by
  simp [watched]

theorem Peer.run_watched {σ π : Type} (peer : Peer (StateM σ) π) {state : π} {stimulus : Stimulus}
    {reaction : Reaction π} {before after : σ} (journal : List (Stimulus × Reaction π))
    (reacted : (peer.react state stimulus).run before = (reaction, after)) :
    ((peer.watched.react state stimulus).run journal).run before =
      ((reaction, journal ++ [(stimulus, reaction)]), after) := by
  rw [react_watched, StateT.run_map, reacted]
  rfl

theorem run_bind_of {σ τ α β : Type} {action : StateT τ (StateM σ) α} {next : α → StateT τ (StateM σ) β}
    {journal noted : τ} {before middle : σ} {value : α}
    (ran : (action.run journal).run before = ((value, noted), middle)) :
    ((action >>= next).run journal).run before = ((next value).run noted).run middle := by
  rw [StateT.run_bind, StateT.run_bind, ran]
  rfl

namespace Remote

variable {π : Type}

/-- The request goes out over a stream on which nothing shows that the peer has
closed; `arrived` is the stream with all that the peer did. -/
inductive Sent (call : Call) (link : Link π) :
    (observed : List (Stimulus × Reaction π)) → (arrived : Link π) → Prop where
  | sent {first second : Reaction π} (usable : (link.after first).hungUp = false)
      (accepted : second.accepted = true) :
      Sent call link
        [(.idle, first), (.received (Frame.encode call.request.encode), second)]
        ((link.after first).after second)

inductive Cut (link : Link π) : Prop where
  | oversized (headed : 4 ≤ link.unread.length)
      (large : Limits.message < Frame.declared link.unread)
  | ended (closed : link.closed = true) (waiting : Connection.Waiting link.unread)

/-- What a call comes to. -/
inductive Step (call : Call) :
    (before : Remote π) → (observed : List (Stimulus × Reaction π)) →
    (outcome : Except Fault Status) → (after : Remote π) → Prop where
  | tooLarge {remote : Remote π} (large : Limits.message < 8 + call.data.size) :
      Step call remote [] (.error (.payloadTooLarge (8 + call.data.size) Limits.message)) remote
  | dead {address : String} (fits : 8 + call.data.size ≤ Limits.message) :
      Step call ⟨address, none⟩ [] (.error (.deadObject address)) ⟨address, none⟩
  /-- The peer is seen to have closed, and nothing is written. -/
  | hungUp {address : String} {link : Link π} {first : Reaction π}
      (fits : 8 + call.data.size ≤ Limits.message) (closed : (link.after first).hungUp = true) :
      Step call ⟨address, some link⟩ [(.idle, first)] (.error (.deadObject address))
        ⟨address, none⟩
  | unsent {address : String} {link : Link π} {first second : Reaction π}
      (fits : 8 + call.data.size ≤ Limits.message) (usable : (link.after first).hungUp = false)
      (refused : second.accepted = false) :
      Step call ⟨address, some link⟩
        [(.idle, first), (.received (Frame.encode call.request.encode), second)]
        (.error (.deadObject address)) ⟨address, none⟩
  | cut {address : String} {link arrived : Link π} {observed : List (Stimulus × Reaction π)}
      (fits : 8 + call.data.size ≤ Limits.message) (sent : Sent call link observed arrived)
      (awaited : call.flags.isOneWay = false) (cut : Cut arrived) :
      Step call ⟨address, some link⟩ observed (.error (.deadObject address)) ⟨address, none⟩
  /-- A frame is read that holds no reply. -/
  | garbled {address : String} {link arrived : Link π} {observed : List (Stimulus × Reaction π)}
      {payload rest : List UInt8} {defect : Defect} (fits : 8 + call.data.size ≤ Limits.message)
      (sent : Sent call link observed arrived) (awaited : call.flags.isOneWay = false)
      (small : payload.length ≤ Limits.message) (read : arrived.unread = Frame.encode payload ++ rest)
      (garbled : Reply.Garbled payload defect) :
      Step call ⟨address, some link⟩ observed (.error (.malformed defect))
        ⟨address, some { arrived with unread := rest }⟩
  | answered {address : String} {link arrived : Link π} {observed : List (Stimulus × Reaction π)}
      {reply : Reply} {rest : List UInt8} (fits : 8 + call.data.size ≤ Limits.message)
      (sent : Sent call link observed arrived) (awaited : call.flags.isOneWay = false)
      (small : reply.encode.length ≤ Limits.message)
      (read : arrived.unread = Frame.encode reply.encode ++ rest) :
      Step call ⟨address, some link⟩ observed (.ok reply.toStatus)
        ⟨address, some { arrived with unread := rest }⟩
  | oneWay {address : String} {link arrived : Link π} {observed : List (Stimulus × Reaction π)}
      (fits : 8 + call.data.size ≤ Limits.message) (sent : Sent call link observed arrived)
      (unawaited : call.flags.isOneWay = true) :
      Step call ⟨address, some link⟩ observed (.ok (.handled .empty)) ⟨address, some arrived⟩

/-- The call waits for the rest of a reply, and the peer keeps the connection open. -/
inductive Waits (call : Call) : Remote π → List (Stimulus × Reaction π) → Prop where
  | waits {address : String} {link arrived : Link π} {observed : List (Stimulus × Reaction π)}
      (fits : 8 + call.data.size ≤ Limits.message) (sent : Sent call link observed arrived)
      (awaited : call.flags.isOneWay = false) (opened : arrived.closed = false)
      (waiting : Connection.Waiting arrived.unread) :
      Waits call ⟨address, some link⟩ observed

inductive Yields (call : Call) (before : Remote π) (observed : List (Stimulus × Reaction π)) :
    Option (Except Fault Status × Remote π) → Prop where
  | returned {outcome : Except Fault Status} {after : Remote π}
      (step : Step call before observed outcome after) :
      Yields call before observed (some (outcome, after))
  | waits (waits : Waits call before observed) : Yields call before observed none

/-! One call. -/

section

variable {m : Type → Type} [Monad m] [LawfulMonad m]

@[simp] theorem run_effect {α : Type} (action : m α) :
    (monadLift action : OptionT m α).run = some <$> action := by
  change (do let result ← action; pure (some result)) = _
  rw [map_eq_pure_bind]

theorem run_bind_get {α : Type} {next : Remote π → Session m π α} (remote : Remote π) :
    ((get >>= next).run remote).run = ((next remote).run remote).run := by
  simp

theorem run_react {α : Type} (action : m α) (remote : Remote π) :
    ((liftM action : Session m π α).run remote).run =
      (fun result => some (result, remote)) <$> action := by
  simp

/-- A step with a result for every outcome of an action hands it on. -/
theorem run_bind_settled {α β ω : Type} {first : Session m π α} {next : α → Session m π β}
    {remote : Remote π} {action : m ω} {settle : ω → α × Remote π}
    (ran : (first.run remote).run = (fun outcome => some (settle outcome)) <$> action) :
    ((first >>= next).run remote).run =
      action >>= fun outcome => ((next (settle outcome).1).run (settle outcome).2).run := by
  rw [StateT.run_bind, OptionT.run_bind, ran]
  simp only [Option.elimM_map, Option.elim_some]

theorem look_alive (peer : Peer m π) (address : String) (link : Link π) :
    ((look peer).run ⟨address, some link⟩).run =
      (fun reaction =>
        some (some (link.after reaction), ⟨address, some (link.after reaction)⟩)) <$>
          peer.react link.peer .idle := by
  simp [look]

/-- What the client makes of the stream once its request went out. -/
def concluded (address : String) (flags : Flags) (arrived : Link π) :
    Option (Except Fault Status × Remote π) :=
  if flags.isOneWay then some (.ok (.handled .empty), ⟨address, some arrived⟩)
  else
    match Frame.front arrived.unread with
    | .frame payload rest =>
        some ((Reply.decode payload).map Reply.toStatus,
          ⟨address, some { arrived with unread := rest }⟩)
    | .oversized _ _ => some (.error (.deadObject address), ⟨address, none⟩)
    | .incomplete =>
        if arrived.closed then some (.error (.deadObject address), ⟨address, none⟩) else none

omit [LawfulMonad m] in
theorem issue_tooLarge (peer : Peer m π) (remote : Remote π) {call : Call}
    (large : Limits.message < 8 + call.data.size) :
    ((call.issue (binder peer)).run remote).run =
      pure (some (.error (.payloadTooLarge (8 + call.data.size) Limits.message), remote)) := by
  have length : call.request.encode.length = 8 + call.data.size := call.request.length_encode
  have refused := Frame.encode?_of_lt (length ▸ large)
  rw [length] at refused
  change ((transact peer call.code call.data call.flags).run remote).run = _
  unfold transact
  simp only [Call.request] at refused
  simp [refused]

theorem issue_dead (peer : Peer m π) (address : String) {call : Call}
    (fits : 8 + call.data.size ≤ Limits.message) :
    ((call.issue (binder peer)).run ⟨address, none⟩).run =
      pure (some (.error (.deadObject address), ⟨address, none⟩)) := by
  have length : call.request.encode.length = 8 + call.data.size := call.request.length_encode
  have framed := Frame.encode?_of_le (length ▸ fits)
  change ((transact peer call.code call.data call.flags).run _).run = _
  unfold transact
  simp only [Call.request] at framed
  simp [framed, look]

theorem receive_eq (link : Link π) (remote : Remote π) :
    ((receive (m := m) link).run remote).run =
      pure (match Frame.front link.unread with
        | .frame payload rest =>
            some ((Reply.decode payload).map Reply.toStatus,
              ⟨remote.address, some { link with unread := rest }⟩)
        | .oversized _ _ => some (.error (.deadObject remote.address), ⟨remote.address, none⟩)
        | .incomplete =>
            if link.closed then some (.error (.deadObject remote.address), ⟨remote.address, none⟩)
            else none) := by
  unfold receive
  cases Frame.front link.unread with
  | frame payload rest => simp
  | oversized size rest => simp [die]
  | incomplete => cases link.closed <;> simp [die]

theorem issue_alive (peer : Peer m π) (address : String) (link : Link π) {call : Call}
    (fits : 8 + call.data.size ≤ Limits.message) :
    ((call.issue (binder peer)).run ⟨address, some link⟩).run = do
      let first ← peer.react link.peer .idle
      if (link.after first).hungUp then
        return some (.error (.deadObject address), ⟨address, none⟩)
      else
        let second ← peer.react (link.after first).peer
          (.received (Frame.encode call.request.encode))
        if second.accepted then
          return concluded address call.flags ((link.after first).after second)
        else return some (.error (.deadObject address), ⟨address, none⟩) := by
  have length : call.request.encode.length = 8 + call.data.size := call.request.length_encode
  have framed := Frame.encode?_of_le (length ▸ fits)
  change ((transact peer call.code call.data call.flags).run _).run = _
  unfold transact
  simp only [Call.request] at framed ⊢
  simp only [framed]
  rw [run_bind_get, run_bind_settled (look_alive peer address link)]
  refine bind_congr fun first => ?_
  cases hungUp : (link.after first).hungUp with
  | true => simp [die, hungUp]
  | false =>
      simp only [hungUp, Bool.false_eq_true, if_false]
      rw [run_bind_settled (run_react _ _)]
      refine bind_congr fun second => ?_
      cases second.accepted with
      | false => simp [die]
      | true =>
          cases oneWay : call.flags.isOneWay <;> simp [receive_eq, concluded, oneWay]

end

theorem yields_concluded {call : Call} {address : String} {link arrived : Link π}
    {observed : List (Stimulus × Reaction π)} (fits : 8 + call.data.size ≤ Limits.message)
    (sent : Sent call link observed arrived) :
    Yields call ⟨address, some link⟩ observed (concluded address call.flags arrived) := by
  unfold concluded
  cases oneWay : call.flags.isOneWay with
  | true => exact .returned (.oneWay fits sent oneWay)
  | false =>
      rw [if_neg Bool.false_ne_true]
      cases found : Frame.front arrived.unread with
      | frame payload rest =>
          obtain ⟨small, read⟩ := Frame.front_eq_frame.1 found
          obtain ⟨reply, rfl⟩ | ⟨defect, garbled⟩ := Reply.encode_or_garbled payload
          · simp only [Reply.decode_encode, Except.map]
            exact .returned (.answered fits sent oneWay small read)
          · simp only [Reply.decode_garbled garbled, Except.map]
            exact .returned (.garbled fits sent oneWay small read garbled)
      | oversized size rest =>
          obtain ⟨headed, large, _⟩ := Frame.front_eq_oversized.1 found
          exact .returned (.cut fits sent oneWay (.oversized headed large))
      | incomplete =>
          have waiting := Connection.waiting_of_front found
          cases closed : arrived.closed with
          | true => exact .returned (.cut fits sent oneWay (.ended closed waiting))
          | false => exact .waits (.waits fits sent oneWay closed waiting)

theorem concluded_cut {address : String} {flags : Flags} {arrived : Link π}
    (awaited : flags.isOneWay = false) (cut : Cut arrived) :
    concluded address flags arrived = some (.error (.deadObject address), ⟨address, none⟩) := by
  unfold concluded
  rw [awaited, if_neg Bool.false_ne_true]
  cases cut with
  | oversized headed large => rw [Frame.front_eq_oversized.2 ⟨headed, large, rfl, rfl⟩]
  | ended closed waiting =>
      rw [Connection.front_of_waiting waiting]
      exact if_pos closed

theorem concluded_frame {address : String} {flags : Flags} {arrived : Link π}
    {payload rest : List UInt8} (awaited : flags.isOneWay = false)
    (small : payload.length ≤ Limits.message) (read : arrived.unread = Frame.encode payload ++ rest) :
    concluded address flags arrived = some ((Reply.decode payload).map Reply.toStatus,
      ⟨address, some { arrived with unread := rest }⟩) := by
  unfold concluded
  rw [awaited, if_neg Bool.false_ne_true, read, Frame.front_encode small]

/-- What the reactions of the peer make of a call. -/
def verdict (call : Call) (before : Remote π) (observed : List (Stimulus × Reaction π)) :
    Option (Except Fault Status × Remote π) :=
  if 8 + call.data.size ≤ Limits.message then
    match before.link, observed with
    | some link, [(_, first), (_, second)] =>
        if second.accepted then
          concluded before.address call.flags ((link.after first).after second)
        else some (.error (.deadObject before.address), ⟨before.address, none⟩)
    | _, _ => some (.error (.deadObject before.address), ⟨before.address, none⟩)
  else some (.error (.payloadTooLarge (8 + call.data.size) Limits.message), before)

theorem verdict_sent {call : Call} {address : String} {link arrived : Link π}
    {observed : List (Stimulus × Reaction π)} (fits : 8 + call.data.size ≤ Limits.message)
    (sent : Sent call link observed arrived) :
    verdict call ⟨address, some link⟩ observed = concluded address call.flags arrived := by
  cases sent with
  | sent usable accepted => exact (if_pos fits).trans (if_pos accepted)

theorem Yields.verdict_eq {call : Call} {before : Remote π} {observed : List (Stimulus × Reaction π)}
    {result : Option (Except Fault Status × Remote π)} (yields : Yields call before observed result) :
    verdict call before observed = result := by
  cases yields with
  | returned step =>
      cases step with
      | tooLarge large => exact if_neg (Nat.not_le.2 large)
      | dead fits => exact if_pos fits
      | hungUp fits closed => exact if_pos fits
      | unsent fits usable refused =>
          exact (if_pos fits).trans (if_neg (Bool.not_eq_true _ ▸ refused))
      | cut fits sent awaited cut => rw [verdict_sent fits sent, concluded_cut awaited cut]
      | garbled fits sent awaited small read garbled =>
          rw [verdict_sent fits sent, concluded_frame awaited small read,
            Reply.decode_garbled garbled]
          rfl
      | answered fits sent awaited small read =>
          rw [verdict_sent fits sent, concluded_frame awaited small read, Reply.decode_encode]
          rfl
      | oneWay fits sent unawaited =>
          rw [verdict_sent fits sent, concluded, if_pos unawaited]
  | waits waits =>
      cases waits with
      | waits fits sent awaited opened waiting =>
          rw [verdict_sent fits sent, concluded, awaited, if_neg Bool.false_ne_true,
            Connection.front_of_waiting waiting]
          exact if_neg (Bool.not_eq_true _ ▸ opened)

/-- The steps do not overlap: the reactions of the peer settle which one it is. -/
theorem Yields.unique {call : Call} {before : Remote π} {observed : List (Stimulus × Reaction π)}
    {result other : Option (Except Fault Status × Remote π)}
    (yields : Yields call before observed result) (again : Yields call before observed other) :
    result = other :=
  yields.verdict_eq.symm.trans again.verdict_eq

variable {σ : Type}

/-- A call against any peer does one of the steps, or waits. -/
theorem issue_watched (peer : Peer (StateM σ) π) (call : Call) (remote : Remote π)
    (journal : List (Stimulus × Reaction π)) (before : σ) :
    ∃ (observed : List (Stimulus × Reaction π))
      (result : Option (Except Fault Status × Remote π)) (after : σ),
      Yields call remote observed result ∧
      ((((call.issue (binder peer.watched)).run remote).run).run journal).run before =
        ((result, journal ++ observed), after) := by
  by_cases fits : 8 + call.data.size ≤ Limits.message
  · obtain ⟨address, link?⟩ := remote
    cases link? with
    | none =>
        refine ⟨[], _, before, .returned (.dead fits), ?_⟩
        rw [issue_dead peer.watched address fits, List.append_nil]
        rfl
    | some link =>
        obtain ⟨first, middle, looked⟩ : ∃ first middle,
            (peer.react link.peer .idle).run before = (first, middle) := ⟨_, _, rfl⟩
        rw [issue_alive peer.watched address link fits, run_bind_of (peer.run_watched journal looked)]
        cases usable : (link.after first).hungUp with
        | true => exact ⟨_, _, middle, .returned (.hungUp fits usable), rfl⟩
        | false =>
            obtain ⟨second, last, wrote⟩ : ∃ second last,
                (peer.react (link.after first).peer
                  (.received (Frame.encode call.request.encode))).run middle = (second, last) :=
              ⟨_, _, rfl⟩
            rw [if_neg Bool.false_ne_true, run_bind_of (peer.run_watched _ wrote), List.append_assoc]
            cases accepted : second.accepted with
            | true => exact ⟨_, _, last, yields_concluded fits (.sent usable accepted), rfl⟩
            | false => exact ⟨_, _, last, .returned (.unsent fits usable accepted), rfl⟩
  · refine ⟨[], _, before, .returned (.tooLarge (Nat.not_le.1 fits)), ?_⟩
    rw [issue_tooLarge peer.watched remote (Nat.not_le.1 fits), List.append_nil]
    rfl

end Remote

/-! Calls one behind the other. -/

/-- A call that returned. -/
structure Turn (π : Type) where
  call : Call
  before : Remote π
  observed : List (Stimulus × Reaction π)
  outcome : Except Fault Status
  after : Remote π
  step : Remote.Step call before observed outcome after

namespace Turn

variable {π : Type}

def written (turn : Turn π) : List (List UInt8) :=
  turn.observed.filterMap fun seen =>
    match seen.1 with
    | .received bytes => some bytes
    | _ => none

def Linked : (first : Remote π) → List (Turn π) → (last : Remote π) → Prop
  | first, [], last => first = last
  | first, turn :: rest, last => turn.before = first ∧ Linked turn.after rest last

inductive Ended (turns : List (Turn π)) (last : Remote π) :
    (calls : List Call) → (unfinished : List (Stimulus × Reaction π)) →
    Option (List (Except Fault Status) × Remote π) → Prop where
  | returned : Ended turns last (turns.map Turn.call) [] (some (turns.map Turn.outcome, last))
  | waits {call : Call} {rest : List Call} {observed : List (Stimulus × Reaction π)}
      (waits : Remote.Waits call last observed) :
      Ended turns last (turns.map Turn.call ++ call :: rest) observed none

/-- What an outcome tells of its turn. -/
structure Told (turn : Turn π) : Prop where
  /-- With what the peer did, the call could not have ended otherwise. -/
  only : ∀ result, Remote.Yields turn.call turn.before turn.observed result →
    result = some (turn.outcome, turn.after)
  tooLarge : (∃ size limit, turn.outcome = .error (.payloadTooLarge size limit)) ↔
    Limits.message < 8 + turn.call.data.size
  untouched : Limits.message < 8 + turn.call.data.size →
    turn.observed = [] ∧ turn.after = turn.before
  /-- Every other request that leaves a dead binder reports it. -/
  dead : turn.outcome = .error (.deadObject turn.before.address) ↔
    8 + turn.call.data.size ≤ Limits.message ∧ turn.after.link = none
  status : ∀ status, turn.outcome = .ok status →
    turn.written = [Frame.encode turn.call.request.encode]

theorem told_of_fits {turn : Turn π} (fits : 8 + turn.call.data.size ≤ Limits.message)
    (other : ∀ size limit, turn.outcome ≠ .error (.payloadTooLarge size limit))
    (dead : turn.outcome = .error (.deadObject turn.before.address) ↔ turn.after.link = none)
    (status : ∀ status, turn.outcome = .ok status →
      turn.written = [Frame.encode turn.call.request.encode]) : turn.Told where
  only := fun _ yields => yields.unique (.returned turn.step)
  tooLarge := iff_of_false (fun ⟨size, limit, same⟩ => other size limit same) (Nat.not_lt.2 fits)
  untouched := fun large => absurd fits (Nat.not_le.2 large)
  dead := dead.trans (and_iff_right fits).symm
  status := status

theorem told (turn : Turn π) : turn.Told := by
  obtain ⟨call, before, observed, outcome, after, step⟩ := turn
  cases step with
  | tooLarge large =>
      exact ⟨fun _ yields => yields.unique (.returned (.tooLarge large)),
        iff_of_true ⟨_, _, rfl⟩ large, fun _ => ⟨rfl, rfl⟩,
        iff_of_false nofun fun fits => absurd fits.1 (Nat.not_le.2 large), nofun⟩
  | dead fits => exact told_of_fits fits nofun (iff_of_true rfl rfl) nofun
  | hungUp fits closed => exact told_of_fits fits nofun (iff_of_true rfl rfl) nofun
  | unsent fits usable refused => exact told_of_fits fits nofun (iff_of_true rfl rfl) nofun
  | cut fits sent awaited cut => exact told_of_fits fits nofun (iff_of_true rfl rfl) nofun
  | garbled fits sent awaited small read garbled =>
      exact told_of_fits fits nofun (iff_of_false nofun nofun) nofun
  -- In the two steps that give a status, all of the request was written.
  | answered fits sent awaited small read =>
      refine told_of_fits fits nofun (iff_of_false nofun nofun) fun _ _ => ?_
      cases sent with
      | sent usable accepted => rfl
  | oneWay fits sent unawaited =>
      refine told_of_fits fits nofun (iff_of_false nofun nofun) fun _ _ => ?_
      cases sent with
      | sent usable accepted => rfl

theorem stays_dead (turn : Turn π) (dead : turn.before.link = none) :
    turn.observed = [] ∧ turn.after = turn.before := by
  obtain ⟨call, before, observed, outcome, after, step⟩ := turn
  cases step with
  | tooLarge large => exact ⟨rfl, rfl⟩
  | dead fits => exact ⟨rfl, rfl⟩
  | _ => contradiction

theorem Linked.stay_dead {first last : Remote π} {turns : List (Turn π)}
    (linked : Linked first turns last) (dead : first.link = none) :
    ∀ turn ∈ turns, turn.observed = [] ∧ turn.after = first := by
  induction turns generalizing first with
  | nil => exact List.forall_mem_nil _
  | cons turn rest inductionHypothesis =>
      obtain ⟨rfl, linkedRest⟩ := linked
      obtain ⟨silent, same⟩ := turn.stays_dead dead
      rw [same] at linkedRest
      exact List.forall_mem_cons.2 ⟨⟨silent, same⟩, inductionHypothesis linkedRest dead⟩

theorem Linked.pairwise_dead {first last : Remote π} {turns : List (Turn π)}
    (linked : Linked first turns last) :
    turns.Pairwise fun earlier later => earlier.after.link = none →
      later.observed = [] ∧ later.after = earlier.after := by
  induction turns generalizing first with
  | nil => exact .nil
  | cons turn rest inductionHypothesis =>
      exact .cons (fun later member dead => linked.2.stay_dead dead later member)
        (inductionHypothesis linked.2)

end Turn

namespace Remote

variable {σ π : Type}

theorem calls_linked (peer : Peer (StateM σ) π) (calls : List Call) (remote : Remote π)
    (journal : List (Stimulus × Reaction π)) (before : σ) :
    ∃ (turns : List (Turn π)) (last : Remote π) (unfinished : List (Stimulus × Reaction π))
      (result : Option (List (Except Fault Status) × Remote π)) (after : σ),
      Turn.Linked remote turns last ∧ Turn.Ended turns last calls unfinished result ∧
      ((((calls.mapM (Call.issue (binder peer.watched))).run remote).run).run journal).run before =
        ((result, journal ++ turns.flatMap Turn.observed ++ unfinished), after) := by
  -- A call leaves a remote binder, a journal and a state of the peer, whatever came
  -- of it; the next call begins with those.
  induction calls generalizing remote journal before with
  | nil =>
      refine ⟨[], remote, [], _, before, rfl, .returned, ?_⟩
      rw [List.flatMap_nil, List.append_nil, List.append_nil]
      rfl
  | cons call rest inductionHypothesis =>
      obtain ⟨observed, result, middle, yields, ran⟩ := issue_watched peer call remote journal before
      rw [List.mapM_cons, StateT.run_bind, OptionT.run_bind, Option.elimM, run_bind_of ran]
      cases yields with
      | waits waits =>
          refine ⟨[], remote, observed, none, middle, rfl, .waits waits, ?_⟩
          rw [List.flatMap_nil, List.append_nil]
          rfl
      | @returned outcome next step =>
          obtain ⟨turns, last, unfinished, result, after, linked, ended, ranRest⟩ :=
            inductionHypothesis next (journal ++ observed) middle
          rw [Option.elim_some, StateT.run_bind, OptionT.run_bind, Option.elimM, run_bind_of ranRest]
          refine ⟨⟨call, remote, observed, outcome, next, step⟩ :: turns, last, unfinished,
            result.map fun returned => (outcome :: returned.1, returned.2), after, ⟨rfl, linked⟩,
            ?_, ?_⟩
          · cases ended with
            | returned => exact .returned
            | waits waits => exact .waits waits
          · rw [List.flatMap_cons, ← List.append_assoc]
            cases result <;> rfl

end Remote

end Courier
