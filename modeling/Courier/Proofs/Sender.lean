import Courier.Program
import Courier.Proofs.Callback.Errand
import Courier.Proofs.Program
import Courier.Proofs.Remote

namespace Courier

/-! The sender against any peer.

A sender that gets past its arguments makes one connection and one call.  `Course`
lists how far it can come; all that the peer saw and did, the lines that were
printed, and the exit status follow from that. -/

/-- The peer for a program that has more effects. -/
def Peer.lifted {m : Type → Type} [Monad m] {τ π : Type} (peer : Peer m π) :
    Peer (StateT τ m) π where
  react := fun state stimulus => (peer.react state stimulus : m (Reaction π))

namespace Program

variable {m : Type → Type} [Monad m] [LawfulMonad m] {π : Type}

/-! One connection and one call. -/

/-- The stream to a peer that admits the connection: its first frame is the single
byte 0, and what it sent behind that is not read yet. -/
def admitted? (greeting : Reaction π) : Option (Link π) :=
  match Frame.front greeting.sent with
  | .frame payload rest =>
      if greeting.accepted = true ∧ payload = [0] then some ⟨greeting.peer, rest, greeting.closed⟩
      else none
  | _ => none

theorem decode_eq_accepted {payload : List UInt8} :
    Admission.decode payload = .ok .accepted ↔ payload = [0] := by
  unfold Admission.decode
  split <;> simp_all

theorem connect_admitted? (peer : Peer m π) (initial : π) (address : String) :
    Remote.connect peer initial address =
      (fun greeting =>
        match admitted? greeting with
        | some link => .ok ⟨address, some link⟩
        | none => .error (.deadObject address)) <$>
        peer.react initial .connected := by
  unfold Remote.connect
  rw [map_eq_pure_bind]
  refine bind_congr fun greeting => ?_
  have arrived : Link.after ⟨initial, [], false⟩ greeting =
      ⟨greeting.peer, greeting.sent, greeting.closed⟩ := rfl
  simp only [arrived, admitted?]
  cases taken : greeting.accepted with
  | false => cases Frame.front greeting.sent <;> simp
  | true =>
      cases Frame.front greeting.sent with
      | frame payload rest =>
          by_cases zero : payload = [0]
          · simp [zero, Admission.decode]
          · cases decoded : Admission.decode payload with
            | error fault => simp [zero, decoded]
            | ok admission =>
                cases admission with
                | accepted => exact absurd (decode_eq_accepted.1 decoded) zero
                | busy => simp [zero, decoded]
      | oversized size rest => rfl
      | incomplete => rfl

/-- The request in which a result is sent. -/
def call (policy : DeliveryPolicy) (result : Option Bundle) : Call :=
  ⟨Callback.sendResult, .ofBytes (Proxy.request result).bytes, Proxy.flags policy⟩

/-- What the sender prints, and how it ends, for what came of its request. -/
def conclusion (policy : DeliveryPolicy) (result : Option Bundle) (outcome : Except Fault Status) :
    List String × Except Failure Unit :=
  match policy with
  | .acknowledged =>
      match Proxy.acknowledgement outcome with
      | .ok () => ([Report.acknowledgedLine ++ "\n"], .ok ())
      | .error fault => ([], .error (.fault fault))
  | .oneWay =>
      if Proxy.undelivered outcome then ([Report.undeliveredLine result ++ "\n"], .ok ())
      else
        match outcome with
        | .ok _ => ([], .ok ())
        | .error fault => ([], .error (.fault fault))

theorem send_eq {machine : Machine m π} {put : String → m Unit}
    (prints : machine.output = .always put) (address : String) {json : Option String}
    {result : Option Bundle} (parsed : Report.parseResult json = .ok result) (policy : DeliveryPolicy) :
    (send machine address json policy).run = do
      let initial ← machine.dial address
      let greeting ← machine.peer.react initial .connected
      match admitted? greeting with
      | none => return some (.error (.unreachable address))
      | some link =>
          match (Proxy.request result).fault with
          | some fault => return some (.error (.fault fault))
          | none =>
              let called ← (((call policy result).issue (Remote.binder machine.peer)).run
                ⟨address, some link⟩).run
              match called with
              | none => return none
              | some (outcome, _) => do
                  forM (conclusion policy result outcome).1 put
                  return some (conclusion policy result outcome).2 := by
  unfold send
  simp only [parsed, connect_admitted?, OptionT.run_bind, OptionT.run_monadLift, monadLift_self,
    OptionT.run_lift, bind_pure_comp, Functor.map_map, Option.elimM_map, Option.elim_some]
  refine bind_congr fun initial => bind_congr fun greeting => ?_
  cases admitted? greeting with
  | none => simp
  | some link =>
      dsimp only
      rw [Proxy.deliver_eq]
      cases (Proxy.request result).fault with
      | some fault => simp
      | none =>
          simp only
          have asked : (proxy machine policy).remote.transact Callback.sendResult
            (.ofBytes (Proxy.request result).bytes) (Proxy.flags (proxy machine policy).policy) =
            (call policy result).issue (Remote.binder machine.peer) := rfl
          rw [asked]
          simp only [StateT.run_bind, bind_assoc, OptionT.run_bind]
          refine bind_congr fun called => ?_
          cases called with
          | none => simp
          | some returned =>
              obtain ⟨outcome, after⟩ := returned
              cases policy with
              | acknowledged =>
                  cases settled : Proxy.acknowledgement outcome <;>
                    simp [conclusion, proxy, settled, prints, Report.Writer.line_always]
              | oneWay =>
                  by_cases lost : Proxy.undelivered outcome = true
                  · simp [conclusion, proxy, lost, Proxy.resolveFallback, duringSession,
                      Report.undelivered, prints, Report.Writer.line_always]
                  · cases outcome <;> simp [conclusion, proxy, lost, Except.map]

/-- The exit status of the sender, which complains of a failure. -/
def ending (machine : Machine m π) : Option (Except Failure Unit) → m (Option Nat)
  | none => pure none
  | some (.ok ()) => pure (some 0)
  | some (.error reason) => do
      machine.complain reason.message
      return some 1

theorem run_send_eq (machine : Machine m π) {arguments : List String} {address : String}
    {json : Option String} {policy : DeliveryPolicy} {debugging : Bool}
    (asked : CommandLine.parse arguments = .ok (.run (.send address json policy) debugging)) :
    (run machine arguments).run = (send machine address json policy).run >>= ending machine := by
  simp only [run, asked, runCommand, bind_pure_comp, OptionT.run_bind]
  refine bind_congr fun ended => ?_
  rcases ended with _ | reason | done <;> simp [ending]

theorem issue_lifted {τ : Type} (peer : Peer m π) (call : Call) (remote : Remote π) (state : τ) :
    ((call.issue (Remote.binder peer.lifted)).run remote).run.run state =
      (fun result => (result, state)) <$> ((call.issue (Remote.binder peer)).run remote).run := by
  by_cases fits : 8 + call.data.size ≤ Limits.message
  · obtain ⟨address, link?⟩ := remote
    cases link? with
    | none => simp [Remote.issue_dead _ address fits]
    | some link =>
        rw [Remote.issue_alive _ address link fits, Remote.issue_alive _ address link fits]
        simp only [Peer.lifted, StateT.run_bind, StateT.run_monadLift, monadLift_self,
          bind_pure_comp, bind_map_left, map_bind]
        refine bind_congr fun first => ?_
        split
        · simp
        · simp only [StateT.run_bind, StateT.run_monadLift, monadLift_self, bind_pure_comp,
            bind_map_left, map_bind]
          refine bind_congr fun second => ?_
          split <;> simp
  · have large := Nat.not_le.1 fits
    simp [Remote.issue_tooLarge _ remote large]

variable {σ : Type}

/-- Effects with a record of the lines that were printed and of all that reached the
peer. -/
abbrev Watched (σ π : Type) :=
  StateT (List String) (StateT (List (Stimulus × Reaction π)) (StateM σ))

/-- A machine with a working output and a peer that does whatever it likes. -/
def watching (peer : Peer (StateM σ) π) (dial : String → StateM σ π)
    (complain : String → StateM σ Unit) : Machine (Watched σ π) π where
  output := .always fun text => modify (· ++ [text])
  complain := fun text => (complain text : StateM σ Unit)
  peer := peer.watched.lifted
  dial := fun address => (dial address : StateM σ π)
  host := fun _ _ _ => pure (.ok ())

def exitStatus : Except Failure Unit → Nat
  | .ok () => 0
  | .error _ => 1

/-- How the sender can go: what reaches the peer and what that does, the lines that
are printed, and the exit status, unless the sender waits for ever. -/
inductive Course (address : String) (json : Option String) (policy : DeliveryPolicy) :
    List (Stimulus × Reaction π) → List String → Option Nat → Prop where
  | refused {reason : Report.Refusal} (unparsed : Report.parseResult json = .error reason) :
      Course address json policy [] [] (some 1)
  | turnedAway {result : Option Bundle} {greeting : Reaction π}
      (parsed : Report.parseResult json = .ok result) (unadmitted : admitted? greeting = none) :
      Course address json policy [(.connected, greeting)] [] (some 1)
  | unencodable {result : Option Bundle} {greeting : Reaction π} {link : Link π} {fault : Fault}
      (parsed : Report.parseResult json = .ok result) (admitted : admitted? greeting = some link)
      (stopped : (Proxy.request result).fault = some fault) :
      Course address json policy [(.connected, greeting)] [] (some 1)
  | waits {result : Option Bundle} {greeting : Reaction π} {link : Link π}
      {observed : List (Stimulus × Reaction π)} (parsed : Report.parseResult json = .ok result)
      (admitted : admitted? greeting = some link) (finished : (Proxy.request result).fault = none)
      (waits : Remote.Waits (call policy result) ⟨address, some link⟩ observed) :
      Course address json policy ((.connected, greeting) :: observed) [] none
  | called {result : Option Bundle} {greeting : Reaction π} {link : Link π}
      {observed : List (Stimulus × Reaction π)} {outcome : Except Fault Status} {after : Remote π}
      (parsed : Report.parseResult json = .ok result) (admitted : admitted? greeting = some link)
      (finished : (Proxy.request result).fault = none)
      (step : Remote.Step (call policy result) ⟨address, some link⟩ observed outcome after) :
      Course address json policy ((.connected, greeting) :: observed)
        (conclusion policy result outcome).1 (some (exitStatus (conclusion policy result outcome).2))

theorem run_bind_watched {α β : Type} {action : Watched σ π α} {next : α → Watched σ π β}
    {printed lines : List String} {journal noted : List (Stimulus × Reaction π)}
    {before middle : σ} {value : α}
    (ran : ((action.run printed).run journal).run before = (((value, lines), noted), middle)) :
    (((action >>= next).run printed).run journal).run before =
      (((next value).run lines).run noted).run middle := by
  rw [StateT.run_bind, run_bind_of ran]

section

variable (peer : Peer (StateM σ) π) (dial : String → StateM σ π)
  (complain : String → StateM σ Unit)

theorem run_dial (address : String) (printed : List String)
    (journal : List (Stimulus × Reaction π)) (before : σ) :
    ((((watching peer dial complain).dial address).run printed).run journal).run before =
      (((((dial address).run before).1, printed), journal), ((dial address).run before).2) :=
  rfl

theorem run_react (state : π) (stimulus : Stimulus) (printed : List String)
    (journal : List (Stimulus × Reaction π)) (before : σ) :
    ((((watching peer dial complain).peer.react state stimulus).run printed).run journal).run
        before =
      (((((peer.react state stimulus).run before).1, printed),
        journal ++ [(stimulus, ((peer.react state stimulus).run before).1)]),
        ((peer.react state stimulus).run before).2) :=
  rfl

theorem run_issue (call : Call) (remote : Remote π) (printed : List String)
    (journal : List (Stimulus × Reaction π)) (before : σ) :
    ∃ (observed : List (Stimulus × Reaction π))
      (result : Option (Except Fault Status × Remote π)) (after : σ),
      Remote.Yields call remote observed result ∧
      (((((call.issue (Remote.binder (watching peer dial complain).peer)).run remote).run.run
        printed).run journal).run before) = (((result, printed), journal ++ observed), after) := by
  obtain ⟨observed, result, after, yields, ran⟩ :=
    Remote.issue_watched peer call remote journal before
  refine ⟨observed, result, after, yields, ?_⟩
  change ((((call.issue (Remote.binder peer.watched.lifted)).run remote).run.run printed).run
    journal).run before = _
  rw [issue_lifted, StateT.run_map, StateT.run_map, ran]
  rfl

theorem run_ending (ended : Except Failure Unit) (printed : List String)
    (journal : List (Stimulus × Reaction π)) (before : σ) :
    ∃ after, (((ending (watching peer dial complain) (some ended)).run printed).run journal).run
      before = (((some (exitStatus ended), printed), journal), after) := by
  cases ended with
  | ok done => exact ⟨before, rfl⟩
  | error reason => exact ⟨((complain reason.message).run before).2, rfl⟩

end

theorem run_lines (lines printed : List String) (journal : List (Stimulus × Reaction π))
    (before : σ) :
    (((forM lines fun text => (modify (· ++ [text]) : Watched σ π Unit)).run printed).run
      journal).run before = ((((), printed ++ lines), journal), before) := by
  induction lines generalizing printed with
  | nil => rw [List.append_nil]; rfl
  | cons line rest inductionHypothesis =>
      rw [List.forM_cons]
      change (((forM rest fun text => (modify (· ++ [text]) : Watched σ π Unit)).run
        (printed ++ [line])).run journal).run before = _
      rw [inductionHypothesis, List.append_assoc]
      rfl

theorem run_course (peer : Peer (StateM σ) π) (dial : String → StateM σ π)
    (complain : String → StateM σ Unit) {arguments : List String} {address : String}
    {json : Option String} {policy : DeliveryPolicy} {debugging : Bool}
    (asked : CommandLine.parse arguments = .ok (.run (.send address json policy) debugging))
    (before : σ) :
    ∃ (seen : List (Stimulus × Reaction π)) (printed : List String) (status : Option Nat)
      (after : σ),
      Course address json policy seen printed status ∧
      (((run (watching peer dial complain) arguments).run.run []).run []).run before =
        (((status, printed), seen), after) := by
  rw [run_send_eq _ asked]
  cases parsed : Report.parseResult json with
  | error reason =>
      have refused : (send (watching peer dial complain) address json policy).run =
          pure (some (.error (.refused reason))) := by
        simp [send, parsed]
      rw [refused]
      exact ⟨[], [], some 1, _, .refused parsed, rfl⟩
  | ok result =>
      rw [send_eq rfl address parsed, bind_assoc, run_bind_watched (run_dial ..), bind_assoc,
        run_bind_watched (run_react ..)]
      generalize (peer.react _ Stimulus.connected).run _ = greeted
      obtain ⟨greeting, met⟩ := greeted
      dsimp only
      cases admitted : admitted? greeting with
      | none => exact ⟨_, _, _, _, .turnedAway parsed admitted, rfl⟩
      | some link =>
          cases written : (Proxy.request result).fault with
          | some fault => exact ⟨_, _, _, _, .unencodable parsed admitted written, rfl⟩
          | none =>
              obtain ⟨observed, called, middle, yields, issued⟩ := run_issue peer dial complain
                (call policy result) ⟨address, some link⟩ [] [(.connected, greeting)] met
              dsimp only [List.nil_append]
              rw [bind_assoc, run_bind_watched issued]
              cases yields with
              | waits waits => exact ⟨_, _, _, _, .waits parsed admitted written waits, rfl⟩
              | @returned outcome last step =>
                  obtain ⟨after, ended⟩ := run_ending peer dial complain
                    (conclusion policy result outcome).2 ([] ++ (conclusion policy result outcome).1)
                    ((.connected, greeting) :: observed) middle
                  refine ⟨_, _, _, after, .called parsed admitted written step, ?_⟩
                  dsimp only
                  rw [bind_assoc, run_bind_watched (run_lines ..), pure_bind]
                  exact ended

/-! What a course comes to. -/

/-- The host admits the connection: what it sends begins with the frame of the single
byte 0, and the rest is left to read. -/
structure Admits (greeting : Reaction π) (link : Link π) : Prop where
  accepted : greeting.accepted = true
  read : greeting.sent = Frame.encode [0] ++ link.unread
  peer : link.peer = greeting.peer
  closed : link.closed = greeting.closed

theorem admitted?_eq_some {greeting : Reaction π} {link : Link π} :
    admitted? greeting = some link ↔ Admits greeting link := by
  constructor
  · intro admitted
    unfold admitted? at admitted
    split at admitted
    · rename_i payload rest found
      obtain ⟨small, read⟩ := Frame.front_eq_frame.1 found
      split at admitted
      · rename_i welcome
        obtain ⟨accepted, rfl⟩ := welcome
        cases admitted
        exact ⟨accepted, read, rfl, rfl⟩
      · contradiction
    · contradiction
  · rintro ⟨accepted, read, peer, closed⟩
    have found : Frame.front greeting.sent = .frame [0] link.unread :=
      read ▸ Frame.front_encode (by decide) _
    simp only [admitted?, found, accepted, ← peer, ← closed, and_self, if_true]

/-- The request for a result has an encoding, and room in a frame. -/
structure Sendable (result : Option Bundle) : Prop where
  shallow : ∀ bundle, result = some bundle → bundle.depth ≤ Limits.bundleDepth
  fits : 8 + (Proxy.request result).bytes.length ≤ Limits.message

theorem fault_request_eq_none {result : Option Bundle} :
    (Proxy.request result).fault = none ↔
      ∀ bundle, result = some bundle → bundle.depth ≤ Limits.bundleDepth := by
  cases result with
  | none => exact ⟨fun _ => nofun, fun _ => rfl⟩
  | some bundle => simp [Proxy.fault_request_some]

/-- A result can be sent, and the peer admits the connection; `observed` is all that
reaches the peer from then on, and what it does. -/
structure Ready (json : Option String) (seen : List (Stimulus × Reaction π))
    (result : Option Bundle) (link : Link π) (observed : List (Stimulus × Reaction π)) :
    Prop where
  parsed : Report.parseResult json = .ok result
  sendable : Sendable result
  admitted : ∃ greeting, Admits greeting link ∧ seen = (.connected, greeting) :: observed

/-- The request goes out, and the next frame from the peer has the status byte 0 and
data that starts with four zero bytes. -/
inductive Accepted (call : Call) (link : Link π) (observed : List (Stimulus × Reaction π)) :
    Prop where
  | accepted {arrived : Link π} {data rest : List UInt8}
      (sent : Remote.Sent call link observed arrived)
      (small : (0 :: 0 :: 0 :: 0 :: 0 :: data).length ≤ Limits.message)
      (read : arrived.unread = Frame.encode (0 :: 0 :: 0 :: 0 :: 0 :: data) ++ rest)

/-- The connection is found closed, or the request cannot be written. -/
inductive Unsent (call : Call) (link : Link π) : List (Stimulus × Reaction π) → Prop where
  | hungUp {first : Reaction π} (closed : (link.after first).hungUp = true) :
      Unsent call link [(.idle, first)]
  | refused {first second : Reaction π} (usable : (link.after first).hungUp = false)
      (refused : second.accepted = false) :
      Unsent call link
        [(.idle, first), (.received (Frame.encode call.request.encode), second)]

/-- How the sender ends, and what it has printed then.  It has no status only while it
waits for the rest of a reply. -/
structure Exits (json : Option String) (policy : DeliveryPolicy)
    (seen : List (Stimulus × Reaction π)) (printed : List String) (status : Option Nat) :
    Prop where
  rejected : ∀ reason, Report.parseResult json = .error reason → seen = [] ∧ status = some 1
  silent : status ≠ some 0 → printed = []
  waiting : status = none → policy = .acknowledged ∧ ∃ result link observed arrived,
    Ready json seen result link observed ∧
    Remote.Sent (call .acknowledged result) link observed arrived ∧
    arrived.closed = false ∧ Connection.Waiting arrived.unread
  acknowledged : policy = .acknowledged →
    (status = some 0 ↔ ∃ result link observed, Ready json seen result link observed ∧
      Accepted (call .acknowledged result) link observed)
  confirmed : policy = .acknowledged → status = some 0 → printed = ["CALLBACK_ACK=ok\n"]
  unacknowledged : policy = .oneWay →
    (status = some 0 ↔ ∃ result link observed, Ready json seen result link observed)
  reported : policy = .oneWay → ∀ result link observed, Ready json seen result link observed →
    (∃ arrived, Remote.Sent (call .oneWay result) link observed arrived) ∧ printed = [] ∨
    Unsent (call .oneWay result) link observed ∧
      printed = ["CALLBACK_UNDELIVERED=" ++ (result.elim .null Bundle.toJson).render ++ "\n"]

section

variable {address : String} {json : Option String} {policy : DeliveryPolicy}
  {seen observed : List (Stimulus × Reaction π)} {printed : List String} {status : Option Nat}
  {result : Option Bundle} {link : Link π}

theorem Ready.of_admitted? {greeting : Reaction π} (parsed : Report.parseResult json = .ok result)
    (admitted : admitted? greeting = some link) (finished : (Proxy.request result).fault = none)
    (fits : 8 + (Proxy.request result).bytes.length ≤ Limits.message) :
    Ready json ((.connected, greeting) :: observed) result link observed :=
  ⟨parsed, ⟨fault_request_eq_none.1 finished, fits⟩, greeting, admitted?_eq_some.1 admitted, rfl⟩

/-- Once a connection is admitted, the call decides. -/
theorem Course.yields (course : Course address json policy seen printed status)
    (ready : Ready json seen result link observed) :
    ∃ called, Remote.Yields (call policy result) ⟨address, some link⟩ observed called ∧
      status = called.map (fun returned => exitStatus (conclusion policy result returned.1).2) ∧
      printed = called.elim [] (fun returned => (conclusion policy result returned.1).1) := by
  obtain ⟨parsed, ⟨shallow, fits⟩, greeting, admits, saw⟩ := ready
  have admitted := admitted?_eq_some.2 admits
  cases course with
  | refused unparsed => cases saw
  | turnedAway _ unadmitted =>
      cases saw
      rw [admitted] at unadmitted
      contradiction
  | unencodable described _ stopped =>
      cases parsed.symm.trans described
      rw [fault_request_eq_none.2 shallow] at stopped
      contradiction
  | waits described entered finished waits =>
      cases parsed.symm.trans described
      cases saw
      cases admitted.symm.trans entered
      exact ⟨none, .waits waits, rfl, rfl⟩
  | @called _ _ _ _ outcome after described entered finished step =>
      cases parsed.symm.trans described
      cases saw
      cases admitted.symm.trans entered
      exact ⟨some (outcome, after), .returned step, rfl, rfl⟩

/-- A call that is too large for a frame fails under either policy. -/
theorem exitStatus_tooLarge (policy : DeliveryPolicy) (result : Option Bundle) (size limit : Nat) :
    exitStatus (conclusion policy result (.error (.payloadTooLarge size limit))).2 = 1 := by
  cases policy <;> rfl

/-- The sender succeeds with nothing but a result that can be sent over an admitted
connection. -/
theorem Course.ready (course : Course address json policy seen printed (some 0)) :
    ∃ result link observed, Ready json seen result link observed := by
  generalize succeeded : some 0 = status at course
  cases course with
  | refused | turnedAway | unencodable | waits => contradiction
  | @called result greeting link observed outcome after parsed admitted finished step =>
      refine ⟨result, link, observed, .of_admitted? parsed admitted finished ?_⟩
      by_contra large
      cases (Remote.Yields.returned step).verdict_eq.symm.trans (if_neg large)
      rw [exitStatus_tooLarge] at succeeded
      contradiction

theorem acknowledgement_eq_ok {outcome : Except Fault Status} :
    Proxy.acknowledgement outcome = .ok () ↔
      ∃ reply rest, outcome = .ok (.handled reply) ∧
        reply.bytes.drop reply.position = Wire.noException ++ rest := by
  constructor
  · intro settled
    rcases outcome with fault | reply | _
    · contradiction
    · obtain ⟨cursor, decoded, _⟩ := Parcel.read_eq_ok.1 (Prod.ext settled rfl)
      exact ⟨reply, cursor.unread, rfl, (Decoder.exception_eq_ok.1 decoded).1⟩
    · contradiction
  · rintro ⟨reply, rest, rfl, unread⟩
    have taken : Decoder.exception reply.cursor = .ok () ⟨reply.position + 4, rest⟩ :=
      Decoder.exception_eq_ok.2 ⟨unread, rfl⟩
    exact congrArg Prod.fst (Parcel.read_eq_ok.2 ⟨_, taken, rfl⟩)

theorem awaited_call (result : Option Bundle) :
    (call .acknowledged result).flags.isOneWay = false := by
  change Flags.none.isOneWay = false
  rfl

theorem unawaited_call (result : Option Bundle) :
    (call .oneWay result).flags.isOneWay = true := by
  change Flags.oneWay.isOneWay = true
  rfl

/-- A call that is waited for is acknowledged exactly when the next frame accepts it. -/
theorem accepted_iff (fits : 8 + (Proxy.request result).bytes.length ≤ Limits.message) :
    Accepted (call .acknowledged result) link observed ↔
      ∃ outcome after,
        Remote.Step (call .acknowledged result) ⟨address, some link⟩ observed outcome after ∧
        Proxy.acknowledgement outcome = .ok () := by
  constructor
  · intro accepted
    cases accepted with
    | @accepted arrived data rest sent small read =>
        have answer : Reply.encode ⟨true, Wire.noException ++ data⟩ =
            0 :: 0 :: 0 :: 0 :: 0 :: data := rfl
        rw [← answer] at small read
        exact ⟨_, _, .answered fits sent (awaited_call result) small read,
          acknowledgement_eq_ok.2 ⟨_, data, rfl, rfl⟩⟩
  · rintro ⟨outcome, after, step, settled⟩
    obtain ⟨reply, data, rfl, unread⟩ := acknowledgement_eq_ok.1 settled
    generalize returned : Except.ok (Status.handled reply) = outcome at step
    cases step with
    | @answered _ _ _ _ answer rest _ sent _ small read =>
        obtain ⟨handled, answered⟩ := answer
        cases handled with
        | false => nomatch returned
        | true =>
            cases returned
            change answered = _ at unread
            subst unread
            exact .accepted sent small read
    | oneWay _ _ unawaited => cases (awaited_call result).symm.trans unawaited
    | _ => nomatch returned

/-- A one-way call always comes to something: the request goes out, or the result is
left to the fallback. -/
theorem oneWay_yields {called : Option (Except Fault Status × Remote π)}
    (fits : 8 + (Proxy.request result).bytes.length ≤ Limits.message)
    (yields : Remote.Yields (call .oneWay result) ⟨address, some link⟩ observed called) :
    ∃ outcome after, called = some (outcome, after) ∧
      ((∃ arrived, Remote.Sent (call .oneWay result) link observed arrived) ∧
          outcome = .ok (.handled .empty) ∨
        Unsent (call .oneWay result) link observed ∧ outcome = .error (.deadObject address)) := by
  have unawaited := unawaited_call result
  cases yields with
  | waits waits =>
      cases waits with
      | waits _ _ awaited => cases unawaited.symm.trans awaited
  | @returned outcome after step =>
      refine ⟨outcome, after, rfl, ?_⟩
      cases step with
      | tooLarge large => exact absurd fits (Nat.not_le.2 large)
      | hungUp _ closed => exact .inr ⟨.hungUp closed, rfl⟩
      | unsent _ usable refused => exact .inr ⟨.refused usable refused, rfl⟩
      | oneWay _ sent _ => exact .inl ⟨⟨_, sent⟩, rfl⟩
      | cut _ _ awaited _ | garbled _ _ awaited _ _ _ | answered _ _ awaited _ _ =>
          cases unawaited.symm.trans awaited

theorem conclusion_acknowledged {outcome : Except Fault Status} :
    exitStatus (conclusion .acknowledged result outcome).2 = 0 ↔
      Proxy.acknowledgement outcome = .ok () := by
  unfold conclusion
  cases Proxy.acknowledgement outcome <;> simp [exitStatus]

/-- A failure leaves nothing printed. -/
theorem conclusion_silent {outcome : Except Fault Status}
    (failed : exitStatus (conclusion policy result outcome).2 ≠ 0) :
    (conclusion policy result outcome).1 = [] := by
  unfold conclusion at failed ⊢
  cases policy with
  | acknowledged =>
      cases settled : Proxy.acknowledgement outcome with
      | ok done => simp [settled, exitStatus] at failed
      | error fault => rfl
  | oneWay =>
      dsimp only at failed ⊢
      split
      · simp_all [exitStatus]
      · cases outcome <;> rfl

/-- Success under an acknowledgement is an acknowledged call. -/
theorem Course.settled (course : Course address json .acknowledged seen printed (some 0)) :
    ∃ result link observed outcome after, Ready json seen result link observed ∧
      Remote.Step (call .acknowledged result) ⟨address, some link⟩ observed outcome after ∧
      Proxy.acknowledgement outcome = .ok () ∧
      printed = (conclusion .acknowledged result outcome).1 := by
  obtain ⟨result, link, observed, ready⟩ := course.ready
  obtain ⟨called, yields, succeeded, shown⟩ := course.yields ready
  cases yields with
  | waits => nomatch succeeded
  | @returned outcome after step =>
      have zero := Option.some.inj succeeded
      exact ⟨result, link, observed, outcome, after, ready, step,
        conclusion_acknowledged.1 zero.symm, shown⟩

theorem Course.exits (course : Course address json policy seen printed status) :
    Exits json policy seen printed status where
  rejected := by
    intro reason unparsed
    cases course with
    | refused => exact ⟨rfl, rfl⟩
    | turnedAway parsed | unencodable parsed | waits parsed | called parsed =>
        cases parsed.symm.trans unparsed
  silent := by
    intro failed
    cases course with
    | called => exact conclusion_silent fun zero => failed (congrArg some zero)
    | _ => rfl
  waiting := by
    intro unended
    cases course with
    | refused | turnedAway | unencodable | called => nomatch unended
    | @waits result greeting link observed parsed admitted finished waits =>
        cases waits with
        | waits fits sent awaited opened waiting =>
            cases policy with
            | acknowledged =>
                exact ⟨rfl, result, link, observed, _, .of_admitted? parsed admitted finished fits,
                  sent, opened, waiting⟩
            | oneWay => cases (unawaited_call result).symm.trans awaited
  acknowledged := by
    rintro rfl
    constructor
    · rintro rfl
      obtain ⟨result, link, observed, outcome, after, ready, step, settled, _⟩ := course.settled
      exact ⟨result, link, observed, ready,
        (accepted_iff ready.sendable.fits).2 ⟨outcome, after, step, settled⟩⟩
    · rintro ⟨result, link, observed, ready, accepted⟩
      obtain ⟨outcome, after, step, settled⟩ := (accepted_iff ready.sendable.fits).1 accepted
      obtain ⟨called, yields, rfl, _⟩ := course.yields ready
      rw [yields.unique (.returned step), Option.map_some, conclusion_acknowledged.2 settled]
  confirmed := by
    rintro rfl rfl
    obtain ⟨result, link, observed, outcome, after, _, _, settled, rfl⟩ := course.settled
    simp only [conclusion, settled]
    rfl
  unacknowledged := by
    rintro rfl
    constructor
    · rintro rfl
      exact course.ready
    · rintro ⟨result, link, observed, ready⟩
      obtain ⟨called, yields, rfl, _⟩ := course.yields ready
      obtain ⟨outcome, after, rfl, ⟨_, rfl⟩ | ⟨_, rfl⟩⟩ := oneWay_yields ready.sendable.fits yields
      · rfl
      · rfl
  reported := by
    rintro rfl result link observed ready
    obtain ⟨called, yields, _, rfl⟩ := course.yields ready
    obtain ⟨outcome, after, rfl, ⟨sent, rfl⟩ | ⟨unsent, rfl⟩⟩ :=
      oneWay_yields ready.sendable.fits yields
    · exact .inl ⟨sent, rfl⟩
    · exact .inr ⟨unsent, rfl⟩

end

/-- A sender with a working output, whatever its peer does: nothing is sent of a text
that is rejected, and a failure leaves nothing printed.  With an acknowledgement to wait
for, success means that the peer admitted the connection, that the request went out, and
that the next frame accepts it.  Without one, a result that can be sent over an admitted
connection is a success, and is printed exactly if the request did not go out.  The
sender ends, unless the peer keeps it waiting for the rest of a reply. -/
theorem send_exits (peer : Peer (StateM σ) π) (dial : String → StateM σ π)
    (complain : String → StateM σ Unit) {arguments : List String} {address : String}
    {json : Option String} {policy : DeliveryPolicy} {debugging : Bool}
    (asked : CommandLine.parse arguments = .ok (.run (.send address json policy) debugging))
    (before : σ) :
    ∃ (seen : List (Stimulus × Reaction π)) (printed : List String) (status : Option Nat)
      (after : σ),
      (((run (watching peer dial complain) arguments).run.run []).run []).run before =
        (((status, printed), seen), after) ∧
      Exits json policy seen printed status := by
  obtain ⟨seen, printed, status, after, course, ran⟩ := run_course peer dial complain asked before
  exact ⟨seen, printed, status, after, ran, course.exits⟩

/-- A host that accepts everything. -/
def acceptingSample : Peer (StateM Unit) Unit where
  react := fun _ stimulus =>
    match stimulus with
    | .connected => pure { peer := (), sent := Frame.encode [0] }
    | .idle => pure { peer := () }
    | .received _ => pure { peer := (), sent := Frame.encode [0, 0, 0, 0, 0] }

theorem send_exits_sample :
    ∃ seen, (((run (watching acceptingSample (fun _ => pure ()) (fun _ => pure ()))
          ["send", "--addr", "127.0.0.1:1", "--ack"]).run.run []).run []).run () =
        (((some 0, ["CALLBACK_ACK=ok\n"]), seen), ()) ∧
      Exits none .acknowledged seen ["CALLBACK_ACK=ok\n"] (some 0) := by
  have asked : CommandLine.parse ["send", "--addr", "127.0.0.1:1", "--ack"] =
      .ok (.run (.send "127.0.0.1:1" none .acknowledged) false) := by
    decide +kernel
  obtain ⟨seen, printed, status, after, ran, exits⟩ :=
    send_exits acceptingSample (fun _ => pure ()) (fun _ => pure ()) asked ()
  have accepted : ((((run (watching acceptingSample (fun _ => pure ()) (fun _ => pure ()))
      ["send", "--addr", "127.0.0.1:1", "--ack"]).run.run []).run []).run ()).1.1 =
      (some 0, ["CALLBACK_ACK=ok\n"]) := by
    decide +kernel
  rw [ran] at accepted
  cases accepted
  exact ⟨seen, ran, exits⟩

end Program

end Courier
