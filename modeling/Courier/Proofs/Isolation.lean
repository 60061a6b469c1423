import Courier.Proofs.Admission
import Courier.Proofs.Handling
import Courier.Proofs.Recycling

namespace Courier

/-! Connections of one host that do not influence each other.

The answers of a steady binder depend on the requests alone, and recycled parcels
look like new ones, so a run of a host with such a binder is a matter of the host and
its events.  What then shows on one connection depends on nothing but what its own
peer does, and on when the host is told to shut down. -/

section Steady

variable {σ : Type}

/-- An action settles on a result if it gives that on all threads, whatever is left in
their pools, and in every state. -/
def settling (σ : Type) : Simulation (StateT Threads (StateM σ)) Id where
  rel action result := ∀ (threads : Threads) (state : σ),
    ((action.run threads).run state).1.1 = result
  rel_pure value threads state := rfl
  rel_bind := by
    intro α β first result next follow begun went threads state
    change (((next ((first.run threads).run state).1.1).run _).run _).1.1 = follow result
    rw [begun threads state]
    exact went result _ _

/-- What comes of a call does not depend on the calls before it, nor on the threads. -/
def Binder.Steady (binder : Binder (StateT Threads (StateM σ)))
    (answer : Call → Except Fault Status) : Prop :=
  ∀ (call : Call) (threads : Threads) (state : σ),
    (((call.issue binder).run threads).run state).1.1 = answer call

/-- The binder that answers without any effect. -/
def Binder.answering (answer : Call → Except Fault Status) : Binder Id where
  transact := fun code data flags => answer ⟨code, data, flags⟩

variable {binder : Binder (StateT Threads (StateM σ))} {answer : Call → Except Fault Status}

theorem Binder.Steady.related (steady : binder.Steady answer) :
    (settling σ).RelBinder binder (.answering answer) :=
  fun code data flags => steady ⟨code, data, flags⟩

theorem Supply.settled_pooled : (settling σ).Clean .pooled where
  obtain threads _ := (threads.pools (threads.schedule 0)).obtain_empty
  recycle _ _ _ := rfl

theorem Connection.serve_steady (steady : binder.Steady answer) (received : List UInt8) :
    (settling σ).rel (serve binder received .pooled) (serve (.answering answer) received) :=
  Supply.settled_pooled.serve steady.related received

theorem Host.run_steady (steady : binder.Steady answer) (host : Host) (events : List Event) :
    (settling σ).rel (host.run binder events .pooled) (host.run (.answering answer) events) :=
  Supply.settled_pooled.run steady.related host events

/-- A handler that answers alike in every state makes a steady binder, for all the
parcels that it is given and gives back. -/
theorem Binder.steady_ofHandler {handler : Handler (StateM σ)}
    (answers : ∀ (call : Call) (state : σ),
      ((call.issue (.ofHandler handler)).run state).1 = answer call) :
    (Binder.ofHandler handler.threaded .pooled).Steady answer := by
  intro call threads state
  have forgotten := (Supply.clean_pooled.relBinder_ofHandler handler.relHandler_threaded)
    call.code call.data call.flags threads
  exact (congrArg (fun action => (action.run state).1) forgotten).trans (answers call state)

end Steady

namespace Connection

/-- What a connection keeps is the start of a frame. -/
theorem waiting_of_served (binder : Binder Id) (received : List UInt8) {rest : List UInt8}
    (kept : (serve binder received).pending = some rest) : Waiting rest := by
  obtain waiting | broken | ⟨request, later, fits, rfl⟩ := waiting_or_broken_or_request received
  · rw [serve_waiting binder waiting] at kept
    cases kept
    exact waiting
  · rw [serve_broken binder broken] at kept
    cases kept
  · rw [serve_answered binder fits] at kept
    change (if (Answered.mk request (request.call.issue binder)).Fits then _ else _ :
      Progress).pending = some rest at kept
    by_cases replyFits : (Answered.mk request (request.call.issue binder)).Fits
    · rw [if_pos replyFits] at kept
      exact waiting_of_served binder later kept
    · rw [if_neg replyFits] at kept
      cases kept
termination_by received.length
decreasing_by
  subst_vars
  rw [List.length_append, Frame.length_encode]
  omega

end Connection

namespace Host

variable {host : Host} {number other : Nat}

theorem pending?_keep_of_ne (different : other ≠ number) (rest : List UInt8) :
    (host.keep other rest).pending? number = host.pending? number := by
  have renamed : (fun connection : Nat × List UInt8 => connection.1 == number) ∘
      (fun connection => if connection.1 == other then (other, rest) else connection) =
        fun connection => connection.1 == number := by
    funext connection
    by_cases same : connection.1 = other <;> simp [same]
  unfold pending? keep
  rw [List.find?_map, renamed]
  cases found : host.connections.find? fun connection => connection.1 == number with
  | none => rfl
  | some connection =>
      have named := List.find?_some found
      have elsewhere : connection.1 ≠ other := fun same => different (same ▸ beq_iff_eq.1 named)
      simp [elsewhere]

theorem pending?_close_of_ne (different : other ≠ number) :
    (host.close other).pending? number = host.pending? number := by
  unfold pending? close
  rw [List.find?_filter]
  congr 2
  funext connection
  by_cases same : connection.1 = number <;> simp [same, different.symm]

theorem pending?_enter_of_ne (different : other ≠ number) (slots : Slots) (phase : Phase) :
    (Host.mk slots (host.connections ++ [(other, [])]) phase).pending? number =
      host.pending? number := by
  simp [pending?, List.find?_append, different]

theorem pending?_shutdown (host : Host) (number : Nat) :
    host.shutdown.pending? number = host.pending? number := by
  rw [pending?, connections_shutdown, pending?]

theorem pending?_withdraw (host : Host) (number : Nat) :
    host.withdraw.pending? number = host.pending? number := by
  rw [pending?, connections_withdraw, pending?]

theorem pending?_advance_of_ne (different : other ≠ number) (progress : Connection.Progress) :
    (host.advance other progress).pending? number = host.pending? number := by
  unfold advance
  cases progress.pending with
  | some rest => exact pending?_keep_of_ne different rest
  | none => exact pending?_close_of_ne different

/-- What the two have in common that shows on a connection. -/
structure Alike (number : Nat) (left right : Host × List Emission) : Prop where
  pending : left.1.pending? number = right.1.pending? number
  sent : sentTo number left.2 = sentTo number right.2

theorem sentTo_of_ne (different : other ≠ number) (sent : List UInt8) (closed : Bool) :
    sentTo number [⟨other, sent, closed⟩] = [] := by
  simp [sentTo, different]

/-- The event is not one of another connection: it is one of this connection, or of the
host. -/
def Event.regards (number : Nat) : Event → Bool
  | .connect other | .receive other _ | .leave other => other == number
  | .shutdown | .withdraw => true

theorem alike_accept (different : other ≠ number) :
    Alike number (host.accept other) (host, []) := by
  unfold accept
  split
  · exact ⟨rfl, rfl⟩
  split
  · exact ⟨rfl, sentTo_of_ne different _ _⟩
  split
  · exact ⟨pending?_enter_of_ne different _ _, sentTo_of_ne different _ _⟩
  · exact ⟨rfl, sentTo_of_ne different _ _⟩

theorem alike_leave (different : other ≠ number) : Alike number (host.leave other) (host, []) := by
  unfold leave
  split
  · exact ⟨rfl, rfl⟩
  · exact ⟨pending?_close_of_ne different, sentTo_of_ne different _ _⟩

/-- The steps of the other connections do not show. -/
theorem alike_step (binder : Binder Id) {event : Event} (elsewhere : event.regards number = false) :
    Alike number (host.step binder event) (host, []) := by
  cases event with
  | connect other => exact alike_accept (beq_eq_false_iff_ne.1 elsewhere)
  | leave other => exact alike_leave (beq_eq_false_iff_ne.1 elsewhere)
  | shutdown => contradiction
  | withdraw => contradiction
  | receive other bytes =>
      have different : other ≠ number := beq_eq_false_iff_ne.1 elsewhere
      change Alike number (host.receive binder other bytes) (host, [])
      cases opened : host.pending? other with
      | none =>
          unfold receive
          rw [opened]
          exact ⟨rfl, rfl⟩
      | some pending =>
          rw [receive_open binder opened]
          exact ⟨pending?_advance_of_ne different _, sentTo_of_ne different _ _⟩

theorem sentTo_run_cons (binder : Binder Id) (host : Host) (event : Event) (rest : List Event)
    (number : Nat) :
    sentTo number (host.run binder (event :: rest)).2 =
      sentTo number (host.step binder event).2 ++
        sentTo number ((host.step binder event).1.run binder rest).2 :=
  sentTo_append number _ _

/-- A step of the connection itself shows alike wherever the same bytes wait. -/
theorem alike_own (binder : Binder Id) {left right : Host} {event : Event}
    (same : left.pending? number = right.pending? number) (regarded : event.regards number = true)
    (unadmitted : event ≠ .connect number) :
    Alike number (left.step binder event) (right.step binder event) := by
  cases event with
  | connect other => exact absurd (congrArg Event.connect (beq_iff_eq.1 regarded)) unadmitted
  | leave other =>
      obtain rfl : other = number := beq_iff_eq.1 regarded
      change Alike other (left.leave other) (right.leave other)
      unfold leave
      rw [same]
      cases opened : right.pending? other with
      | none => exact ⟨same, rfl⟩
      | some pending =>
          exact ⟨(pending?_close left other).trans (pending?_close right other).symm, rfl⟩
  | shutdown =>
      refine ⟨?_, rfl⟩
      exact (left.pending?_shutdown number).trans (same.trans (right.pending?_shutdown number).symm)
  | withdraw =>
      refine ⟨?_, rfl⟩
      exact (left.pending?_withdraw number).trans (same.trans (right.pending?_withdraw number).symm)
  | receive other bytes =>
      obtain rfl : other = number := beq_iff_eq.1 regarded
      change Alike other (left.receive binder other bytes) (right.receive binder other bytes)
      cases opened : right.pending? other with
      | none =>
          unfold receive
          rw [same, opened]
          exact ⟨same, rfl⟩
      | some pending =>
          rw [opened] at same
          rw [receive_open binder opened, receive_open binder same]
          exact ⟨(pending?_advance same _).trans (pending?_advance opened _).symm, rfl⟩

/-- Events that admit nobody under the number show on its connection as those of
them do that regard it. -/
theorem alike_run (binder : Binder Id) {left right : Host} {events : List Event}
    (same : left.pending? number = right.pending? number) (unadmitted : .connect number ∉ events) :
    Alike number (left.run binder events)
      (right.run binder (events.filter (Event.regards number))) := by
  induction events generalizing left right with
  | nil => exact ⟨same, rfl⟩
  | cons event rest inductionHypothesis =>
      obtain ⟨different, later⟩ := List.ne_and_not_mem_of_not_mem_cons unadmitted
      cases regarded : event.regards number with
      | true =>
          have stepped := alike_own binder same regarded different.symm
          have ran := inductionHypothesis stepped.pending later
          rw [List.filter_cons_of_pos regarded]
          refine ⟨ran.pending, ?_⟩
          rw [sentTo_run_cons, sentTo_run_cons, stepped.sent, ran.sent]
      | false =>
          have stepped := @alike_step left number binder event regarded
          have ran := inductionHypothesis (stepped.pending.trans same) later
          rw [List.filter_cons_of_neg (by rw [regarded]; decide)]
          refine ⟨ran.pending, ?_⟩
          rw [sentTo_run_cons, stepped.sent, ran.sent]
          rfl

/-- The bytes that the peer of an open connection sends before the connection
ends. -/
def arrivals (number : Nat) : List Event → List UInt8
  | [] => []
  | .connect _ :: rest => arrivals number rest
  | .receive other bytes :: rest =>
      if other = number then bytes ++ arrivals number rest else arrivals number rest
  | .leave other :: rest => if other = number then [] else arrivals number rest
  | .shutdown :: rest | .withdraw :: rest => arrivals number rest

/-- A connection that is not open stays so, and is sent nothing, until it is let
in. -/
theorem alike_closed (binder : Binder Id) {events : List Event}
    (closed : host.pending? number = none) (unadmitted : .connect number ∉ events) :
    Alike number (host.run binder events) (host, []) := by
  induction events generalizing host with
  | nil => exact ⟨rfl, rfl⟩
  | cons event rest inductionHypothesis =>
      obtain ⟨different, later⟩ := List.ne_and_not_mem_of_not_mem_cons unadmitted
      have stepped : Alike number (host.step binder event) (host, []) := by
        cases concerned : event.concerns number with
        | true =>
            rw [step_concerns binder (pending?_eq_none.1 closed) concerned different.symm]
            exact ⟨rfl, rfl⟩
        | false =>
            cases event with
            | shutdown => exact ⟨host.pending?_shutdown number, rfl⟩
            | withdraw => exact ⟨host.pending?_withdraw number, rfl⟩
            | _ => exact alike_step binder concerned
      have ran := inductionHypothesis (stepped.pending.trans closed) later
      refine ⟨ran.pending.trans stepped.pending, ?_⟩
      rw [sentTo_run_cons, stepped.sent, ran.sent]
      rfl

theorem arrivals_elsewhere {event : Event} (elsewhere : event.regards number = false)
    (rest : List Event) : arrivals number (event :: rest) = arrivals number rest := by
  cases event with
  | connect other => rfl
  | receive other bytes => exact if_neg (beq_eq_false_iff_ne.1 elsewhere)
  | leave other => exact if_neg (beq_eq_false_iff_ne.1 elsewhere)
  | shutdown => contradiction
  | withdraw => contradiction

theorem sent_of_waiting (binder : Binder Id) {pending : List UInt8}
    (waiting : Connection.Waiting pending) :
    (Connection.serve binder (pending ++ [])).sent = [] := by
  rw [List.append_nil, Connection.serve_waiting binder waiting]
  rfl

theorem step_open (binder : Binder Id) {pending : List UInt8}
    (opened : host.pending? number = some pending) (bytes : List UInt8) :
    host.step binder (.receive number bytes) =
      (host.advance number (Connection.serve binder (pending ++ bytes)),
        [⟨number, (Connection.serve binder (pending ++ bytes)).sent,
          (Connection.serve binder (pending ++ bytes)).pending.isNone⟩]) :=
  receive_open binder opened bytes

theorem serve_later (binder : Binder Id) (first later : List UInt8) :
    (Connection.serve binder (first ++ later)).sent =
      (Connection.serve binder first).sent ++
        match (Connection.serve binder first).pending with
        | none => []
        | some rest => (Connection.serve binder (rest ++ later)).sent := by
  rw [Connection.serve_append]
  change ((Connection.serve binder first).followed binder later).sent = _
  unfold Connection.Progress.followed
  cases (Connection.serve binder first).pending with
  | none => exact (List.append_nil _).symm
  | some rest => rfl

/-- An open connection is sent what comes of the bytes that its peer sends. -/
theorem sentTo_open (binder : Binder Id) {pending : List UInt8} {events : List Event}
    (opened : host.pending? number = some pending) (waiting : Connection.Waiting pending)
    (unadmitted : .connect number ∉ events) :
    sentTo number (host.run binder events).2 =
      (Connection.serve binder (pending ++ arrivals number events)).sent := by
  induction events generalizing host pending with
  | nil => exact (sent_of_waiting binder waiting).symm
  | cons event rest inductionHypothesis =>
      obtain ⟨different, later⟩ := List.ne_and_not_mem_of_not_mem_cons unadmitted
      rw [sentTo_run_cons]
      cases regarded : event.regards number with
      | false =>
          have stepped := @alike_step host number binder event regarded
          have ran := inductionHypothesis (stepped.pending.trans opened) waiting later
          rw [stepped.sent, arrivals_elsewhere regarded, ran]
          rfl
      | true =>
          cases event with
          | connect other =>
              exact absurd (congrArg Event.connect (beq_iff_eq.1 regarded)).symm different
          | leave other =>
              obtain rfl : other = number := beq_iff_eq.1 regarded
              have left : host.step binder (.leave other) =
                  (host.close other, [⟨other, [], true⟩]) := by
                simp only [step, leave, opened]
                rfl
              rw [left, sentTo_single, (alike_closed binder (pending?_close host other) later).sent,
                arrivals, if_pos rfl, sent_of_waiting binder waiting]
              rfl
          | shutdown =>
              exact inductionHypothesis ((host.pending?_shutdown number).trans opened) waiting later
          | withdraw =>
              exact inductionHypothesis ((host.pending?_withdraw number).trans opened) waiting later
          | receive other bytes =>
              obtain rfl : other = number := beq_iff_eq.1 regarded
              have advanced := pending?_advance opened (Connection.serve binder (pending ++ bytes))
              have sent := serve_later binder (pending ++ bytes) (arrivals other rest)
              rw [step_open binder opened, sentTo_single, arrivals, if_pos rfl,
                ← List.append_assoc, sent]
              congr 1
              cases kept : (Connection.serve binder (pending ++ bytes)).pending with
              | none => exact (alike_closed binder (advanced.trans kept) later).sent
              | some left =>
                  have waits := Connection.waiting_of_served binder (pending ++ bytes) kept
                  exact inductionHypothesis (advanced.trans kept) waits later

/-- How far a host is with shutting down after an event. -/
def Phase.after (phase : Phase) : Event → Phase
  | .shutdown => if phase = .running then .signalled else phase
  | .withdraw => if phase = .running then phase else .withdrawn
  | .connect _ | .receive _ _ | .leave _ => phase

theorem shutdown_eq (host : Host) :
    host.shutdown = { host with phase := host.phase.after .shutdown } := by
  obtain ⟨slots, connections, phase⟩ := host
  cases phase <;> rfl

theorem withdraw_eq (host : Host) :
    host.withdraw = { host with phase := host.phase.after .withdraw } := by
  obtain ⟨slots, connections, phase⟩ := host
  cases phase <;> rfl

/-- How many connections a host takes never changes, and the shutdown is a matter of the
events alone. -/
theorem step_lasting (binder : Binder Id) (host : Host) (event : Event) :
    (host.step binder event).1.slots.limit = host.slots.limit ∧
      (host.step binder event).1.phase = host.phase.after event := by
  cases event with
  | connect other =>
      change (host.accept other).1.slots.limit = _ ∧ (host.accept other).1.phase = host.phase
      unfold accept Slots.acquire?
      by_cases free : host.slots.active < host.slots.limit <;>
        cases host.pending? other <;> cases listening : host.listening <;> simp [free]
  | receive other bytes =>
      change (host.receive binder other bytes).1.slots.limit = _ ∧
        (host.receive binder other bytes).1.phase = host.phase
      cases opened : host.pending? other with
      | none =>
          unfold receive
          rw [opened]
          exact ⟨rfl, rfl⟩
      | some pending =>
          rw [receive_open binder opened]
          change (host.advance other _).slots.limit = _ ∧ (host.advance other _).phase = host.phase
          unfold advance
          split <;> exact ⟨rfl, rfl⟩
  | leave other =>
      change (host.leave other).1.slots.limit = _ ∧ (host.leave other).1.phase = host.phase
      unfold leave
      split <;> exact ⟨rfl, rfl⟩
  | shutdown =>
      change host.shutdown.slots.limit = _ ∧ host.shutdown.phase = _
      rw [shutdown_eq]
      exact ⟨rfl, rfl⟩
  | withdraw =>
      change host.withdraw.slots.limit = _ ∧ host.withdraw.phase = _
      rw [withdraw_eq]
      exact ⟨rfl, rfl⟩

theorem run_lasting (binder : Binder Id) (host : Host) (events : List Event) :
    (host.run binder events).1.slots.limit = host.slots.limit ∧
      (host.run binder events).1.phase = events.foldl Phase.after host.phase := by
  induction events generalizing host with
  | nil => exact ⟨rfl, rfl⟩
  | cons event rest inductionHypothesis =>
      obtain ⟨limit, phase⟩ := step_lasting binder host event
      obtain ⟨limitRest, phaseRest⟩ := inductionHypothesis (host.step binder event).1
      exact ⟨limitRest.trans limit, phaseRest.trans (congrArg (rest.foldl Phase.after) phase)⟩

/-- Of the events that regard a connection, a host without it does only those of its
own. -/
theorem run_regarding (binder : Binder Id) {events : List Event}
    (absent : number ∉ host.numbers) (unadmitted : .connect number ∉ events) :
    host.run binder (events.filter (Event.regards number)) =
      ({ host with phase := events.foldl Phase.after host.phase }, []) := by
  induction events generalizing host with
  | nil => rfl
  | cons event rest inductionHypothesis =>
      obtain ⟨different, later⟩ := List.ne_and_not_mem_of_not_mem_cons unadmitted
      have stepped : event.regards number = true →
          host.step binder event = pure ({ host with phase := host.phase.after event }, []) := by
        intro regarded
        cases event with
        | shutdown => exact congrArg (fun next => pure (next, [])) host.shutdown_eq
        | withdraw => exact congrArg (fun next => pure (next, [])) host.withdraw_eq
        | _ => exact step_concerns binder absent regarded different.symm
      cases regarded : event.regards number with
      | false =>
          have same : host.phase.after event = host.phase := by
            cases event <;> first | rfl | contradiction
          rw [List.filter_cons_of_neg (by rw [regarded]; decide), inductionHypothesis absent later,
            List.foldl_cons, same]
      | true =>
          have ran := @inductionHypothesis { host with phase := host.phase.after event } absent later
          rw [List.filter_cons_of_pos regarded, run, stepped regarded, pure_bind]
          exact congrArg (fun later : Host × List Emission => (later.1, [] ++ later.2)) ran

/-- A connection finds its host without any other one, and as far with the shutdown, if
it comes alone. -/
theorem run_alone (binder : Binder Id) {limit : Nat} {before : List Event} {middle : Host}
    {emissions : List Emission} (began : (start limit).run binder before = (middle, emissions))
    (unadmitted : .connect number ∉ before) :
    (start limit).run binder (before.filter (Event.regards number)) =
      (⟨⟨limit, 0⟩, [], middle.phase⟩, []) := by
  have phase := (run_lasting binder (start limit) before).2
  rw [began] at phase
  rw [run_regarding binder List.not_mem_nil unadmitted, phase]
  rfl

/-- A connection that is open once its peer has connected took a slot then. -/
theorem accept_open (fresh : number ∉ host.numbers)
    (opened : ((host.accept number).1.pending? number).isSome) :
    host.listening = true ∧ host.active < host.slots.limit ∧
      host.accept number = (host.enter number, [.welcome number]) := by
  have unopened := pending?_eq_none.2 fresh
  cases listening : host.listening with
  | false =>
      unfold accept at opened
      simp [unopened, listening] at opened
  | true =>
      have accepted := accept_fresh fresh listening
      by_cases free : host.active < host.slots.limit
      · rw [if_pos free] at accepted
        exact ⟨rfl, free, accepted⟩
      · rw [accepted, if_neg free, unopened] at opened
        cases opened

/-- A run goes on behind a peer that is let in. -/
theorem run_admitting (binder : Binder Id) {before : List Event} {middle : Host}
    {emissions : List Emission} (began : host.run binder before = (middle, emissions))
    (accepted : middle.accept number = (middle.enter number, [.welcome number]))
    (after : List Event) :
    host.run binder (before ++ .connect number :: after) =
      (((middle.enter number).run binder after).1,
        emissions ++ .welcome number :: ((middle.enter number).run binder after).2) := by
  have entered : middle.run binder (.connect number :: after) =
      (((middle.enter number).run binder after).1,
        .welcome number :: ((middle.enter number).run binder after).2) := by
    simp only [run, step, accepted]
    rfl
  rw [run_append, began]
  exact congrArg (fun later : Host × List Emission => (later.1, emissions ++ later.2)) entered

theorem pending?_enter (fresh : number ∉ host.numbers) :
    (host.enter number).pending? number = some [] :=
  pending?_entered (pending?_eq_none.2 fresh) _ _

theorem sentTo_welcome {earlier : List Emission} (silent : sentTo number earlier = [])
    (later : List Emission) :
    sentTo number (earlier ++ .welcome number :: later) =
      Frame.encode Admission.accepted.encode ++ sentTo number later := by
  rw [sentTo_append, silent, List.nil_append]
  simp [sentTo, Emission.welcome]

/-- The run of a connection that is let in at some time, and the run of its own
events alone. -/
theorem alike_alone (binder : Binder Id) {limit : Nat} {before after : List Event}
    (once : .connect number ∉ before ++ after)
    (admitted : (((Host.start limit).run binder (before ++ [.connect number])).1.pending?
      number).isSome) :
    Alike number ((Host.start limit).run binder (before ++ .connect number :: after))
        ((Host.start limit).run binder
          ((before ++ .connect number :: after).filter (Event.regards number))) ∧
      sentTo number ((Host.start limit).run binder (before ++ .connect number :: after)).2 =
        Frame.encode Admission.accepted.encode ++
          (Connection.serve binder (arrivals number after)).sent := by
  obtain ⟨earlier, later⟩ := not_or.1 fun member => once (List.mem_append.2 member)
  have unused : number ∉ (Host.start limit).numbers := List.not_mem_nil
  obtain ⟨middle, emissions, began⟩ : ∃ middle emissions,
    (Host.start limit).run binder before = (middle, emissions) := ⟨_, _, rfl⟩
  -- At its turn the connection takes a slot, so the host listens.
  have untouched := alike_closed binder (pending?_eq_none.2 unused) earlier
  have limited := (run_lasting binder (.start limit) before).1
  rw [began] at untouched limited
  have fresh : number ∉ middle.numbers := pending?_eq_none.1 untouched.pending
  have opened : ((middle.accept number).1.pending? number).isSome := by
    rw [run_append, began] at admitted
    exact admitted
  obtain ⟨listening, free, accepted⟩ := accept_open fresh opened
  -- Alone it finds the same room or more, and a host that listens as well.
  have unusedAlone : number ∉ (Host.mk ⟨limit, 0⟩ [] middle.phase).numbers := List.not_mem_nil
  have room : 0 < limit := Nat.zero_lt_of_lt (limited ▸ free)
  have acceptedAlone := (accept_fresh unusedAlone listening).trans (if_pos room)
  have alone := run_admitting binder (run_alone binder began earlier) acceptedAlone
    (after.filter (Event.regards number))
  have shown := alike_run binder
    ((pending?_enter fresh).trans (pending?_enter unusedAlone).symm) later
  have served := sentTo_open binder (pending?_enter fresh) (.header (by decide)) later
  have own : Event.regards number (.connect number) = true := beq_self_eq_true number
  rw [List.filter_append, List.filter_cons_of_pos own, alone,
    run_admitting binder began accepted after]
  refine ⟨⟨shown.pending, ?_⟩, ?_⟩
  · rw [sentTo_welcome untouched.sent, sentTo_welcome rfl, shown.sent]
  · rw [sentTo_welcome untouched.sent, served, List.nil_append]

variable {σ : Type} {binder : Binder (StateT Threads (StateM σ))}
  {answer : Call → Except Fault Status}

/-- What a connection that a host lets in receives is what comes of the bytes that its
own peer sends, and the same without any step of the other connections, as far as the
answers of the binder depend on the requests alone.  The connections share the
binder, the slots and the parcels of the threads that they run on; the threads, what is
left in their pools and the state of the binder may be others in the two runs. -/
theorem connections_isolated (steady : binder.Steady answer) (limit number : Nat)
    (before after : List Event) (once : .connect number ∉ before ++ after)
    (threads threadsAlone threadsServing : Threads) (state stateAlone stateServing : σ)
    (admitted : (((((Host.start limit).run binder (before ++ [.connect number]) .pooled).run
      threads).run state).1.1.1.pending? number).isSome) :
    Alike number
        ((((Host.start limit).run binder (before ++ .connect number :: after) .pooled).run
          threads).run state).1.1
        ((((Host.start limit).run binder
          ((before ++ .connect number :: after).filter (Event.regards number)) .pooled).run
            threadsAlone).run stateAlone).1.1 ∧
      sentTo number
          ((((Host.start limit).run binder (before ++ .connect number :: after) .pooled).run
            threads).run state).1.1.2 =
        Frame.encode Admission.accepted.encode ++
          (((Connection.serve binder (arrivals number after) .pooled).run
            threadsServing).run stateServing).1.1.sent := by
  have settled := fun events threads state =>
    run_steady steady (.start limit) events threads state
  rw [settled] at admitted
  rw [settled, settled, Connection.serve_steady steady]
  exact alike_alone (.answering answer) once admitted

/-- Counts what it is asked, gives the data back and fails without any. -/
def echoing : Handler (StateM Nat) where
  handle := fun code _ => ExceptT.mk fun exchange => do
    modify (· + 1)
    return if exchange.data.size = 0 then (.error (.other "empty"), exchange)
      else if code = Transaction.firstCall then
        (.ok true, { exchange with reply := exchange.reply.append exchange.data.bytes })
      else (.ok false, exchange)

theorem steady_echoing :
    (Binder.ofHandler echoing.threaded .pooled).Steady fun call =>
      ((call.issue (.ofHandler echoing)).run 0).1 := by
  apply Binder.steady_ofHandler
  intro call state
  simp only [Call.issue, Binder.ofHandler, Handler.execute_eq]
  rfl

/-- A request in two pieces, between a frame of another connection that is none of a
request, the end of a third connection and the signal to shut down. -/
def crossed : List Event :=
  [.receive 5 (Frame.encode [1, 2]),
    .receive 4 ((Frame.encode (Request.encode ⟨1, .none, [7]⟩)).take 6), .leave 6, .shutdown,
    .receive 4 ((Frame.encode (Request.encode ⟨1, .none, [7]⟩)).drop 6), .receive 5 [0], .leave 4]

/-- Every use of a pool is on another thread, and no pool is empty. -/
def spread : Threads :=
  ⟨fun thread => Pool.empty.recycle (.ofBytes [7, thread.toUInt8]), id⟩

theorem connections_isolated_crossed :
    .connect 4 ∉ [.connect 5, .connect 6] ++ crossed ∧
    (((((Host.start 3).run (.ofHandler echoing.threaded .pooled)
      [.connect 5, .connect 6, .connect 4] .pooled).run spread).run 0).1.1.1.pending? 4).isSome ∧
    Alike 4
      ((((Host.start 3).run (.ofHandler echoing.threaded .pooled)
        (.connect 5 :: .connect 6 :: .connect 4 :: crossed) .pooled).run spread).run 0).1.1
      ((((Host.start 3).run (.ofHandler echoing.threaded .pooled)
        [.connect 4, .receive 4 ((Frame.encode (Request.encode ⟨1, .none, [7]⟩)).take 6), .shutdown,
          .receive 4 ((Frame.encode (Request.encode ⟨1, .none, [7]⟩)).drop 6), .leave 4]
        .pooled).run ⟨fun _ => .empty, fun _ => 0⟩).run 8).1.1 ∧
    sentTo 4 ((((Host.start 3).run (.ofHandler echoing.threaded .pooled)
        (.connect 5 :: .connect 6 :: .connect 4 :: crossed) .pooled).run spread).run 0).1.1.2 =
      Frame.encode Admission.accepted.encode ++
        (((Connection.serve (.ofHandler echoing.threaded .pooled)
          (Frame.encode (Request.encode ⟨1, .none, [7]⟩)) .pooled).run spread).run 9).1.1.sent :=
  ⟨by decide, rfl,
    connections_isolated steady_echoing 3 4 [.connect 5, .connect 6] crossed (by decide) spread
      ⟨fun _ => .empty, fun _ => 0⟩ spread 0 8 9 rfl⟩

end Host

end Courier
