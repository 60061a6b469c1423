import Courier.Proofs.Serving
import Mathlib.Data.List.Nodup

namespace Courier.Host

/-! Who holds the slots of a host.

`Moves` lists all that one event does to a host.  Every run keeps the books: the
connections that were admitted are those that have ended and those that are
open, each once, and the open ones hold the slots that are taken. -/

def numbers (host : Host) : List Nat :=
  host.connections.map Prod.fst

def enter (host : Host) (number : Nat) : Host :=
  { host with
    slots := { host.slots with active := host.slots.active + 1 }
    connections := host.connections ++ [(number, [])] }

theorem pending?_eq_none {host : Host} {number : Nat} :
    host.pending? number = none ↔ number ∉ host.numbers := by
  rw [pending?, Option.map_eq_none_iff, List.find?_eq_none, numbers, List.mem_map]
  constructor
  · rintro absent ⟨connection, member, rfl⟩
    exact absent connection member (beq_self_eq_true _)
  · intro absent connection member same
    exact absent ⟨connection, member, beq_iff_eq.1 same⟩

theorem mem_numbers {host : Host} {number : Nat} :
    number ∈ host.numbers ↔ ∃ pending, host.pending? number = some pending := by
  rw [← Option.ne_none_iff_exists', ne_eq, pending?_eq_none, not_not]

@[simp] theorem numbers_enter (host : Host) (number : Nat) :
    (host.enter number).numbers = host.numbers ++ [number] := by
  simp [numbers, enter]

@[simp] theorem numbers_keep (host : Host) (number : Nat) (pending : List UInt8) :
    (host.keep number pending).numbers = host.numbers := by
  rw [numbers, numbers, keep, List.map_map]
  apply List.map_congr_left
  intro connection _
  by_cases same : connection.1 = number <;> simp [same]

@[simp] theorem numbers_close (host : Host) (number : Nat) :
    (host.close number).numbers = host.numbers.filter (· != number) := by
  simp only [numbers, close, List.filter_map]
  rfl

theorem numbers_close_erase {host : Host} (distinct : host.numbers.Nodup) (number : Nat) :
    (host.close number).numbers = host.numbers.erase number := by
  rw [numbers_close, distinct.erase_eq_filter]

/-- With an open connection goes the slot that it holds. -/
theorem active_close {host : Host} {number : Nat} (distinct : host.numbers.Nodup)
    (taken : host.active = host.numbers.length) (opened : number ∈ host.numbers) :
    (host.close number).active = (host.close number).numbers.length := by
  rw [numbers_close_erase distinct, List.length_erase_of_mem opened, ← taken]
  rfl

theorem connections_shutdown (host : Host) : host.shutdown.connections = host.connections := by
  unfold shutdown
  split <;> rfl

theorem connections_withdraw (host : Host) : host.withdraw.connections = host.connections := by
  unfold withdraw
  split <;> rfl

@[simp] theorem numbers_shutdown (host : Host) : host.shutdown.numbers = host.numbers :=
  congrArg (List.map Prod.fst) host.connections_shutdown

@[simp] theorem numbers_withdraw (host : Host) : host.withdraw.numbers = host.numbers :=
  congrArg (List.map Prod.fst) host.connections_withdraw

@[simp] theorem slots_shutdown (host : Host) : host.shutdown.slots = host.slots := by
  unfold shutdown
  split <;> rfl

@[simp] theorem slots_withdraw (host : Host) : host.withdraw.slots = host.slots := by
  unfold withdraw
  split <;> rfl

/-- The signal is there from then on, and the listener is not touched by it. -/
@[simp] theorem running_shutdown (host : Host) : host.shutdown.running = false := by
  obtain ⟨slots, connections, phase⟩ := host
  cases phase <;> rfl

@[simp] theorem listening_shutdown (host : Host) : host.shutdown.listening = host.listening := by
  obtain ⟨slots, connections, phase⟩ := host
  cases phase <;> rfl

@[simp] theorem running_withdraw (host : Host) : host.withdraw.running = host.running := by
  obtain ⟨slots, connections, phase⟩ := host
  cases phase <;> rfl

/-- The listener goes on as long as there is no signal. -/
@[simp] theorem listening_withdraw (host : Host) : host.withdraw.listening = host.running := by
  obtain ⟨slots, connections, phase⟩ := host
  cases phase <;> rfl

theorem listening_of_running {host : Host} (running : host.running = true) :
    host.listening = true := by
  rw [Host.running, beq_iff_eq] at running
  rw [listening, running]
  rfl

def Emission.welcome (number : Nat) : Emission :=
  ⟨number, Frame.encode Admission.accepted.encode, false⟩

def Emission.refusal (number : Nat) : Emission :=
  ⟨number, Frame.encode Admission.busy.encode, true⟩

/-- An event, and what the binder is asked and the peers are sent for it. -/
structure Turn where
  event : Event
  asked : List Call
  emissions : List Emission

namespace Turn

/-- The connection that is told in the turn that it is admitted. -/
def admitted (turn : Turn) : List Nat :=
  match turn.event with
  | .connect number => if .welcome number ∈ turn.emissions then [number] else []
  | _ => []

/-- The connections that are closed in the turn, other than a new one. -/
def ended (turn : Turn) : List Nat :=
  match turn.event with
  | .connect _ => []
  | _ => (turn.emissions.filter Emission.closed).map Emission.number

end Turn

variable {σ : Type}

inductive Moves (binder : Binder (StateM σ)) (host : Host) (state : σ) :
    Turn → Host → σ → Prop where
  | known {number : Nat} (opened : number ∈ host.numbers) :
      Moves binder host state ⟨.connect number, [], []⟩ host state
  | unheard {number : Nat} (fresh : number ∉ host.numbers) (withdrawn : host.listening = false) :
      Moves binder host state ⟨.connect number, [], [⟨number, [], true⟩]⟩ host state
  | welcomed {number : Nat} (fresh : number ∉ host.numbers) (listening : host.listening = true)
      (free : host.active < host.slots.limit) :
      Moves binder host state ⟨.connect number, [], [.welcome number]⟩ (host.enter number) state
  | refused {number : Nat} (fresh : number ∉ host.numbers) (listening : host.listening = true)
      (full : host.slots.limit ≤ host.active) :
      Moves binder host state ⟨.connect number, [], [.refusal number]⟩ host state
  | ignored {number : Nat} {bytes : List UInt8} (absent : number ∉ host.numbers) :
      Moves binder host state ⟨.receive number bytes, [], []⟩ host state
  | served {number : Nat} {bytes pending : List UInt8} {progress : Connection.Progress}
      {asked : List Call} {after : σ} (opened : host.pending? number = some pending)
      (ran : ((Connection.serve binder.recorded (pending ++ bytes)).run []).run state =
        ((progress, asked), after)) :
      Moves binder host state
        ⟨.receive number bytes, asked, [⟨number, progress.sent, progress.pending.isNone⟩]⟩
        (host.advance number progress) after
  | gone {number : Nat} (absent : number ∉ host.numbers) :
      Moves binder host state ⟨.leave number, [], []⟩ host state
  | left {number : Nat} (opened : number ∈ host.numbers) :
      Moves binder host state ⟨.leave number, [], [⟨number, [], true⟩]⟩ (host.close number) state
  | shutdown : Moves binder host state ⟨.shutdown, [], []⟩ host.shutdown state
  | withdraw : Moves binder host state ⟨.withdraw, [], []⟩ host.withdraw state

theorem accept_fresh {host : Host} {number : Nat} (fresh : number ∉ host.numbers)
    (listening : host.listening = true) :
    host.accept number =
      if host.active < host.slots.limit then (host.enter number, [.welcome number])
      else (host, [.refusal number]) := by
  unfold accept Slots.acquire? active
  rw [pending?_eq_none.2 fresh, listening]
  by_cases free : host.slots.active < host.slots.limit <;>
    simp [free, enter, Emission.welcome, Emission.refusal]

theorem moves_accept {binder : Binder (StateM σ)} {host next : Host} {state : σ} {number : Nat}
    {emissions : List Emission} (accepted : host.accept number = (next, emissions)) :
    Moves binder host state ⟨.connect number, [], emissions⟩ next state := by
  by_cases opened : number ∈ host.numbers
  · obtain ⟨pending, found⟩ := mem_numbers.1 opened
    unfold accept at accepted
    rw [found] at accepted
    cases accepted
    exact .known opened
  cases listening : host.listening with
  | false =>
      unfold accept at accepted
      rw [pending?_eq_none.2 opened, listening] at accepted
      cases accepted
      exact .unheard opened listening
  | true =>
      rw [accept_fresh opened listening] at accepted
      split at accepted
      · rename_i free
        cases accepted
        exact .welcomed opened listening free
      · rename_i full
        cases accepted
        exact .refused opened listening (Nat.not_lt.1 full)

theorem moves_step {binder : Binder (StateM σ)} {host next : Host} {state after : σ}
    {event : Event} {asked : List Call} {emissions : List Emission}
    (stepped : ((host.step binder.recorded event).run []).run state =
      (((next, emissions), asked), after)) :
    Moves binder host state ⟨event, asked, emissions⟩ next after := by
  cases event with
  | connect number =>
      change (((host.accept number), []), state) = _ at stepped
      simp only [Prod.mk.injEq] at stepped
      obtain ⟨⟨accepted, rfl⟩, rfl⟩ := stepped
      exact moves_accept accepted
  | receive number bytes =>
      change ((host.receive binder.recorded number bytes).run []).run state = _ at stepped
      cases opened : host.pending? number with
      | none =>
          have silent : host.receive binder.recorded number bytes = pure (host, []) := by
            unfold receive
            rw [opened]
          rw [silent] at stepped
          cases stepped
          exact .ignored (pending?_eq_none.1 opened)
      | some pending =>
          rw [receive_open binder.recorded opened, StateT.run_map, StateT.run_map] at stepped
          obtain ⟨progress, asked, after, ran⟩ : ∃ progress asked after,
            ((Connection.serve binder.recorded (pending ++ bytes)).run []).run state =
              ((progress, asked), after) := ⟨_, _, _, rfl⟩
          rw [ran] at stepped
          cases stepped
          exact .served opened ran
  | leave number =>
      change (((host.leave number), []), state) = _ at stepped
      simp only [Prod.mk.injEq] at stepped
      obtain ⟨⟨forgotten, rfl⟩, rfl⟩ := stepped
      unfold leave at forgotten
      cases opened : host.pending? number with
      | none =>
          rw [opened] at forgotten
          cases forgotten
          exact .gone (pending?_eq_none.1 opened)
      | some pending =>
          rw [opened] at forgotten
          cases forgotten
          exact .left (mem_numbers.2 ⟨pending, opened⟩)
  | shutdown =>
      cases stepped
      exact .shutdown
  | withdraw =>
      cases stepped
      exact .withdraw

/-- The books of a host that has gone through the turns. -/
structure Ledger (limit : Nat) (turns : List Turn) (host : Host) : Prop where
  limited : host.slots.limit = limit
  bounded : host.active ≤ limit
  distinct : host.numbers.Nodup
  taken : host.active = host.numbers.length
  balanced : (turns.flatMap Turn.admitted).Perm (turns.flatMap Turn.ended ++ host.numbers)
  running : host.running = true ↔ .shutdown ∉ turns.map Turn.event

namespace Ledger

variable {limit : Nat} {turns : List Turn} {host : Host} {turn : Turn}

theorem start (limit : Nat) : Ledger limit [] (.start limit) :=
  ⟨rfl, Nat.zero_le _, .nil, rfl, .nil, ⟨nofun, fun _ => rfl⟩⟩

theorem balanced_step {next : Host} (ledger : Ledger limit turns host)
    (moved : (host.numbers ++ turn.admitted).Perm (turn.ended ++ next.numbers)) :
    ((turns ++ [turn]).flatMap Turn.admitted).Perm
      ((turns ++ [turn]).flatMap Turn.ended ++ next.numbers) := by
  simp only [List.flatMap_append, List.flatMap_singleton, List.append_assoc]
  refine (ledger.balanced.append_right _).trans ?_
  rw [List.append_assoc]
  exact moved.append_left _

theorem running_step {next : Host} (ledger : Ledger limit turns host)
    (goesOn : turn.event ≠ .shutdown) (kept : next.running = host.running) :
    next.running = true ↔ .shutdown ∉ (turns ++ [turn]).map Turn.event := by
  rw [kept, ledger.running]
  simp [goesOn.symm]

theorem unchanged {next : Host} (ledger : Ledger limit turns host)
    (running : next.running = true ↔ .shutdown ∉ (turns ++ [turn]).map Turn.event)
    (admitted : turn.admitted = []) (ended : turn.ended = []) (numbers : next.numbers = host.numbers)
    (slots : next.slots = host.slots) : Ledger limit (turns ++ [turn]) next where
  limited := slots ▸ ledger.limited
  bounded := by rw [active, slots]; exact ledger.bounded
  distinct := numbers ▸ ledger.distinct
  taken := by rw [active, slots, numbers]; exact ledger.taken
  balanced := by
    apply ledger.balanced_step
    rw [admitted, ended, numbers, List.append_nil, List.nil_append]
  running := running

theorem entered {number : Nat} (ledger : Ledger limit turns host) (goesOn : turn.event ≠ .shutdown)
    (admitted : turn.admitted = [number]) (ended : turn.ended = [])
    (fresh : number ∉ host.numbers) (free : host.active < host.slots.limit) :
    Ledger limit (turns ++ [turn]) (host.enter number) where
  limited := ledger.limited
  bounded := ledger.limited ▸ free
  distinct := by
    rw [numbers_enter]
    exact List.nodup_append_comm.1 (List.nodup_cons.2 ⟨fresh, ledger.distinct⟩)
  taken := by
    rw [numbers_enter, List.length_append, ← ledger.taken]
    rfl
  balanced := by
    apply ledger.balanced_step
    rw [admitted, ended, numbers_enter, List.nil_append]
  running := ledger.running_step goesOn rfl

theorem closed {number : Nat} (ledger : Ledger limit turns host) (goesOn : turn.event ≠ .shutdown)
    (admitted : turn.admitted = []) (ended : turn.ended = [number])
    (opened : number ∈ host.numbers) : Ledger limit (turns ++ [turn]) (host.close number) := by
  have erased := numbers_close_erase ledger.distinct number
  constructor
  case limited => exact ledger.limited
  case bounded => exact Nat.le_trans (Nat.sub_le _ _) ledger.bounded
  case distinct => exact erased ▸ ledger.distinct.erase number
  case taken => exact active_close ledger.distinct ledger.taken opened
  case balanced =>
    apply ledger.balanced_step
    rw [admitted, ended, erased, List.append_nil]
    exact List.perm_cons_erase opened
  case running => exact ledger.running_step goesOn rfl

theorem step {binder : Binder (StateM σ)} {next : Host} {state after : σ}
    (ledger : Ledger limit turns host) (moved : Moves binder host state turn next after) :
    Ledger limit (turns ++ [turn]) next := by
  cases moved with
  | known opened => exact ledger.unchanged (ledger.running_step nofun rfl) rfl rfl rfl rfl
  | unheard fresh withdrawn =>
      refine ledger.unchanged (ledger.running_step nofun rfl) ?_ rfl rfl rfl
      simp [Turn.admitted, Emission.welcome]
  | welcomed fresh listening free =>
      refine ledger.entered nofun ?_ rfl fresh free
      simp [Turn.admitted]
  | refused fresh listening full =>
      refine ledger.unchanged (ledger.running_step nofun rfl) ?_ rfl rfl rfl
      simp [Turn.admitted, Emission.welcome, Emission.refusal]
  | ignored absent => exact ledger.unchanged (ledger.running_step nofun rfl) rfl rfl rfl rfl
  | @served number bytes pending progress asked after opened ran =>
      unfold advance
      cases left : progress.pending with
      | some rest =>
          exact ledger.unchanged (ledger.running_step nofun rfl) rfl rfl
            (numbers_keep host number rest) rfl
      | none => exact ledger.closed nofun rfl rfl (mem_numbers.2 ⟨pending, opened⟩)
  | gone absent => exact ledger.unchanged (ledger.running_step nofun rfl) rfl rfl rfl rfl
  | left opened => exact ledger.closed nofun rfl rfl opened
  | shutdown =>
      exact ledger.unchanged (by simp) rfl rfl host.numbers_shutdown host.slots_shutdown
  | withdraw =>
      exact ledger.unchanged (ledger.running_step nofun host.running_withdraw) rfl rfl
        host.numbers_withdraw host.slots_withdraw

end Ledger

/-- The peer of the connection takes part in the event. -/
def Event.concerns (number : Nat) : Event → Bool
  | .connect other => other == number
  | .receive other _ => other == number
  | .leave other => other == number
  | .shutdown | .withdraw => false

/-- The connection is neither open nor sent anything. -/
structure Apart (number : Nat) (result : Host × List Emission) : Prop where
  absent : number ∉ result.1.numbers
  silent : ∀ emission ∈ result.2, emission.number ≠ number

section Apart

variable {host : Host} {number other : Nat}

theorem apart_accept (absent : number ∉ host.numbers) (different : other ≠ number) :
    Apart number (host.accept other) := by
  unfold accept
  split
  · exact ⟨absent, nofun⟩
  split
  · exact ⟨absent, List.forall_mem_singleton.2 different⟩
  split
  · refine ⟨?_, List.forall_mem_singleton.2 different⟩
    simpa [numbers, different.symm] using absent
  · exact ⟨absent, List.forall_mem_singleton.2 different⟩

theorem not_mem_numbers_close (absent : number ∉ host.numbers) (other : Nat) :
    number ∉ (host.close other).numbers := by
  rw [numbers_close]
  exact fun member => absent (List.mem_of_mem_filter member)

theorem apart_leave (absent : number ∉ host.numbers) (different : other ≠ number) :
    Apart number (host.leave other) := by
  unfold leave
  split
  · exact ⟨absent, nofun⟩
  · exact ⟨not_mem_numbers_close absent other, List.forall_mem_singleton.2 different⟩

theorem not_mem_numbers_advance (absent : number ∉ host.numbers) (other : Nat)
    (progress : Connection.Progress) : number ∉ (host.advance other progress).numbers := by
  unfold advance
  cases progress.pending with
  | some rest => rwa [numbers_keep]
  | none => exact not_mem_numbers_close absent other

variable {m : Type → Type} [Monad m]

theorem step_concerns (binder : Binder m) (absent : number ∉ host.numbers) {event : Event}
    (concerned : event.concerns number = true) (unadmitted : event ≠ .connect number) :
    host.step binder event = pure (host, []) := by
  have unopened := pending?_eq_none.2 absent
  cases event with
  | connect other => exact absurd (congrArg Event.connect (beq_iff_eq.1 concerned)) unadmitted
  | receive other bytes =>
      obtain rfl := beq_iff_eq.1 concerned
      simp [step, receive, unopened]
  | leave other =>
      obtain rfl := beq_iff_eq.1 concerned
      simp [step, leave, unopened]
  | shutdown => contradiction
  | withdraw => contradiction

variable [LawfulMonad m]

theorem step_apart (binder : Binder m) (absent : number ∉ host.numbers) {event : Event}
    (elsewhere : event.concerns number = false) :
    ∃ (α : Type) (action : m α) (settle : α → Host × List Emission),
      host.step binder event = settle <$> action ∧ ∀ result, Apart number (settle result) := by
  have settled : ∀ result : Host × List Emission, Apart number result →
      host.step binder event = pure result →
      ∃ (α : Type) (action : m α) (settle : α → Host × List Emission),
        host.step binder event = settle <$> action ∧ ∀ result, Apart number (settle result) :=
    fun result apart stepped =>
      ⟨Unit, pure (), fun _ => result, by rw [stepped, map_pure], fun _ => apart⟩
  cases event with
  | connect other => exact settled _ (apart_accept absent (beq_eq_false_iff_ne.1 elsewhere)) rfl
  | leave other => exact settled _ (apart_leave absent (beq_eq_false_iff_ne.1 elsewhere)) rfl
  | shutdown => exact settled (host.shutdown, []) ⟨by rwa [numbers_shutdown], nofun⟩ rfl
  | withdraw => exact settled (host.withdraw, []) ⟨by rwa [numbers_withdraw], nofun⟩ rfl
  | receive other bytes =>
      have different : other ≠ number := beq_eq_false_iff_ne.1 elsewhere
      cases opened : host.pending? other with
      | none => exact settled (host, []) ⟨absent, nofun⟩ (by simp [step, receive, opened])
      | some pending =>
          refine ⟨_, _, _, receive_open binder opened bytes, fun progress => ?_⟩
          exact ⟨not_mem_numbers_advance absent other progress,
            List.forall_mem_singleton.2 different⟩

/-- What the peer of a connection does that is not open changes nothing, until it
is let in. -/
theorem run_apart (binder : Binder m) (absent : number ∉ host.numbers) {events : List Event}
    (unadmitted : .connect number ∉ events) :
    host.run binder events =
      (fun result => (result.1, result.2.filter fun emission => emission.number != number)) <$>
        host.run binder (events.filter fun event => !event.concerns number) := by
  induction events generalizing host with
  | nil => simp [run]
  | cons event rest inductionHypothesis =>
      obtain ⟨different, later⟩ := List.ne_and_not_mem_of_not_mem_cons unadmitted
      cases concerned : event.concerns number with
      | true =>
          rw [run, step_concerns binder absent concerned different.symm, pure_bind]
          simp [concerned, inductionHypothesis absent later]
      | false =>
          obtain ⟨α, action, settle, stepped, apart⟩ := step_apart binder absent concerned
          simp only [List.filter_cons, concerned, Bool.not_false, if_true, run, stepped,
            bind_map_left, map_bind, map_pure]
          apply bind_congr
          intro result
          obtain ⟨stillAbsent, silent⟩ := apart result
          rw [inductionHypothesis stillAbsent later, bind_map_left]
          apply bind_congr
          intro ended
          have kept : (settle result).2.filter (fun emission => emission.number != number) =
              (settle result).2 :=
            List.filter_eq_self.2 fun emission member => bne_iff_ne.2 (silent emission member)
          rw [List.filter_append, kept]

/-- New connections are let in while there are free slots, and refused from then on. -/
theorem run_connects (binder : Binder m) (listening : host.listening = true) {newcomers : List Nat}
    (distinct : newcomers.Nodup) (fresh : ∀ number ∈ newcomers, number ∉ host.numbers) :
    ∃ last, host.run binder (newcomers.map .connect) =
      pure (last, (newcomers.take (host.slots.limit - host.active)).map .welcome ++
        (newcomers.drop (host.slots.limit - host.active)).map .refusal) := by
  induction newcomers generalizing host with
  | nil => exact ⟨host, by simp [run]⟩
  | cons number rest inductionHypothesis =>
      obtain ⟨unlisted, distinct⟩ := List.nodup_cons.1 distinct
      obtain ⟨fresh, freshRest⟩ := List.forall_mem_cons.1 fresh
      have accepted := accept_fresh fresh listening
      by_cases free : host.active < host.slots.limit
      · have freshEntered : ∀ other ∈ rest, other ∉ (host.enter number).numbers := by
          intro other member
          rw [numbers_enter, List.mem_append, List.mem_singleton]
          rintro (opened | rfl)
          · exact freshRest other member opened
          · exact unlisted member
        obtain ⟨last, ran⟩ := @inductionHypothesis (host.enter number) listening distinct freshEntered
        have fewer : (host.enter number).slots.limit - (host.enter number).active =
            host.slots.limit - (host.active + 1) := rfl
        have counted : host.slots.limit - host.active =
            host.slots.limit - (host.active + 1) + 1 := by omega
        refine ⟨last, ?_⟩
        rw [if_pos free] at accepted
        rw [fewer] at ran
        simp only [List.map_cons, run, step, accepted, pure_bind, ran, counted]
        rfl
      · obtain ⟨last, ran⟩ := inductionHypothesis listening distinct freshRest
        have none : host.slots.limit - host.active = 0 := Nat.sub_eq_zero_of_le (Nat.not_lt.1 free)
        refine ⟨last, ?_⟩
        rw [if_neg free] at accepted
        simp only [List.map_cons, run, step, accepted, pure_bind, ran, none]
        rfl

/-- The open connections may end in any order, and each of them ends once. -/
theorem run_leaves (binder : Binder m) {order : List Nat} (distinct : host.numbers.Nodup)
    (taken : host.active = host.numbers.length) (every : order.Perm host.numbers) :
    ∃ last, host.run binder (order.map .leave) =
      pure (last, order.map fun number => ⟨number, [], true⟩) ∧
      last.numbers = [] ∧ last.active = 0 := by
  induction order generalizing host with
  | nil =>
      have emptied : host.numbers = [] := every.nil_eq.symm
      exact ⟨host, rfl, emptied, by rw [taken, emptied]; rfl⟩
  | cons number rest inductionHypothesis =>
      obtain ⟨opened, others⟩ := List.cons_perm_iff_perm_erase.1 every
      obtain ⟨pending, found⟩ := mem_numbers.1 opened
      have erased := numbers_close_erase distinct number
      obtain ⟨last, ran, emptied, freed⟩ := inductionHypothesis (erased ▸ distinct.erase number)
        (active_close distinct taken opened) (erased ▸ others)
      have left : host.leave number = (host.close number, [⟨number, [], true⟩]) := by
        rw [leave, found]
      refine ⟨last, ?_, emptied, freed⟩
      simp only [List.map_cons, run, step, left, pure_bind, ran]
      rfl

end Apart

/-- The runs of a host that starts with no connection, turn by turn. -/
inductive Reaches (binder : Binder (StateM σ)) (limit : Nat) (initial : σ) :
    List Turn → Host → σ → Prop where
  | start : Reaches binder limit initial [] (.start limit) initial
  | step {turns : List Turn} {host next : Host} {state after : σ} {event : Event}
      {asked : List Call} {emissions : List Emission}
      (reached : Reaches binder limit initial turns host state)
      (stepped : ((host.step binder.recorded event).run []).run state =
        (((next, emissions), asked), after)) :
      Reaches binder limit initial (turns ++ [⟨event, asked, emissions⟩]) next after

theorem Reaches.ledger {binder : Binder (StateM σ)} {limit : Nat} {initial state : σ}
    {turns : List Turn} {host : Host} (reached : Reaches binder limit initial turns host state) :
    Ledger limit turns host := by
  induction reached with
  | start => exact .start limit
  | step reached stepped ledger => exact ledger.step (moves_step stepped)

/-- What a turn means for the connections. -/
structure Accounted (binder : Binder (StateM σ)) (host : Host) (state : σ) (turn : Turn)
    (next : Host) : Prop where
  admission : ∀ number, turn.event = .connect number → number ∉ host.numbers →
    host.listening = true →
    turn.asked = [] ∧
      turn.emissions =
        [if host.active < host.slots.limit then .welcome number else .refusal number]
  refusal : ∀ number, turn.event = .connect number → number ∉ host.numbers →
    turn.admitted = [] →
    next = host ∧
      ∀ later : List Event, .connect number ∉ later →
        next.run binder.recorded later =
          (fun result => (result.1, result.2.filter fun emission => emission.number != number)) <$>
            next.run binder.recorded (later.filter fun event => !event.concerns number)
  calls : turn.asked ≠ [] → ∃ number bytes, turn.event = .receive number bytes ∧ number ∈ host.numbers
  leaving : ∀ number ∈ host.numbers, turn.event = .leave number → turn.ended = [number]
  receiving : ∀ number bytes pending, turn.event = .receive number bytes →
    host.pending? number = some pending →
    ∃ progress after,
      ((Connection.serve binder.recorded (pending ++ bytes)).run []).run state =
        ((progress, turn.asked), after) ∧
      turn.ended = if progress.pending.isSome then [] else [number]
  breaking : ∀ number bytes pending, turn.event = .receive number bytes →
    host.pending? number = some pending → Connection.Broken (pending ++ bytes) →
    turn.asked = [] ∧ turn.ended = [number]
  stopping : turn.event = .shutdown →
    turn.ended = [] ∧ next.connections = host.connections ∧ next.slots = host.slots ∧
      next.running = false ∧ next.listening = host.listening
  withdrawing : turn.event = .withdraw →
    turn.ended = [] ∧ next.connections = host.connections ∧ next.slots = host.slots ∧
      next.running = host.running ∧ next.listening = host.running

theorem Moves.receives {binder : Binder (StateM σ)} {host next : Host} {state after : σ}
    {turn : Turn} {number : Nat} {bytes pending : List UInt8}
    (moved : Moves binder host state turn next after) (receives : turn.event = .receive number bytes)
    (opened : host.pending? number = some pending) :
    ∃ progress,
      ((Connection.serve binder.recorded (pending ++ bytes)).run []).run state =
        ((progress, turn.asked), after) ∧
      turn.ended = if progress.pending.isSome then [] else [number] := by
  cases moved with
  | ignored absent =>
      cases receives
      exact absurd (mem_numbers.2 ⟨pending, opened⟩) absent
  | @served _ _ _ progress _ _ found ran =>
      cases receives
      cases opened.symm.trans found
      refine ⟨progress, ran, ?_⟩
      cases progress.pending <;> rfl
  | _ => contradiction

theorem Moves.accounted {binder : Binder (StateM σ)} {host next : Host} {state after : σ}
    {turn : Turn} (moved : Moves binder host state turn next after) :
    Accounted binder host state turn next := by
  constructor
  case admission =>
    rintro number connects fresh listening
    cases moved with
    | known opened =>
        cases connects
        exact absurd opened fresh
    | unheard _ withdrawn => exact absurd listening (by rw [withdrawn]; decide)
    | welcomed _ _ free =>
        cases connects
        rw [if_pos free]
        exact ⟨rfl, rfl⟩
    | refused _ _ full =>
        cases connects
        rw [if_neg (Nat.not_lt.2 full)]
        exact ⟨rfl, rfl⟩
    | _ => contradiction
  case refusal =>
    intro number connects fresh refused
    cases moved with
    | known opened =>
        cases connects
        exact absurd opened fresh
    | welcomed _ _ free => simp [Turn.admitted] at refused
    | unheard _ withdrawn =>
        cases connects
        exact ⟨rfl, fun later unadmitted => run_apart binder.recorded fresh unadmitted⟩
    | refused _ listening full =>
        cases connects
        exact ⟨rfl, fun later unadmitted => run_apart binder.recorded fresh unadmitted⟩
    | _ => contradiction
  case calls =>
    intro asks
    cases moved with
    | @served number bytes pending progress asked after opened ran =>
        exact ⟨number, bytes, rfl, mem_numbers.2 ⟨pending, opened⟩⟩
    | _ => exact absurd rfl asks
  case leaving =>
    intro number opened leaves
    cases moved with
    | left _ =>
        cases leaves
        rfl
    | gone absent =>
        cases leaves
        exact absurd opened absent
    | _ => contradiction
  case receiving =>
    intro number bytes pending receives opened
    obtain ⟨progress, ran, ended⟩ := moved.receives receives opened
    exact ⟨progress, after, ran, ended⟩
  case breaking =>
    intro number bytes pending receives opened broken
    obtain ⟨progress, ran, ended⟩ := moved.receives receives opened
    rw [Connection.serve_broken binder.recorded broken] at ran
    replace ran : (((⟨[], none⟩ : Connection.Progress), []), state) =
      ((progress, turn.asked), after) := ran
    simp only [Prod.mk.injEq] at ran
    obtain ⟨⟨rfl, asked⟩, _⟩ := ran
    exact ⟨asked.symm, ended⟩
  case stopping =>
    intro stops
    cases moved with
    | shutdown =>
        exact ⟨rfl, host.connections_shutdown, host.slots_shutdown, host.running_shutdown,
          host.listening_shutdown⟩
    | _ => contradiction
  case withdrawing =>
    intro withdraws
    cases moved with
    | withdraw =>
        exact ⟨rfl, host.connections_withdraw, host.slots_withdraw, host.running_withdraw,
          host.listening_withdraw⟩
    | _ => contradiction

/-- The only slot is taken by a connection that breaks, refused to a second one, and
taken by that one when it comes again.  The signal to shut down ends nothing yet. -/
def reused : List Turn :=
  [⟨.connect 4, [], [.welcome 4]⟩, ⟨.connect 5, [], [.refusal 5]⟩,
    ⟨.receive 4 (Frame.encode [1, 2]), [], [⟨4, [], true⟩]⟩, ⟨.connect 5, [], [.welcome 5]⟩,
    ⟨.shutdown, [], []⟩, ⟨.leave 5, [], [⟨5, [], true⟩]⟩]

end Courier.Host
