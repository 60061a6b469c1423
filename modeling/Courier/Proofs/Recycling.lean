import Courier.Proofs.Connection

namespace Courier

/-! Recycled parcels do not show.

Whatever a parcel held is gone before its buffer is kept, so a parcel that is
obtained is empty, on any thread and at any time.  What a host does with the pools is
then what it does with new parcels all the time: the two go through the same steps,
related one by one. -/

/-- A parcel that is obtained holds nothing and is read from its start. -/
theorem Pool.obtain_empty (pool : Pool) : pool.obtain.1 = .empty := by
  have front : pool.idle.head?.getD [] = [] := by
    cases kept : pool.idle with
    | nil => rfl
    | cons buffer rest => exact pool.cleared buffer (by rw [kept]; exact List.mem_cons_self)
  rw [obtain, front]
  rfl

/-- A relation between the actions of two monads that goes with their steps. -/
structure Simulation (n m : Type → Type) [Monad n] [Monad m] where
  rel : {α : Type} → n α → m α → Prop
  rel_pure : ∀ {α : Type} (value : α), rel (pure value) (pure value)
  rel_bind : ∀ {α β : Type} {first : n α} {second : m α} {next : α → n β} {follow : α → m β},
    rel first second → (∀ value, rel (next value) (follow value)) →
      rel (first >>= next) (second >>= follow)

namespace Simulation

variable {n m : Type → Type} [Monad n] [Monad m] (simulation : Simulation n m)

theorem rel_map [LawfulMonad n] [LawfulMonad m] {α β : Type} {first : n α} {second : m α}
    (related : simulation.rel first second) (change : α → β) :
    simulation.rel (change <$> first) (change <$> second) := by
  rw [map_eq_pure_bind, map_eq_pure_bind]
  exact simulation.rel_bind related fun value => simulation.rel_pure _

/-- The parcels look like new ones. -/
structure Clean (parcels : Supply n) : Prop where
  obtain : simulation.rel parcels.obtain (pure .empty)
  recycle : ∀ parcel, simulation.rel (parcels.recycle parcel) (pure ())

/-- The binders answer alike. -/
def RelBinder (binder : Binder n) (plain : Binder m) : Prop :=
  ∀ code data flags,
    simulation.rel (binder.transact code data flags) (plain.transact code data flags)

/-- The handlers do alike. -/
def RelHandler (handler : Handler n) (plain : Handler m) : Prop :=
  ∀ code flags exchange,
    simulation.rel ((handler.handle code flags).perform exchange)
      ((plain.handle code flags).perform exchange)

variable {simulation} {parcels : Supply n}

theorem Clean.execute (clean : simulation.Clean parcels) {handler : Handler n} {plain : Handler m}
    (handled : simulation.RelHandler handler plain) (code : UInt32) (data : Parcel)
    (flags : Flags) :
    simulation.rel (handler.execute code data flags parcels) (plain.execute code data flags) := by
  apply simulation.rel_bind clean.obtain
  intro incoming
  apply simulation.rel_bind clean.obtain
  intro reply
  apply simulation.rel_bind (handled code flags _)
  intro ⟨verdict, exchange⟩
  dsimp only
  have returned := simulation.rel_bind (clean.recycle exchange.data) fun _ =>
    simulation.rel_pure (Handler.conclude flags verdict exchange.reply)
  split
  · exact simulation.rel_bind (clean.recycle exchange.reply) fun _ => returned
  · exact returned

theorem Clean.relBinder_ofHandler [LawfulMonad n] [LawfulMonad m]
    (clean : simulation.Clean parcels) {handler : Handler n} {plain : Handler m}
    (handled : simulation.RelHandler handler plain) :
    simulation.RelBinder (.ofHandler handler parcels) (.ofHandler plain) :=
  fun code data flags => simulation.rel_map (clean.execute handled code data flags) Except.ok

variable {binder : Binder n} {plain : Binder m}

theorem Clean.answer (clean : simulation.Clean parcels) (related : simulation.RelBinder binder plain)
    (request : Request) :
    simulation.rel (Connection.answer binder request parcels) (Connection.answer plain request) := by
  apply simulation.rel_bind (related request.code _ request.flags)
  intro outcome
  split
  · refine simulation.rel_bind ?_ fun _ => simulation.rel_pure none
    obtain fault | ⟨reply⟩ | _ := outcome
    · exact simulation.rel_pure ()
    · exact clean.recycle reply
    · exact simulation.rel_pure ()
  · refine simulation.rel_bind ?_ fun reply => simulation.rel_pure (some reply)
    obtain fault | ⟨reply⟩ | _ := outcome
    · refine simulation.rel_bind clean.obtain fun parcel => ?_
      exact simulation.rel_bind (clean.recycle _) fun _ => simulation.rel_pure _
    · exact simulation.rel_bind (clean.recycle reply) fun _ => simulation.rel_pure _
    · exact simulation.rel_pure _

theorem Clean.serve (clean : simulation.Clean parcels) (related : simulation.RelBinder binder plain)
    (received : List UInt8) :
    simulation.rel (Connection.serve binder received parcels) (Connection.serve plain received) := by
  rw [Connection.serve_eq, Connection.serve_eq]
  cases found : Frame.front received with
  | incomplete => exact simulation.rel_pure _
  | oversized size rest => exact simulation.rel_pure _
  | frame payload rest =>
      have shorter : rest.length < received.length := Frame.length_lt_of_front found
      dsimp only
      cases Request.decode payload with
      | error fault => exact simulation.rel_pure _
      | ok request =>
          apply simulation.rel_bind (clean.answer related request)
          intro reply
          cases Connection.replyFrame reply with
          | error fault => exact simulation.rel_pure _
          | ok sent =>
              exact simulation.rel_bind (clean.serve related rest) fun _ => simulation.rel_pure _
termination_by received.length

theorem Clean.step (clean : simulation.Clean parcels) (related : simulation.RelBinder binder plain)
    (host : Host) (event : Host.Event) :
    simulation.rel (host.step binder event parcels) (host.step plain event) := by
  cases event with
  | receive number bytes =>
      change simulation.rel (host.receive binder number bytes parcels)
        (host.receive plain number bytes)
      unfold Host.receive
      cases host.pending? number with
      | none => exact simulation.rel_pure _
      | some pending =>
          apply simulation.rel_bind (clean.serve related (pending ++ bytes))
          intro progress
          cases progress.pending <;> exact simulation.rel_pure _
  | _ => exact simulation.rel_pure _

theorem Clean.run (clean : simulation.Clean parcels) (related : simulation.RelBinder binder plain)
    (host : Host) (events : List Host.Event) :
    simulation.rel (host.run binder events parcels) (host.run plain events) := by
  induction events generalizing host with
  | nil => exact simulation.rel_pure _
  | cons event rest inductionHypothesis =>
      apply simulation.rel_bind (clean.step related host event)
      intro ⟨next, emissions⟩
      apply simulation.rel_bind (inductionHypothesis next)
      intro ⟨last, later⟩
      exact simulation.rel_pure _

end Simulation

variable {m : Type → Type} [Monad m] [LawfulMonad m]

/-- An action with the pools is one without them if it has the same result on all
threads, whatever is left in their pools. -/
def Threads.forgetting (m : Type → Type) [Monad m] [LawfulMonad m] :
    Simulation (StateT Threads m) m where
  rel action plain := ∀ threads : Threads, Prod.fst <$> action.run threads = plain
  rel_pure value threads := map_pure Prod.fst (value, threads)
  rel_bind := by
    intro α β first second next follow begun went threads
    rw [StateT.run_bind, map_bind, ← begun threads, bind_map_left]
    exact bind_congr fun result => went result.1 result.2

theorem Supply.clean_pooled : (Threads.forgetting m).Clean .pooled where
  obtain threads := by
    have empty := (threads.pools (threads.schedule 0)).obtain_empty
    exact (map_pure _ _).trans (congrArg pure empty)
  recycle parcel threads := map_pure _ _

/-- The handler on threads that it knows nothing of. -/
def Handler.threaded (handler : Handler m) : Handler (StateT Threads m) where
  handle := fun code flags => ExceptT.mk fun exchange =>
    StateT.lift ((handler.handle code flags).perform exchange)

theorem Handler.relHandler_threaded (handler : Handler m) :
    (Threads.forgetting m).RelHandler handler.threaded handler := by
  intro code flags exchange threads
  change Prod.fst <$> (do
    let handled ← (handler.handle code flags).perform exchange
    pure (handled, threads)) = _
  rw [map_bind]
  simp only [map_pure, bind_pure]

/-- A host runs alike with recycled parcels and with new ones, whatever the threads it
runs on, and so does the binder that it hosts. -/
theorem Host.run_pooled (handler : Handler m) (host : Host) (events : List Event)
    (threads : Threads) :
    Prod.fst <$> (host.run (.ofHandler handler.threaded .pooled) events .pooled).run threads =
      host.run (.ofHandler handler) events :=
  Supply.clean_pooled.run
    (Supply.clean_pooled.relBinder_ofHandler handler.relHandler_threaded) host events threads

end Courier
