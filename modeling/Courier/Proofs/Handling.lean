import Courier.Binder

namespace Courier.Handling

/-! How the steps of a handler run on a request and a reply. -/

variable {m : Type → Type} [Monad m] {α β : Type}

omit [Monad m] in
@[simp] theorem perform_mk (run : Exchange → m (Except Fault α × Exchange)) (exchange : Exchange) :
    perform (ExceptT.mk run) exchange = run exchange :=
  rfl

@[simp] theorem perform_pure (value : α) (exchange : Exchange) :
    @perform m α (pure value) exchange = pure (.ok value, exchange) :=
  rfl

/-- A step that fails ends the handling. -/
theorem perform_bind (step : Handling m α) (next : α → Handling m β) (exchange : Exchange) :
    perform (step >>= next) exchange = do
      let (outcome, exchange) ← perform step exchange
      match outcome with
      | .ok value => perform (next value) exchange
      | .error fault => return (.error fault, exchange) := by
  change (do let result ← step.run.run exchange; _) = _
  refine bind_congr fun result => ?_
  obtain ⟨outcome, exchange⟩ := result
  cases outcome <;> rfl

theorem perform_map [LawfulMonad m] (f : α → β) (step : Handling m α) (exchange : Exchange) :
    perform (f <$> step) exchange =
      (fun result => (result.1.map f, result.2)) <$> perform step exchange := by
  rw [perform, ExceptT.run_map, StateT.run_map]
  rfl

theorem perform_read (decoder : Decoder α) (exchange : Exchange) :
    @perform m α (read decoder) exchange =
      pure ((exchange.data.read decoder).1, { exchange with data := (exchange.data.read decoder).2 }) :=
  rfl

theorem perform_reply (bytes : List UInt8) (exchange : Exchange) :
    @perform m Unit (reply bytes) exchange =
      pure (.ok (), { exchange with reply := exchange.reply.append bytes }) :=
  rfl

theorem perform_attempt (action : m (Except Fault α)) (exchange : Exchange) :
    perform (attempt action) exchange = do return (← action, exchange) :=
  rfl

end Courier.Handling

namespace Courier.Handler

variable {m : Type → Type} [Monad m] [LawfulMonad m]

/-- Without recycled parcels an execution is the handling and nothing else. -/
theorem execute_eq (handler : Handler m) (code : UInt32) (data : Parcel) (flags : Flags) :
    handler.execute code data flags =
      (fun handled => conclude flags handled.1 handled.2) <$>
        ((fun handled => (handled.1, handled.2.reply)) <$>
          (handler.handle code flags).perform ⟨.ofBytes data.bytes, .empty⟩) := by
  have copied : Parcel.empty.append data.bytes = .ofBytes data.bytes := rfl
  rw [Functor.map_map, map_eq_pure_bind]
  simp only [execute, Supply.fresh, pure_bind, copied]
  refine bind_congr fun handled => ?_
  exact ite_self _

end Courier.Handler
