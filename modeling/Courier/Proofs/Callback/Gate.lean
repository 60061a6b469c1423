import Courier.Proofs.Callback.Refusal
import Courier.Proofs.Callback.Results

namespace Courier.Callback

/-! What it takes to reach a callback.

Only one code and one shape of data lead to it: the token of the interface and
behind that a result, or the word that there is none.  Codes of the interface
need the token, known or not, and of all other codes the data are not read. -/

inductive DeliveryForm : List UInt8 → Option Bundle → Prop where
  | delivery {token form : List UInt8} {result : Option Bundle}
      (entered : Decoder.TokenForm descriptor token)
      (carried : Decoder.TypedForm (BundleForm 0) form result) (rest : List UInt8) :
      DeliveryForm (token ++ (form ++ rest)) result

def Tokened (data : List UInt8) : Prop :=
  ∃ token rest, data = token ++ rest ∧ Decoder.TokenForm descriptor token

theorem read_token_eq_ok {data : List UInt8} {body : Parcel} :
    (Parcel.ofBytes data).read (Decoder.enforceInterface descriptor) = (.ok (), body) ↔
      ∃ token rest, data = token ++ rest ∧ Decoder.TokenForm descriptor token ∧
        body = ⟨data, token.length⟩ := by
  have forms := @Parcel.read_eq_ok_iff_form _ _ _ (@Decoder.sound_enforceInterface descriptor)
    (fun _ _ => Decoder.takes_enforceInterface) (.ofBytes data) body ()
  simp only [Parcel.ofBytes, List.drop_zero, Nat.zero_add] at forms
  exact forms

theorem received_eq_ok {data : List UInt8} {result : Option Bundle} :
    received data = .ok result ↔ DeliveryForm data result := by
  have whole : 0 + (Limits.bundleDepth + 1) = Limits.bundleDepth + 1 := Nat.zero_add _
  have sound : Decoder.bundle.Sound (BundleForm 0) := Decoder.sound_bundleWithin whole
  have takes : ∀ form bundle, BundleForm 0 form bundle → Decoder.bundle.Takes form bundle :=
    fun _ _ => Decoder.takes_bundleWithin whole
  have forms := @Parcel.read_eq_ok_iff_form _ _ _ (Decoder.sound_typed sound)
    (fun _ _ => Decoder.takes_typed takes)
  constructor
  · intro read
    unfold received at read
    split at read
    · rename_i body entered
      obtain ⟨token, rest, rfl, spelled, rfl⟩ := read_token_eq_ok.1 entered
      obtain ⟨form, others, unread, carried, _⟩ := forms.1 (Prod.ext read rfl)
      rw [List.drop_left] at unread
      rw [unread]
      exact .delivery spelled carried others
    · contradiction
  · intro delivery
    cases delivery with
    | @delivery token form _ spelled carried rest =>
        have entered := read_token_eq_ok.2 ⟨token, form ++ rest, rfl, spelled, rfl⟩
        have read := (@forms ⟨token ++ (form ++ rest), token.length⟩ _ result).2
          ⟨form, rest, List.drop_left, carried, rfl⟩
        unfold received
        rw [entered]
        exact congrArg Prod.fst read

theorem demand_eq_delivery {code : UInt32} {data : List UInt8} {result : Option Bundle} :
    demand code data = .ok (.delivery result) ↔ code = sendResult ∧ DeliveryForm data result := by
  rw [← received_eq_ok]
  unfold demand
  split
  · rename_i delivers
    cases received data <;> simp [delivers, Except.map]
  · rename_i other
    split
    · cases ((Parcel.ofBytes data).read (Decoder.enforceInterface descriptor)).1 <;>
        simp [other, Except.map]
    · split <;> simp [other]

theorem demand_untokened {code : UInt32} {data : List UInt8}
    (call : Transaction.isCall code = true) (untokened : ¬ Tokened data) :
    ∃ fault, demand code data = .error fault := by
  cases entered : (Parcel.ofBytes data).read (Decoder.enforceInterface descriptor) with
  | mk verdict body =>
      cases verdict with
      | ok done =>
          obtain ⟨token, rest, split, spelled, _⟩ := read_token_eq_ok.1 entered
          exact absurd ⟨token, rest, split, spelled⟩ untokened
      | error fault =>
          refine ⟨fault, ?_⟩
          simp [demand, received, entered, call, Except.map]

theorem perform_stub_unread {m : Type → Type} [Monad m] [LawfulMonad m] (callback : Callback m)
    {code : UInt32} (foreign : Transaction.isCall code = false) (flags : Flags) (reply : Parcel) :
    ∃ verdict written, ∀ data : Parcel,
      (callback.stub.handle code flags).perform ⟨data, reply⟩ =
        pure (verdict, ⟨data, written⟩) := by
  have other : code ≠ sendResult := by
    rintro rfl
    exact absurd foreign (by decide)
  by_cases described : code = Transaction.interface
  · subst described
    refine ⟨.ok true, reply.append (Wire.string descriptor), fun data => ?_⟩
    simp [stub, foreign, Handling.perform_map, Handling.perform_reply, Except.map]
  · refine ⟨.ok (code == Transaction.ping), reply, fun data => ?_⟩
    simp [stub, foreign, described, other, Handler.fallback]

def deliveries (demanded : Except Fault Demand) : List Delivery :=
  match demanded with
  | .ok (.delivery result) => [⟨.callback, result⟩]
  | _ => []

theorem deliveries_few (demanded : Except Fault Demand) :
    deliveries demanded = [] ∨ ∃ result, deliveries demanded = [⟨.callback, result⟩] := by
  unfold deliveries
  split
  · rename_i result
    exact .inr ⟨result, rfl⟩
  · exact .inl rfl

theorem deliveries_eq_delivery {demanded : Except Fault Demand} {result : Option Bundle} :
    deliveries demanded = [⟨.callback, result⟩] ↔ demanded = .ok (.delivery result) := by
  unfold deliveries
  split
  · simp
  · rename_i other
    exact ⟨nofun, fun same => absurd same (other result)⟩

variable {σ : Type}

theorem run_pure_eq {α : Type} {value given : α} {journal noted : List Delivery} {before after : σ}
    (ran : ((value, noted), after) =
      ((pure given : StateT (List Delivery) (StateM σ) α).run journal).run before) :
    value = given ∧ noted = journal ∧ after = before := by
  change _ = ((given, journal), before) at ran
  simpa only [Prod.mk.injEq, and_assoc] using ran

theorem run_stub_recorded (callback : Callback (StateM σ)) (code : UInt32) (flags : Flags)
    (data : List UInt8) (reply : Parcel) (journal : List Delivery) (before : σ) :
    ∃ verdict handled after,
      ((((callback.recorded .callback).stub.handle code flags).perform
          ⟨.ofBytes data, reply⟩).run journal).run before =
        (((verdict, handled), journal ++ deliveries (demand code data)), after) ∧
      (∀ fault, demand code data = .error fault → verdict = .error fault) ∧
      ∀ result, demand code data = .ok (.delivery result) →
        ∃ outcome, (callback.deliver result).run before = (outcome, after) ∧
          verdict = outcome.map fun _ => true := by
  obtain ⟨verdict, handled, noted, after, ran⟩ : ∃ verdict handled noted after,
      ((((callback.recorded .callback).stub.handle code flags).perform
          ⟨.ofBytes data, reply⟩).run journal).run before =
        (((verdict, handled), noted), after) := ⟨_, _, _, _, rfl⟩
  have performed := congrArg (fun action => (action.run journal).run before)
    ((callback.recorded .callback).perform_stub code flags data reply)
  simp only [StateT.run_map] at performed
  rw [ran] at performed
  change (((verdict, handled.reply), noted), after) = _ at performed
  refine ⟨verdict, handled, after, ?_⟩
  cases demanded : demand code data with
  | error fault =>
      rw [demanded] at performed
      obtain ⟨settled, rfl, rfl⟩ := run_pure_eq performed
      refine ⟨by simpa only [deliveries, List.append_nil] using ran, ?_, nofun⟩
      rintro _ ⟨⟩
      exact congrArg Prod.fst settled
  | ok claim =>
      cases claim with
      | delivery result =>
          obtain ⟨outcome, left, returned⟩ : ∃ outcome left,
            (callback.deliver result).run before = (outcome, left) := ⟨_, _, rfl⟩
          simp only [demanded, deliver_recorded, StateT.run_map] at performed
          rw [returned] at performed
          change _ = (((_, _), _), left) at performed
          simp only [Prod.mk.injEq] at performed
          obtain ⟨⟨⟨rfl, -⟩, rfl⟩, rfl⟩ := performed
          refine ⟨ran, nofun, ?_⟩
          rintro _ ⟨⟩
          exact ⟨outcome, returned, rfl⟩
      | description =>
          rw [demanded] at performed
          obtain ⟨-, rfl, rfl⟩ := run_pure_eq performed
          exact ⟨by simpa only [deliveries, List.append_nil] using ran, nofun, nofun⟩
      | unclaimed =>
          rw [demanded] at performed
          obtain ⟨-, rfl, rfl⟩ := run_pure_eq performed
          exact ⟨by simpa only [deliveries, List.append_nil] using ran, nofun, nofun⟩

/-- No transaction reaches the callback but one that delivers in the right form,
and that one does so once, with the result it carries and nothing else. -/
theorem reached_exactly (callback : Callback (StateM σ)) (code : UInt32) (flags : Flags)
    (data : List UInt8) (reply : Parcel) (journal : List Delivery) (before : σ) :
    ∃ verdict handled delivered after,
      ((((callback.recorded .callback).stub.handle code flags).perform
          ⟨.ofBytes data, reply⟩).run journal).run before =
        (((verdict, handled), journal ++ delivered), after) ∧
      (delivered = [] ∨ ∃ result, delivered = [⟨.callback, result⟩]) ∧
      (∀ result, delivered = [⟨.callback, result⟩] ↔
        code = sendResult ∧ DeliveryForm data result) ∧
      (∀ result, delivered = [⟨.callback, result⟩] →
        ∃ outcome, (callback.deliver result).run before = (outcome, after) ∧
          verdict = outcome.map fun _ => true) ∧
      (Transaction.isCall code = true → ¬ Tokened data →
        ∃ fault, verdict = .error fault ∧
          ((∃ actual, fault = .interfaceMismatch descriptor actual) ∨
            ∃ defect, fault = .malformed defect)) ∧
      (Transaction.isCall code = false →
        delivered = [] ∧
        ∀ other : Parcel,
          ((callback.recorded .callback).stub.handle code flags).perform ⟨other, reply⟩ =
            pure (verdict, ⟨other, handled.reply⟩)) := by
  obtain ⟨verdict, handled, after, ran, refused, delivers⟩ :=
    run_stub_recorded callback code flags data reply journal before
  refine ⟨verdict, handled, deliveries (demand code data), after, ran, deliveries_few _, ?_⟩
  simp only [deliveries_eq_delivery, ← demand_eq_delivery]
  refine ⟨fun _ => trivial, delivers, ?_, ?_⟩
  · intro call untokened
    obtain ⟨fault, failed⟩ := demand_untokened call untokened
    refine ⟨fault, refused fault failed, ?_⟩
    rcases demand_error failed with ⟨defect, malformed, _⟩ | ⟨actual, _, mismatched⟩
    · exact .inr ⟨defect, malformed⟩
    · exact .inl ⟨_, mismatched⟩
  · intro foreign
    obtain ⟨settled, written, unread⟩ :=
      (callback.recorded .callback).perform_stub_unread foreign flags reply
    rw [unread] at ran
    change (((settled, _), journal), before) = _ at ran
    simp only [Prod.mk.injEq, List.self_eq_append_right] at ran
    obtain ⟨⟨⟨rfl, rfl⟩, silent⟩, -⟩ := ran
    exact ⟨silent, unread⟩

end Courier.Callback
