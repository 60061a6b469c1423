import Courier.Proofs.Callback.Results

namespace Courier

/-! Callbacks that forward to callbacks.

A proxy is a callback itself, so a binder can carry it: a result then passes one
proxy and one stub after the other, and what the callback at the end returned comes
back the same way.  A proxy that waits puts its words in front of the text and
leaves the code alone; a proxy that does not wait swallows the failure. -/

/-- A proxy of a chain, without the binder that it forwards to. -/
structure Hop (m : Type → Type) where
  policy : DeliveryPolicy
  fallback : Option (Callback m)
  registered : m (Option (Callback m))

namespace Hop

variable {m : Type → Type} [Monad m]

/-- The proxy as a callback: what it is given it sends to the binder of another. -/
def forward (hop : Hop m) (callback : Callback (StateT (List Delivery) m)) :
    Callback (StateT (List Delivery) m) where
  deliver := fun result =>
    Sending.send callback.toBinder ⟨result, hop.policy, hop.fallback, hop.registered⟩

/-- What comes back through a chain for what the callback at its end returned. -/
def told (hops : List (Hop m)) (outcome : Except Fault Unit) : Except Fault Unit :=
  hops.foldr (fun hop => Proxy.learned hop.policy) outcome

end Hop

namespace Callback

variable {m : Type → Type} [Monad m]

/-- The callback behind a chain of proxies, the outermost of which comes first. -/
def relayed (callback : Callback (StateT (List Delivery) m)) :
    List (Hop m) → Callback (StateT (List Delivery) m)
  | [] => callback
  | outermost :: inner => outermost.forward (callback.relayed inner)

variable [LawfulMonad m]

theorem deliver_relayed (callback : Callback (StateT (List Delivery) m)) (hops : List (Hop m))
    {result : Option Bundle} (encodable : Encodable result) :
    (callback.relayed hops).deliver result = Hop.told hops <$> callback.deliver result := by
  induction hops with
  | nil => exact (id_map _).symm
  | cons outermost inner inductionHypothesis =>
      have forwarded : (callback.relayed (outermost :: inner)).deliver result =
          Proxy.learned outermost.policy <$> (callback.relayed inner).deliver result :=
        Proxy.deliver_local _ rfl encodable
      rw [forwarded, inductionHypothesis, ← comp_map]
      rfl

end Callback

namespace Fault

/-- The text of a fault that was raised again so many times. -/
def carried (fault : Fault) : Nat → String
  | 0 => fault.message
  | count + 1 =>
      "Remote exception (" ++ toString fault.exceptionCode.toInt ++ "): " ++ fault.carried count

theorem message_remote_carried (fault : Fault) (count : Nat) :
    (remote fault.exceptionCode (fault.carried count)).message = fault.carried (count + 1) := rfl

theorem length_carried (fault : Fault) (count : Nat) :
    (Utf8.bytes (fault.carried count)).length ≤ (Utf8.bytes (fault.carried (count + 1))).length := by
  have grown : fault.carried (count + 1) =
      "Remote exception (" ++ toString fault.exceptionCode.toInt ++ "): " ++ fault.carried count :=
    rfl
  rw [grown, Utf8.bytes_append, List.length_append]
  omega

end Fault

theorem Proxy.learned_ok (policy : DeliveryPolicy) : learned policy (.ok ()) = .ok () := by
  cases policy <;> rfl

namespace Hop

variable {m : Type → Type}

/-- The code is a fixed point of every hop, and the text grows by the same words. -/
theorem told_error {fault : Fault} (listed : fault.exceptionCode ≠ 0) {outermost : Hop m}
    {inner : List (Hop m)} (waiting : ∀ hop ∈ outermost :: inner, hop.policy = .acknowledged)
    (bounded : (Utf8.bytes (fault.carried inner.length)).length < 2 ^ 31) :
    told (outermost :: inner) (.error fault) =
      .error (.remote fault.exceptionCode (fault.carried inner.length)) := by
  have waits : outermost.policy = .acknowledged := waiting outermost List.mem_cons_self
  induction inner generalizing outermost with
  | nil =>
      change Proxy.learned outermost.policy (.error fault) = _
      rw [waits, Proxy.learned_error bounded, Proxy.answer, if_neg listed]
      rfl
  | cons next inner inductionHypothesis =>
      have waitingInside : ∀ hop ∈ next :: inner, hop.policy = .acknowledged :=
        fun hop member => waiting hop (List.mem_cons_of_mem _ member)
      rw [List.length_cons] at bounded ⊢
      have shorter := fault.length_carried inner.length
      have inside := inductionHypothesis waitingInside (by omega)
        (waitingInside next List.mem_cons_self)
      change Proxy.learned outermost.policy (told (next :: inner) (.error fault)) = _
      rw [← fault.message_remote_carried] at bounded ⊢
      rw [inside, waits, Proxy.learned_error bounded, Proxy.answer]
      exact if_neg listed

theorem told_oneWay {hops : List (Hop m)} {outcome : Except Fault Unit}
    (swallowing : ∃ hop ∈ hops, hop.policy = .oneWay) : told hops outcome = .ok () := by
  induction hops with
  | nil => obtain ⟨_, absent, _⟩ := swallowing; contradiction
  | cons outermost inner inductionHypothesis =>
      change Proxy.learned outermost.policy (told inner outcome) = _
      obtain ⟨hop, member, unawaited⟩ := swallowing
      rcases List.mem_cons.1 member with rfl | member
      · rw [unawaited, Proxy.learned]
      · rw [inductionHypothesis ⟨hop, member, unawaited⟩, Proxy.learned_ok]

end Hop

namespace Callback

variable {σ : Type}

/-- Failures keep their code through a chain of stubs and proxies of any length.
The callback at the end is given the result once, unchanged, and no fallback is
given anything.  If every proxy waits, the sender is told the code of the failure
and its text behind the words of each proxy but the first; if one of them does not
wait, the sender is told nothing of it. -/
theorem failures_keep_code (callback : Callback (StateM σ)) (outermost : Hop (StateM σ))
    (inner : List (Hop (StateM σ))) (result : Option Bundle) (journal : List Delivery)
    (before after : σ) (fault : Fault) (encodable : Encodable result)
    (failed : (callback.deliver result).run before = (.error fault, after)) :
    (fault.exceptionCode ≠ 0 →
      (∀ hop ∈ outermost :: inner, hop.policy = .acknowledged) →
      (Utf8.bytes (fault.carried inner.length)).length < 2 ^ 31 →
      ((((callback.recorded .callback).relayed (outermost :: inner)).deliver result).run
          journal).run before =
        ((.error (.remote fault.exceptionCode (fault.carried inner.length)),
          journal ++ [⟨.callback, result⟩]), after)) ∧
    ((∃ hop ∈ outermost :: inner, hop.policy = .oneWay) →
      ((((callback.recorded .callback).relayed (outermost :: inner)).deliver result).run
          journal).run before =
        ((.ok (), journal ++ [⟨.callback, result⟩]), after)) := by
  have relayed : ((((callback.recorded .callback).relayed (outermost :: inner)).deliver result).run
      journal).run before =
        ((Hop.told (outermost :: inner) (.error fault), journal ++ [⟨.callback, result⟩]),
          after) := by
    rw [deliver_relayed _ _ encodable, StateT.run_map, StateT.run_map, callback.deliver_recorded,
      StateT.run_map, failed]
    rfl
  constructor
  · intro listed waiting bounded
    rw [relayed, Hop.told_error listed waiting bounded]
  · intro swallowing
    rw [relayed, Hop.told_oneWay swallowing]

/-- Counts results and fails on each. -/
def failing : Callback (StateM Nat) where
  deliver := fun _ => do
    modify (· + 1)
    return .error (.other "late")

/-- A proxy with a fallback of its own. -/
def hopping (policy : DeliveryPolicy) : Hop (StateM Nat) :=
  ⟨policy, some .noop, pure none⟩

theorem failures_keep_code_late :
    ((((failing.recorded .callback).relayed
        [hopping .acknowledged, hopping .acknowledged, hopping .acknowledged]).deliver
          (some Parcel.nestedSample)).run []).run 4 =
      ((.error (.remote (-5) "Remote exception (-5): Remote exception (-5): late"),
        [⟨.callback, some Parcel.nestedSample⟩]), 5) ∧
    ((((failing.recorded .callback).relayed
        [hopping .acknowledged, hopping .oneWay, hopping .acknowledged]).deliver
          (some Parcel.nestedSample)).run []).run 4 =
      ((.ok (), [⟨.callback, some Parcel.nestedSample⟩]), 5) := by
  have encodable : Encodable (some Parcel.nestedSample) := by
    rintro bundle ⟨⟩
    exact ⟨by decide, by decide +kernel⟩
  have sent := fun middle => failures_keep_code failing (hopping .acknowledged)
    [hopping middle, hopping .acknowledged] _ [] 4 5 (.other "late") encodable rfl
  have waiting : ∀ hop ∈ [hopping .acknowledged, hopping .acknowledged, hopping .acknowledged],
      hop.policy = .acknowledged := by
    simp [hopping]
  exact ⟨(sent .acknowledged).1 (by decide) waiting (by decide +kernel),
    (sent .oneWay).2 ⟨hopping .oneWay, by simp, rfl⟩⟩

end Callback

end Courier
