import Courier.Proofs.Callback.Delivery
import Mathlib.Data.List.Forall2

namespace Courier

/-! Results sent one after the other by proxies of one callback.

A journal tells who was given which result: the callback behind the proxies, or
one of the fallbacks that the proxies were given or find registered. -/

inductive Receiver where
  | callback
  | fallback
deriving DecidableEq, Repr

/-- A result in the hands of a receiver. -/
structure Delivery where
  receiver : Receiver
  result : Option Bundle

/-- The callback with a journal of what it is given. -/
def Callback.recorded {m : Type → Type} [Monad m] (callback : Callback m) (receiver : Receiver) :
    Callback (StateT (List Delivery) m) where
  deliver := fun result => do
    modify fun journal => journal ++ [⟨receiver, result⟩]
    callback.deliver result

/-- A result, and how the proxy that it is given to delivers it and falls back. -/
structure Sending (m : Type → Type) where
  result : Option Bundle
  policy : DeliveryPolicy
  fallback : Option (Callback m)
  registered : m (Option (Callback m))

namespace Sending

variable {m n : Type → Type} [Monad m] [Monad n] [MonadLiftT (StateT (List Delivery) m) n]

/-- A fallback with a journal of what it is given. -/
def watched (callback : Callback m) : Callback n where
  deliver := fun result => liftM ((callback.recorded .fallback).deliver result)

def proxy (binder : Binder n) (sending : Sending m) : Proxy n where
  remote := binder
  policy := sending.policy
  fallback := sending.fallback.map watched
  registered := do
    let registered ← liftM (StateT.lift sending.registered : StateT (List Delivery) m _)
    return registered.map watched

def send (binder : Binder n) (sending : Sending m) : n (Except Fault Unit) :=
  (sending.proxy binder).deliver sending.result

/-- The transaction that carries the result. -/
def request (sending : Sending m) : Request :=
  ⟨Callback.sendResult, Proxy.flags sending.policy, (Proxy.request sending.result).bytes⟩

/-- A frame holds the reply to what the callback returned. -/
def ReplyFits (sending : Sending m) (outcome : Except Fault Unit) : Prop :=
  (Reply.ofOutcome (.ok (Callback.receipt (Proxy.flags sending.policy) outcome))).encode.length ≤
    Limits.message

instance (sending : Sending m) (outcome : Except Fault Unit) :
    Decidable (sending.ReplyFits outcome) :=
  inferInstanceAs (Decidable (_ ≤ _))

/-- What a proxy owes the sender for what the callback returned. -/
def answer (sending : Sending m) (outcome : Except Fault Unit) : Except Fault Unit :=
  Proxy.answer sending.policy outcome

/-- What is noted of a result that reaches the callback. -/
def delivered (sending : Sending m) : Delivery :=
  ⟨.callback, sending.result⟩

end Sending

namespace Callback

variable {m : Type → Type} [Monad m] [LawfulMonad m]

theorem deliver_recorded (callback : Callback m) (receiver : Receiver) (result : Option Bundle)
    (journal : List Delivery) :
    ((callback.recorded receiver).deliver result).run journal =
      (fun outcome => (outcome, journal ++ [⟨receiver, result⟩])) <$> callback.deliver result := by
  simp [recorded]

theorem deliverAll_recorded (callback : Callback m) (sendings : List (Sending m))
    (journal : List Delivery) :
    (sendings.mapM fun sending => (callback.recorded .callback).deliver sending.result).run
        journal =
      (fun outcomes => (outcomes, journal ++ sendings.map Sending.delivered)) <$>
        sendings.mapM fun sending => callback.deliver sending.result := by
  induction sendings generalizing journal with
  | nil => simp
  | cons sending rest inductionHypothesis =>
      simp [List.mapM_cons, deliver_recorded, inductionHypothesis, Sending.delivered]

end Callback

namespace Sending

variable {m : Type → Type}

/-- The proxies learn what the callback returned, as far as a text that one of
them waits for has a length. -/
theorem learnedAll {sendings : List (Sending m)} {outcomes : List (Except Fault Unit)} :
    List.Forall₂ (fun sent answered => Proxy.Legible sent.1.policy sent.2 →
        answered = sent.1.answer sent.2) (sendings.zip outcomes)
      (sendings.zipWith (fun sending outcome => Proxy.learned sending.policy outcome)
        outcomes) := by
  have paired : sendings.zipWith (fun sending outcome => Proxy.learned sending.policy outcome)
      outcomes = (sendings.zip outcomes).map fun sent => Proxy.learned sent.1.policy sent.2 :=
    List.map_uncurry_zip_eq_zipWith.symm
  rw [paired, List.forall₂_map_right_iff]
  exact List.forall₂_same.2 fun _ _ => Proxy.learned_eq_answer

/-- A text in a reply that a frame holds has a length. -/
theorem legible_of_replyFits {sending : Sending m} {outcome : Except Fault Unit}
    (fits : sending.ReplyFits outcome) : Proxy.Legible sending.policy outcome := by
  rintro fault awaited rfl
  rw [ReplyFits, awaited] at fits
  change (_ :: Wire.exception fault).length ≤ _ at fits
  simp only [Wire.exception, Wire.string, Wire.terminated, List.length_cons, List.length_append,
    Limits.message] at fits
  omega

variable [Monad m] [LawfulMonad m]

theorem sendAll_local (callback : Callback (StateT (List Delivery) m))
    {sendings : List (Sending m)} (encodable : ∀ sending ∈ sendings, Encodable sending.result) :
    sendings.mapM (send callback.toBinder) =
      (sendings.zipWith fun sending outcome => Proxy.learned sending.policy outcome) <$>
        sendings.mapM fun sending => callback.deliver sending.result := by
  induction sendings with
  | nil => simp
  | cons sending rest inductionHypothesis =>
      have head : send callback.toBinder sending =
          Proxy.learned sending.policy <$> callback.deliver sending.result :=
        Proxy.deliver_local callback rfl (encodable sending List.mem_cons_self)
      have tail := inductionHypothesis fun other member =>
        encodable other (List.mem_cons_of_mem _ member)
      simp only [List.mapM_cons, head, tail, bind_map_left, map_bind, bind_pure_comp,
        Functor.map_map, List.zipWith_cons_cons]

theorem send_remote (callback : Callback (StateT (List Delivery) m)) {sending : Sending m}
    {host : Host} {number : Nat} (address : String) (opened : host.pending? number = some [])
    (encodable : Encodable sending.result)
    (fits : sending.request.encode.length ≤ Limits.message) :
    ∃ settle : Except Fault Unit → Except Fault Unit × Remote Host,
      ((send (Remote.binder (Loopback.peer callback.toBinder number)) sending).run
          (Loopback.idle address host)).run =
        (fun outcome => some (settle outcome)) <$> callback.deliver sending.result ∧
      ∀ outcome, sending.ReplyFits outcome →
        settle outcome =
          (sending.answer outcome, Loopback.idle address (host.keep number [])) := by
  refine ⟨_, Proxy.deliver_remote callback opened rfl encodable fits, ?_⟩
  intro outcome replyFits
  rw [answer, ← Proxy.learned_eq_answer (legible_of_replyFits replyFits)]
  exact if_pos replyFits

variable {σ : Type}

/-- Results that have encodings are given to the callback, each once, unchanged
and in order, and to no fallback.  This holds for proxies of the callback's own
binder, and for proxies of one connection to its host as long as frames hold the
requests and the replies.  The senders of acknowledged results learn what the
callback returned; a text of `2 ^ 31` bytes, which no frame holds, has no length. -/
theorem results_arrive (callback : Callback (StateM σ)) (sendings : List (Sending (StateM σ)))
    (journal : List Delivery) (state final : σ) (outcomes : List (Except Fault Unit))
    (encodable : ∀ sending ∈ sendings, Encodable sending.result)
    (returned : (sendings.mapM fun sending => callback.deliver sending.result).run state =
      (outcomes, final)) :
    (∃ answers : List (Except Fault Unit),
      ((sendings.mapM (send (callback.recorded .callback).toBinder)).run journal).run state =
        ((answers, journal ++ sendings.map delivered), final) ∧
      List.Forall₂ (fun sent answered => Proxy.Legible sent.1.policy sent.2 →
        answered = sent.1.answer sent.2) (sendings.zip outcomes) answers) ∧
    ∀ (host : Host) (number : Nat) (address : String) (remote : Remote Host),
      (((Remote.connect (Loopback.peer (callback.recorded .callback).toBinder number) host
        address).run journal).run state).1.1 = .ok remote →
      (∀ sending ∈ sendings, sending.request.encode.length ≤ Limits.message) →
      (∀ sent ∈ sendings.zip outcomes, sent.1.ReplyFits sent.2) →
      ∃ next : Host,
        ((((sendings.mapM (send (Remote.binder
            (Loopback.peer (callback.recorded .callback).toBinder number)))).run
          remote).run).run journal).run state =
          ((some (sendings.zipWith answer outcomes, Loopback.idle address next),
            journal ++ sendings.map delivered), final) ∧
        next.pending? number = some [] := by
  have hosted : ((sendings.mapM fun sending =>
      (callback.recorded .callback).deliver sending.result).run journal).run state =
        pure ((outcomes, journal ++ sendings.map delivered), final) := by
    rw [callback.deliverAll_recorded, StateT.run_map, returned]
    rfl
  constructor
  · refine ⟨_, ?_, learnedAll⟩
    rw [sendAll_local _ encodable, StateT.run_map, StateT.run_map, hosted]
    rfl
  · intro host number address remote connected requestsFit repliesFit
    rw [Loopback.connect_eq] at connected
    obtain ⟨entered, rfl, opened⟩ := Loopback.idle_of_admitted connected
    have step := fun sending member (host : Host) (opened : host.pending? number = some []) =>
      send_remote (callback.recorded .callback) address opened (encodable sending member)
        (requestsFit sending member)
    obtain ⟨next, stillOpen, remotely⟩ := Loopback.mapM_idle step opened hosted repliesFit
    exact ⟨next, remotely, stillOpen⟩

/-- Counts results and fails on absent ones. -/
def counting : Callback (StateM Nat) where
  deliver := fun result => do
    modify (· + 1)
    return if result.isSome then .ok () else .error (.other "absent")

/-- An acknowledged bundle, and an absent result in both ways. -/
def counted : List (Sending (StateM Nat)) :=
  [⟨some Parcel.nestedSample, .acknowledged, none, pure none⟩,
    ⟨none, .oneWay, some .noop, pure none⟩, ⟨none, .acknowledged, none, pure (some .noop)⟩]

theorem results_arrive_counted :
    (∃ answers : List (Except Fault Unit),
      ((counted.mapM (send (counting.recorded .callback).toBinder)).run []).run 0 =
        ((answers, counted.map delivered), 3) ∧
      List.Forall₂ (fun sent answered => Proxy.Legible sent.1.policy sent.2 →
        answered = sent.1.answer sent.2)
        (counted.zip [.ok (), .error (.other "absent"), .error (.other "absent")]) answers) ∧
    ∃ next : Host,
      ((((counted.mapM (send (Remote.binder
          (Loopback.peer (counting.recorded .callback).toBinder 4)))).run
        (Loopback.idle "127.0.0.1:1" ⟨⟨16, 1⟩, [(4, [])], .running⟩)).run).run []).run 0 =
        ((some ([.ok (), .ok (), .error (.remote Fault.illegalState "absent")],
          Loopback.idle "127.0.0.1:1" next),
          counted.map delivered), 3) ∧
      next.pending? 4 = some [] := by
  have encodable : ∀ sending ∈ counted, Encodable sending.result := by
    have sample : Encodable (some Parcel.nestedSample) := by
      rintro bundle ⟨⟩
      exact ⟨by decide, by decide +kernel⟩
    simp only [counted, List.forall_mem_cons]
    exact ⟨sample, nofun, nofun, nofun⟩
  have connected : (((Remote.connect (Loopback.peer (counting.recorded .callback).toBinder 4)
      (.start 16) "127.0.0.1:1").run []).run 0).1.1 =
        .ok (Loopback.idle "127.0.0.1:1" ⟨⟨16, 1⟩, [(4, [])], .running⟩) := by
    rw [Loopback.connect_eq]
    rfl
  have arrived := results_arrive counting counted [] 0 3
    [.ok (), .error (.other "absent"), .error (.other "absent")] encodable rfl
  have requestsFit : ∀ sending ∈ counted, sending.request.encode.length ≤ Limits.message := by
    decide +kernel
  exact ⟨arrived.1,
    arrived.2 (.start 16) 4 "127.0.0.1:1" _ connected requestsFit (by decide +kernel)⟩

end Sending

end Courier
