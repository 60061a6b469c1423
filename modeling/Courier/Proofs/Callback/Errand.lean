import Courier.Proofs.Call
import Courier.Proofs.Callback.Delivery

namespace Courier

/-! What a proxy does for one delivery.

The delivery is taken apart into what the proxy asks of others, one thing after
the other, and the others answer as they like. -/

/-- What a proxy still does, up to its answer.  `ι` names the callbacks that it can
fall back on. -/
inductive Errand (ι α : Type) where
  | done (value : α)
  | transact (call : Call) (next : Except Fault Status → Errand ι α)
  | consult (next : Option ι → Errand ι α)
  | fallBack (receiver : ι) (result : Option Bundle) (next : Except Fault Unit → Errand ι α)

namespace Errand

variable {ι α β : Type}

def bind (next : α → Errand ι β) : Errand ι α → Errand ι β
  | .done value => next value
  | .transact call later => .transact call fun outcome => (later outcome).bind next
  | .consult later => .consult fun found => (later found).bind next
  | .fallBack receiver result later =>
      .fallBack receiver result fun outcome => (later outcome).bind next

instance : Monad (Errand ι) where
  pure := .done
  bind := fun errand next => errand.bind next

theorem bind_done (errand : Errand ι α) : errand.bind .done = errand := by
  induction errand with
  | done value => rfl
  | transact call next inductionHypothesis => exact congrArg _ (funext inductionHypothesis)
  | consult next inductionHypothesis => exact congrArg _ (funext inductionHypothesis)
  | fallBack receiver result next inductionHypothesis =>
      exact congrArg _ (funext inductionHypothesis)

theorem bind_bind {γ : Type} (errand : Errand ι α) (first : α → Errand ι β)
    (second : β → Errand ι γ) :
    (errand.bind first).bind second = errand.bind fun value => (first value).bind second := by
  induction errand with
  | done value => rfl
  | transact call next inductionHypothesis => exact congrArg _ (funext inductionHypothesis)
  | consult next inductionHypothesis => exact congrArg _ (funext inductionHypothesis)
  | fallBack receiver result next inductionHypothesis =>
      exact congrArg _ (funext inductionHypothesis)

instance : LawfulMonad (Errand ι) :=
  .mk' _ bind_done (fun _ _ => rfl) bind_bind

/-- Runs an errand with somebody for everything that it asks. -/
def perform {m : Type → Type} [Monad m] (transact : Call → m (Except Fault Status))
    (registered : m (Option ι)) (deliver : ι → Option Bundle → m (Except Fault Unit)) :
    Errand ι α → m α
  | .done value => pure value
  | .transact call next => do (next (← transact call)).perform transact registered deliver
  | .consult next => do (next (← registered)).perform transact registered deliver
  | .fallBack receiver result next => do
      (next (← deliver receiver result)).perform transact registered deliver

end Errand

namespace Proxy

/-- What a proxy does with the outcome of a transaction that it waits for. -/
def acknowledgement : Except Fault Status → Except Fault Unit
  | .ok (.handled reply) => (reply.read Decoder.exception).1
  | .ok .unhandled => .error (.unknownTransaction Callback.sendResult)
  | .error fault => .error fault

/-- The outcome of a one-way transaction that leaves the result to a fallback. -/
def undelivered : Except Fault Status → Bool
  | .ok status => !status.isHandled
  | .error fault => fault.isTransport

/-- A delivery is at most one transaction and, if that is one-way and does not get
through, at most one call of a fallback. -/
theorem deliver_eq {m : Type → Type} [Monad m] [LawfulMonad m] (proxy : Proxy m)
    (result : Option Bundle) :
    proxy.deliver result =
      match (request result).fault with
      | some fault => pure (.error fault)
      | none => do
          let outcome ← proxy.remote.transact Callback.sendResult (.ofBytes (request result).bytes)
            (flags proxy.policy)
          match proxy.policy with
          | .acknowledged => return acknowledgement outcome
          | .oneWay =>
              if undelivered outcome then
                match ← proxy.resolveFallback with
                | some callback => callback.deliver result
                | none => return .ok ()
              else return outcome.map fun _ => () := by
  unfold deliver
  cases drafted : (request result).fault with
  | some fault => simp only [drafted]
  | none =>
      simp only [drafted]
      cases chosen : proxy.policy with
      | acknowledged =>
          apply bind_congr
          intro outcome
          rcases outcome with fault | ⟨reply⟩ | _ <;> rfl
      | oneWay =>
          simp only [sendOneWay, bind_assoc]
          apply bind_congr
          intro outcome
          rcases outcome with fault | ⟨reply⟩ | _
          · cases lost : fault.isTransport with
            | false => simp [undelivered, lost, Except.map]
            | true =>
                have undelivered : undelivered (.error fault) = true := lost
                rw [if_pos undelivered]
                dsimp only
                rw [if_pos lost]
                exact pure_bind _ _
          · simp [undelivered, Status.isHandled, Except.map]
          · exact pure_bind _ _

/-- The outcomes of a one-way transaction that leave the result to a fallback. -/
inductive Lost : Except Fault Status → Prop where
  | unhandled : Lost (.ok .unhandled)
  | transport (message : String) (source : Option String) :
      Lost (.error (.transport message source))
  | deadObject (address : String) : Lost (.error (.deadObject address))

theorem lost_iff {outcome : Except Fault Status} : Lost outcome ↔ undelivered outcome = true := by
  constructor
  · rintro (_ | _ | _) <;> rfl
  · intro undelivered
    rcases outcome with fault | ⟨reply⟩ | _
    · cases fault <;> first | contradiction | constructor
    · contradiction
    · constructor

end Proxy

/-- A result to be sent by a proxy of its own. -/
structure Posting (ι : Type) where
  result : Option Bundle
  policy : DeliveryPolicy
  fallback : Option ι

namespace Posting

variable {ι : Type}

/-- The proxy whose every question is left open. -/
def proxy (posting : Posting ι) : Proxy (Errand ι) :=
  let receiver := fun name => ⟨fun result => .fallBack name result .done⟩
  { remote := { transact := fun code data flags => .transact ⟨code, data, flags⟩ .done }
    policy := posting.policy
    fallback := posting.fallback.map receiver
    registered := .consult fun found => .done (found.map receiver) }

def errand (posting : Posting ι) : Errand ι (Except Fault Unit) :=
  posting.proxy.deliver posting.result

def request (posting : Posting ι) : Call :=
  ⟨Callback.sendResult, .ofBytes (Proxy.request posting.result).bytes, Proxy.flags posting.policy⟩

/-- The result is nested too deep for an encoding. -/
def TooDeep (posting : Posting ι) : Prop :=
  ∃ bundle, posting.result = some bundle ∧ Limits.bundleDepth < bundle.depth

/-- What is left to do for a one-way result that goes to a fallback, if there is one. -/
def turnTo (posting : Posting ι) : Option ι → Errand ι (Except Fault Unit)
  | some receiver => .fallBack receiver posting.result .done
  | none => .done (.ok ())

def follow (posting : Posting ι) (outcome : Except Fault Status) : Errand ι (Except Fault Unit) :=
  match posting.policy with
  | .acknowledged => .done (Proxy.acknowledgement outcome)
  | .oneWay =>
      if Proxy.undelivered outcome then
        match posting.fallback with
        | some receiver => posting.turnTo (some receiver)
        | none => .consult posting.turnTo
      else .done (outcome.map fun _ => ())

theorem errand_eq (posting : Posting ι) :
    posting.errand =
      match (Proxy.request posting.result).fault with
      | some fault => .done (.error fault)
      | none => .transact posting.request posting.follow := by
  rw [errand, Proxy.deliver_eq]
  cases (Proxy.request posting.result).fault with
  | some fault => rfl
  | none =>
      obtain ⟨result, policy, fallback⟩ := posting
      apply congrArg (Errand.transact _)
      funext outcome
      cases policy with
      | acknowledged => rfl
      | oneWay =>
          cases fallback with
          | some receiver => rfl
          | none =>
              change (if Proxy.undelivered outcome = true then _ else _) =
                if Proxy.undelivered outcome = true then _ else _
              split
              · refine congrArg Errand.consult (funext fun found => ?_)
                cases found <;> rfl
              · rfl

/-- The errand is all that a proxy does, whatever it is a proxy of. -/
theorem perform_errand {m : Type → Type} [Monad m] [LawfulMonad m] (posting : Posting ι)
    (binder : Binder m) (registered : m (Option ι)) (known : ι → Callback m) :
    posting.errand.perform (Call.issue binder) registered (fun name => (known name).deliver) =
      Proxy.deliver
        ⟨binder, posting.policy, posting.fallback.map known, Option.map known <$> registered⟩
        posting.result := by
  rw [errand_eq, Proxy.deliver_eq]
  cases (Proxy.request posting.result).fault with
  | some fault => rfl
  | none =>
      obtain ⟨result, policy, fallback⟩ := posting
      apply bind_congr
      intro outcome
      cases policy with
      | acknowledged => rfl
      | oneWay =>
          dsimp only [follow]
          split
          · cases fallback with
            | some receiver => simp [turnTo, Proxy.resolveFallback, Errand.perform]
            | none =>
                simp only [Errand.perform, Proxy.resolveFallback, Option.map_none, bind_map_left]
                apply bind_congr
                intro found
                cases found <;> simp [turnTo, Errand.perform]
          · rfl

theorem errand_tooDeep {posting : Posting ι} (deep : posting.TooDeep) :
    posting.errand = .done (.error (.unencodable .nestedTooDeep)) := by
  obtain ⟨bundle, carried, deep⟩ := deep
  have stopped : (Proxy.request posting.result).fault = some (.unencodable .nestedTooDeep) := by
    rw [carried, Proxy.fault_request_some, if_neg (Nat.not_le.2 deep)]
  rw [errand_eq, stopped]

theorem errand_encodable {posting : Posting ι} (encodable : ¬ posting.TooDeep) :
    posting.errand = .transact posting.request posting.follow := by
  have finished : (Proxy.request posting.result).fault = none := by
    cases carried : posting.result with
    | none => rfl
    | some bundle =>
        have shallow : bundle.depth ≤ Limits.bundleDepth :=
          Nat.not_lt.1 fun deep => encodable ⟨bundle, carried, deep⟩
        rw [Proxy.fault_request_some, if_pos shallow]
  rw [errand_eq, finished]

end Posting

variable {ι : Type}

/-- What somebody was asked for a delivery, and what came of it. -/
inductive Deed (ι : Type) where
  | transaction (call : Call) (outcome : Except Fault Status)
  | lookup (found : Option ι)
  | fallback (receiver : ι) (result : Option Bundle) (outcome : Except Fault Unit)

namespace Deed

def transaction? : Deed ι → Option (Call × Except Fault Status)
  | .transaction call outcome => some (call, outcome)
  | _ => none

def fallback? : Deed ι → Option (ι × Option Bundle × Except Fault Unit)
  | .fallback receiver result outcome => some (receiver, result, outcome)
  | _ => none

end Deed

/-- The next thing of an errand.  What is registered is known; binders and callbacks
answer whatever they like. -/
inductive Errand.Does {α : Type} (registered : Option ι) :
    Errand ι α → Deed ι → Errand ι α → Prop where
  | transact (call : Call) (next : Except Fault Status → Errand ι α)
      (outcome : Except Fault Status) :
      Does registered (.transact call next) (.transaction call outcome) (next outcome)
  | consult (next : Option ι → Errand ι α) :
      Does registered (.consult next) (.lookup registered) (next registered)
  | fallBack (receiver : ι) (result : Option Bundle) (next : Except Fault Unit → Errand ι α)
      (outcome : Except Fault Unit) :
      Does registered (.fallBack receiver result next) (.fallback receiver result outcome)
        (next outcome)

theorem Errand.does_of_ne_done {α : Type} {errand : Errand ι α}
    (unfinished : ∀ value, errand ≠ .done value) (registered : Option ι) :
    ∃ deed next, errand.Does registered deed next := by
  cases errand with
  | done value => exact absurd rfl (unfinished value)
  | transact call next => exact ⟨_, _, .transact call next (.ok .unhandled)⟩
  | consult next => exact ⟨_, _, .consult next⟩
  | fallBack receiver result next => exact ⟨_, _, .fallBack receiver result next (.ok ())⟩

/-- Where the receiver of a result comes from that is not delivered, and whether there
is one. -/
inductive Posting.Resolved (posting : Posting ι) : List (Deed ι) → Option ι → Prop where
  | injected {receiver : ι} (given : posting.fallback = some receiver) :
      Resolved posting [] (some receiver)
  | registered (found : Option ι) (missing : posting.fallback = none) :
      Resolved posting [.lookup found] found

/-- How far a delivery can have got. -/
inductive Posting.Course (posting : Posting ι) :
    List (Deed ι) → Errand ι (Except Fault Unit) → Prop where
  | refused (deep : posting.TooDeep) :
      Course posting [] (.done (.error (.unencodable .nestedTooDeep)))
  | begun (encodable : ¬ posting.TooDeep) :
      Course posting [] (.transact posting.request posting.follow)
  | sent (encodable : ¬ posting.TooDeep) (outcome : Except Fault Status) :
      Course posting [.transaction posting.request outcome] (posting.follow outcome)
  | turned {outcome : Except Fault Status} {lookups : List (Deed ι)} {found : Option ι}
      (encodable : ¬ posting.TooDeep) (oneWay : posting.policy = .oneWay) (lost : Proxy.Lost outcome)
      (resolved : posting.Resolved lookups found) :
      Course posting (.transaction posting.request outcome :: lookups) (posting.turnTo found)
  | fallen {outcome : Except Fault Status} {lookups : List (Deed ι)} {receiver : ι}
      (encodable : ¬ posting.TooDeep) (oneWay : posting.policy = .oneWay) (lost : Proxy.Lost outcome)
      (resolved : posting.Resolved lookups (some receiver)) (told : Except Fault Unit) :
      Course posting
        (.transaction posting.request outcome ::
          (lookups ++ [.fallback receiver posting.result told]))
        (.done told)

namespace Posting

theorem course_errand (posting : Posting ι) : posting.Course [] posting.errand := by
  by_cases deep : posting.TooDeep
  · rw [errand_tooDeep deep]
    exact .refused deep
  · rw [errand_encodable deep]
    exact .begun deep

theorem Course.turn {posting : Posting ι} {registered found : Option ι} {deed : Deed ι}
    {outcome : Except Fault Status} {lookups : List (Deed ι)}
    {left : Errand ι (Except Fault Unit)} (encodable : ¬ posting.TooDeep)
    (oneWay : posting.policy = .oneWay) (lost : Proxy.Lost outcome)
    (resolved : posting.Resolved lookups found)
    (does : (posting.turnTo found).Does registered deed left) :
    posting.Course (.transaction posting.request outcome :: (lookups ++ [deed])) left := by
  cases found with
  | none => cases does
  | some receiver =>
      cases does
      exact .fallen encodable oneWay lost resolved _

theorem Course.step {posting : Posting ι} {registered : Option ι} {deeds : List (Deed ι)}
    {deed : Deed ι} {before after : Errand ι (Except Fault Unit)}
    (course : posting.Course deeds before) (does : before.Does registered deed after) :
    posting.Course (deeds ++ [deed]) after := by
  cases course with
  | refused deep => cases does
  | begun encodable =>
      cases does
      exact .sent encodable _
  | sent encodable outcome =>
      unfold follow at does
      split at does
      · cases does
      · rename_i oneWay
        split at does
        · rename_i undelivered
          have lost := Proxy.lost_iff.2 undelivered
          split at does
          · rename_i given
            exact .turn encodable oneWay lost (.injected given) does
          · rename_i missing
            cases does
            exact .turned encodable oneWay lost (.registered _ missing)
        · cases does
  | turned encodable oneWay lost resolved => exact .turn encodable oneWay lost resolved does
  | fallen => cases does

theorem Resolved.silent {posting : Posting ι} {lookups : List (Deed ι)} {found : Option ι}
    (resolved : posting.Resolved lookups found) :
    lookups.filterMap Deed.transaction? = [] ∧ lookups.filterMap Deed.fallback? = [] := by
  cases resolved <;> exact ⟨rfl, rfl⟩

theorem Course.length_le {posting : Posting ι} {deeds : List (Deed ι)}
    {left : Errand ι (Except Fault Unit)} (course : posting.Course deeds left) : deeds.length ≤ 3 := by
  cases course with
  | refused deep => exact Nat.zero_le 3
  | begun encodable => exact Nat.zero_le 3
  | sent encodable outcome => exact Nat.le_add_left 1 2
  | turned encodable oneWay lost resolved => cases resolved <;> simp
  | fallen encodable oneWay lost resolved told => cases resolved <;> simp

end Posting

end Courier
