import Courier.Callback.Registry
import Courier.Proofs.Callback.Errand

namespace Courier

/-! Deliveries that fall back, while others register the default implementation.

Any number of deliveries and registrations take turns around one registry. -/

variable {ι : Type}

theorem Registry.getDefault_setDefault (registry : Registry ι) (implementation : Option ι) :
    (registry.setDefault implementation).2.getDefault = registry.getDefault.or implementation := by
  obtain ⟨registered⟩ := registry
  cases registered <;> cases implementation <;> rfl

structure Delivering (ι : Type) where
  posting : Posting ι
  deeds : List (Deed ι)
  left : Errand ι (Except Fault Unit)

/-- A registry and the deliveries that use it. -/
structure Office (ι : Type) where
  registry : Registry ι
  deliveries : List (Delivering ι)

namespace Office

/-- What happens around one registry: a registration with its response, a delivery
that begins, and a deed of one that began. -/
inductive Action (ι : Type) where
  | register (implementation : Option ι) (response : Except Fault Bool)
  | send (posting : Posting ι)
  | act (sender : Nat) (deed : Deed ι)

namespace Action

def implementation? : Action ι → Option ι
  | .register implementation _ => implementation
  | _ => none

def posting? : Action ι → Option (Posting ι)
  | .send posting => some posting
  | _ => none

def deedOf? (sender : Nat) : Action ι → Option (Deed ι)
  | .act other deed => if other = sender then some deed else none
  | _ => none

end Action

/-- The first implementation that anybody tried to register. -/
def installed (actions : List (Action ι)) : Option ι :=
  actions.findSome? Action.implementation?

inductive Runs : List (Action ι) → Office ι → Prop where
  | start : Runs [] ⟨.empty, []⟩
  | register {actions : List (Action ι)} {office : Office ι} (runs : Runs actions office)
      (implementation : Option ι) :
      Runs (actions ++ [.register implementation (office.registry.setDefault implementation).1])
        { office with registry := (office.registry.setDefault implementation).2 }
  | send {actions : List (Action ι)} {office : Office ι} (runs : Runs actions office)
      (posting : Posting ι) :
      Runs (actions ++ [.send posting])
        { office with deliveries := office.deliveries ++ [⟨posting, [], posting.errand⟩] }
  | act {actions : List (Action ι)} {office : Office ι} {sender : Nat} {posting : Posting ι}
      {deeds : List (Deed ι)} {deed : Deed ι} {before after : Errand ι (Except Fault Unit)}
      (runs : Runs actions office)
      (underway : office.deliveries[sender]? = some ⟨posting, deeds, before⟩)
      (does : before.Does office.registry.getDefault deed after) :
      Runs (actions ++ [.act sender deed])
        { office with
          deliveries := office.deliveries.set sender ⟨posting, deeds ++ [deed], after⟩ }

/-- What an action finds registered, or is told about it. -/
def Action.Fits (registered : Option ι) : Action ι → Prop
  | .register implementation response =>
      response =
        match registered, implementation with
        | some _, _ => .error .duplicateRegistration
        | none, none => .ok false
        | none, some _ => .ok true
  | .act _ (.lookup found) => found = registered
  | _ => True

/-- An office remembers what happened. -/
structure Recorded (actions : List (Action ι)) (office : Office ι) : Prop where
  registered : office.registry.getDefault = installed actions
  postings : office.deliveries.map Delivering.posting = actions.filterMap Action.posting?
  known : ∀ sender deed, .act sender deed ∈ actions → sender < office.deliveries.length
  deeds : ∀ sender delivering, office.deliveries[sender]? = some delivering →
    delivering.deeds = actions.filterMap (Action.deedOf? sender)
  courses : ∀ delivering ∈ office.deliveries, delivering.posting.Course delivering.deeds delivering.left
  fits : ∀ before action after, actions = before ++ action :: after → action.Fits (installed before)

theorem installed_append (actions : List (Action ι)) (action : Action ι) :
    installed (actions ++ [action]) = (installed actions).or action.implementation? := by
  simp [installed, List.findSome?_append]

theorem fits_append {actions : List (Action ι)} {last : Action ι}
    (fits : ∀ before action after, actions = before ++ action :: after →
      action.Fits (installed before)) (lastFits : last.Fits (installed actions))
    (before : List (Action ι)) (action : Action ι) (after : List (Action ι))
    (split : actions ++ [last] = before ++ action :: after) : action.Fits (installed before) := by
  rcases List.eq_nil_or_concat after with rfl | ⟨after, other, rfl⟩
  · obtain ⟨rfl, same⟩ := List.append_inj' split rfl
    cases same
    exact lastFits
  · rw [List.concat_eq_append, ← List.cons_append, ← List.append_assoc] at split
    exact fits before action after (List.append_inj' split rfl).1

theorem fits_setDefault (registry : Registry ι) (implementation : Option ι) :
    (Action.register implementation (registry.setDefault implementation).1).Fits
      registry.getDefault := by
  obtain ⟨registered⟩ := registry
  cases registered <;> cases implementation <;> rfl

theorem fits_does {α : Type} {registered : Option ι} {deed : Deed ι} {before after : Errand ι α}
    (does : before.Does registered deed after) (sender : Nat) :
    (Action.act sender deed).Fits registered := by
  cases does with
  | transact call next outcome => trivial
  | consult next => exact rfl
  | fallBack receiver result next outcome => trivial

namespace Recorded

variable {actions : List (Action ι)} {office : Office ι}

theorem register (records : Recorded actions office) (implementation : Option ι) :
    Recorded (actions ++ [.register implementation (office.registry.setDefault implementation).1])
      { office with registry := (office.registry.setDefault implementation).2 } where
  registered := by
    rw [Registry.getDefault_setDefault, records.registered, installed_append]
    rfl
  postings := by
    rw [records.postings, List.filterMap_append]
    exact (List.append_nil _).symm
  known := by
    intro sender deed member
    rcases List.mem_append.1 member with member | member
    · exact records.known sender deed member
    · cases List.mem_singleton.1 member
  deeds := by
    intro sender delivering underway
    rw [records.deeds sender delivering underway, List.filterMap_append]
    exact (List.append_nil _).symm
  courses := records.courses
  fits := fits_append records.fits (records.registered ▸ fits_setDefault office.registry implementation)

theorem deeds_nil (records : Recorded actions office) {sender : Nat}
    (later : office.deliveries.length ≤ sender) :
    actions.filterMap (Action.deedOf? sender) = [] := by
  apply List.filterMap_eq_nil_iff.2
  intro action member
  cases action with
  | register implementation response => rfl
  | send posting => rfl
  | act other deed =>
      have earlier := records.known other deed member
      have different : other ≠ sender := by omega
      rw [Action.deedOf?, if_neg different]

theorem send (records : Recorded actions office) (posting : Posting ι) :
    Recorded (actions ++ [.send posting])
      { office with deliveries := office.deliveries ++ [⟨posting, [], posting.errand⟩] } where
  registered := by
    rw [records.registered, installed_append]
    exact (Option.or_none).symm
  postings := by
    rw [List.map_append, records.postings, List.filterMap_append]
    rfl
  known := by
    intro sender deed member
    rw [List.length_append]
    rcases List.mem_append.1 member with member | member
    · exact Nat.lt_add_right 1 (records.known sender deed member)
    · cases List.mem_singleton.1 member
  deeds := by
    intro sender delivering underway
    have none : [Action.send posting].filterMap (Action.deedOf? sender) = [] := rfl
    rw [List.filterMap_append, none, List.append_nil]
    by_cases earlier : sender < office.deliveries.length
    · rw [List.getElem?_append_left earlier] at underway
      exact records.deeds sender delivering underway
    · rw [List.getElem?_append_right (Nat.not_lt.1 earlier)] at underway
      obtain ⟨bound, rfl⟩ := List.getElem?_eq_some_iff.1 underway
      rw [List.getElem_singleton]
      exact (records.deeds_nil (Nat.not_lt.1 earlier)).symm
  courses := by
    intro delivering member
    rcases List.mem_append.1 member with member | member
    · exact records.courses delivering member
    · cases List.mem_singleton.1 member
      exact posting.course_errand
  fits := fits_append records.fits trivial

theorem act {sender : Nat} {posting : Posting ι} {deeds : List (Deed ι)} {deed : Deed ι}
    {before after : Errand ι (Except Fault Unit)} (records : Recorded actions office)
    (underway : office.deliveries[sender]? = some ⟨posting, deeds, before⟩)
    (does : before.Does office.registry.getDefault deed after) :
    Recorded (actions ++ [.act sender deed])
      { office with
        deliveries := office.deliveries.set sender ⟨posting, deeds ++ [deed], after⟩ } where
  registered := by
    rw [records.registered, installed_append]
    exact (Option.or_none).symm
  postings := by
    have posted : (office.deliveries.map Delivering.posting)[sender]? = some posting := by
      rw [List.getElem?_map, underway]
      rfl
    obtain ⟨bound, found⟩ := List.getElem?_eq_some_iff.1 posted
    have same := List.set_getElem_self bound
    rw [found] at same
    rw [List.map_set, same, records.postings, List.filterMap_append]
    exact (List.append_nil _).symm
  known := by
    intro other done member
    rw [List.length_set]
    rcases List.mem_append.1 member with member | member
    · exact records.known other done member
    · cases List.mem_singleton.1 member
      exact (List.getElem?_eq_some_iff.1 underway).1
  deeds := by
    intro other delivering found
    rw [List.filterMap_append]
    by_cases same : sender = other
    · subst same
      have bound := (List.getElem?_eq_some_iff.1 underway).1
      rw [List.getElem?_set_self bound] at found
      cases found
      rw [← records.deeds sender _ underway]
      simp [Action.deedOf?]
    · rw [List.getElem?_set_ne same] at found
      rw [records.deeds other delivering found]
      simp [Action.deedOf?, same]
  courses := by
    intro delivering member
    rcases List.mem_or_eq_of_mem_set member with member | rfl
    · exact records.courses delivering member
    · exact (records.courses _ (List.mem_of_getElem? underway)).step does
  fits := fits_append records.fits (records.registered ▸ fits_does does sender)

end Recorded

theorem Runs.recorded {actions : List (Action ι)} {office : Office ι} (runs : Runs actions office) :
    Recorded actions office := by
  induction runs with
  | start => exact ⟨rfl, rfl, nofun, nofun, nofun, by simp⟩
  | register runs implementation records => exact records.register implementation
  | send runs posting records => exact records.send posting
  | act runs underway does records => exact records.act underway does

/-- The receiver that a delivery falls back on: its own, or else the one that was
registered when it looked. -/
inductive Resolves (actions : List (Action ι)) (sender : Nat) (posting : Posting ι) :
    Option ι → Prop where
  | injected {receiver : ι} (given : posting.fallback = some receiver) :
      Resolves actions sender posting (some receiver)
  | registered {before after : List (Action ι)} (missing : posting.fallback = none)
      (looked : actions = before ++ .act sender (.lookup (installed before)) :: after) :
      Resolves actions sender posting (installed before)

/-- What was done for a delivery that has its answer. -/
structure Settled (actions : List (Action ι)) (sender : Nat) (posting : Posting ι)
    (deeds : List (Deed ι)) (answer : Except Fault Unit) : Prop where
  unencodable : posting.TooDeep → deeds = [] ∧ answer = .error (.unencodable .nestedTooDeep)
  transacts : ¬ posting.TooDeep → ∃ outcome,
    deeds.filterMap Deed.transaction? = [(posting.request, outcome)] ∧
    (posting.policy = .acknowledged →
      deeds.filterMap Deed.fallback? = [] ∧ answer = Proxy.acknowledgement outcome) ∧
    (posting.policy = .oneWay → ¬ Proxy.Lost outcome →
      deeds.filterMap Deed.fallback? = [] ∧ answer = outcome.map fun _ => ()) ∧
    (posting.policy = .oneWay → Proxy.Lost outcome → ∃ resolved,
      Resolves actions sender posting resolved ∧
      match resolved with
      | some receiver => deeds.filterMap Deed.fallback? = [(receiver, posting.result, answer)]
      | none => deeds.filterMap Deed.fallback? = [] ∧ answer = .ok ())

theorem Recorded.resolves {actions : List (Action ι)} {office : Office ι}
    (records : Recorded actions office) {sender : Nat} {posting : Posting ι} {found : Option ι}
    (missing : posting.fallback = none)
    (looked : .lookup found ∈ actions.filterMap (Action.deedOf? sender)) :
    Resolves actions sender posting found := by
  obtain ⟨action, member, same⟩ := List.mem_filterMap.1 looked
  cases action with
  | register implementation response => contradiction
  | send other => contradiction
  | act other deed =>
      rw [Action.deedOf?] at same
      split at same
      · rename_i own
        cases same
        subst own
        obtain ⟨before, after, split⟩ := List.append_of_mem member
        obtain rfl : found = installed before := records.fits before _ after split
        exact .registered missing split
      · contradiction

theorem resolves_of_resolved {actions : List (Action ι)} {sender : Nat} {posting : Posting ι}
    {lookups : List (Deed ι)} {found : Option ι} (resolved : posting.Resolved lookups found)
    (looked : ∀ found, posting.fallback = none → .lookup found ∈ lookups →
      Resolves actions sender posting found) :
    Resolves actions sender posting found := by
  cases resolved with
  | injected given => exact .injected given
  | registered found missing => exact looked found missing List.mem_cons_self

theorem settled_course {actions : List (Action ι)} {sender : Nat} {posting : Posting ι}
    {deeds : List (Deed ι)} {left : Errand ι (Except Fault Unit)} {answer : Except Fault Unit}
    (course : posting.Course deeds left) (finished : left = .done answer)
    (resolves : ∀ found, posting.fallback = none → .lookup found ∈ deeds →
      Resolves actions sender posting found) :
    Settled actions sender posting deeds answer := by
  cases course with
  | refused deep =>
      cases finished
      exact ⟨fun _ => ⟨rfl, rfl⟩, fun encodable => absurd deep encodable⟩
  | begun encodable => contradiction
  | sent encodable outcome =>
      refine ⟨fun deep => absurd deep encodable, fun _ => ⟨outcome, rfl, ?_⟩⟩
      unfold Posting.follow at finished
      split at finished
      · rename_i waits
        cases finished
        simp [waits, Deed.fallback?]
      · rename_i oneWay
        split at finished
        · split at finished <;> contradiction
        · rename_i delivered
          cases finished
          rw [← Proxy.lost_iff] at delivered
          simp [oneWay, delivered, Deed.fallback?]
  | @turned outcome lookups found encodable oneWay lost resolved =>
      have looked := resolves_of_resolved resolved fun found missing member =>
        resolves found missing (List.mem_cons_of_mem _ member)
      obtain ⟨transactions, fallbacks⟩ := resolved.silent
      refine ⟨fun deep => absurd deep encodable, fun _ => ⟨outcome, ?_⟩⟩
      cases found with
      | some receiver => contradiction
      | none =>
          cases finished
          refine ⟨congrArg (List.cons _) transactions, ?_, fun _ delivered => absurd lost delivered, ?_⟩
          · intro waits
            cases oneWay.symm.trans waits
          · exact fun _ _ => ⟨none, looked, fallbacks, rfl⟩
  | @fallen outcome lookups receiver encodable oneWay lost resolved told =>
      have looked := resolves_of_resolved resolved fun found missing member =>
        resolves found missing (List.mem_cons_of_mem _ (List.mem_append_left _ member))
      obtain ⟨transactions, fallbacks⟩ := resolved.silent
      refine ⟨fun deep => absurd deep encodable, fun _ => ⟨outcome, ?_⟩⟩
      cases finished
      refine ⟨congrArg (List.cons _) ?_, ?_, fun _ delivered => absurd lost delivered, ?_⟩
      · rw [List.filterMap_append, transactions]
        rfl
      · intro waits
        cases oneWay.symm.trans waits
      · refine fun _ _ => ⟨some receiver, looked, ?_⟩
        change (lookups ++ _).filterMap Deed.fallback? = _
        rw [List.filterMap_append, fallbacks]
        rfl

/-- The first implementation that is registered stays, and every later attempt is
refused.  A delivery goes on until it has its answer, in at most three steps: a
result without an encoding is kept from everybody, and any other is the matter of
one transaction.  Only a one-way result goes to a fallback, if the transaction did
not get it there, and once.  The steps of a delivery, one behind the other, are what
a proxy of any binder does, whatever callbacks it falls back on. -/
theorem deliveries_fall_back {actions : List (Action ι)} {office : Office ι}
    (runs : Runs actions office) :
    office.registry.getDefault = installed actions ∧
    (∀ before implementation response after,
      actions = before ++ .register implementation response :: after →
      response =
        match installed before, implementation with
        | some _, _ => .error .duplicateRegistration
        | none, none => .ok false
        | none, some _ => .ok true) ∧
    office.deliveries.map Delivering.posting = actions.filterMap Action.posting? ∧
    ∀ sender delivering, office.deliveries[sender]? = some delivering →
      delivering.deeds = actions.filterMap (Action.deedOf? sender) ∧
      delivering.deeds.length ≤ 3 ∧
      (∀ answer, delivering.left = .done answer →
        Settled actions sender delivering.posting delivering.deeds answer) ∧
      ((∀ answer, delivering.left ≠ .done answer) →
        ∃ deed next, Runs (actions ++ [.act sender deed]) next) ∧
      ∀ (m : Type → Type) [Monad m] [LawfulMonad m] (binder : Binder m)
        (registered : m (Option ι)) (known : ι → Callback m),
        delivering.posting.errand.perform (Call.issue binder) registered
            (fun name => (known name).deliver) =
          Proxy.deliver
            ⟨binder, delivering.posting.policy, delivering.posting.fallback.map known,
              Option.map known <$> registered⟩
            delivering.posting.result := by
  have records := runs.recorded
  refine ⟨records.registered, ?_, records.postings, ?_⟩
  · intro before implementation response after split
    exact records.fits before _ after split
  intro sender delivering underway
  have course := records.courses delivering (List.mem_of_getElem? underway)
  have deeds := records.deeds sender delivering underway
  refine ⟨deeds, course.length_le, ?_, ?_, ?_⟩
  · intro answer finished
    apply settled_course course finished
    intro found missing looked
    rw [deeds] at looked
    exact records.resolves missing looked
  · intro unfinished
    obtain ⟨deed, next, does⟩ := Errand.does_of_ne_done unfinished office.registry.getDefault
    exact ⟨deed, _, runs.act underway does⟩
  · exact fun m _ _ => delivering.posting.perform_errand

def hopeful : Posting Nat :=
  ⟨none, .oneWay, none⟩

/-- The default is registered while the delivery is on its way, in the second of three
attempts. -/
def contested : List (Action Nat) :=
  [.register none (.ok false), .send hopeful, .act 0 (.transaction hopeful.request (.ok .unhandled)),
    .register (some 7) (.ok true), .act 0 (.lookup (some 7)),
    .register none (.error .duplicateRegistration),
    .act 0 (.fallback 7 none (.error (.other "late")))]

theorem deliveries_fall_back_contested :
    Runs contested ⟨⟨some 7⟩,
      [⟨hopeful, [.transaction hopeful.request (.ok .unhandled), .lookup (some 7),
        .fallback 7 none (.error (.other "late"))], .done (.error (.other "late"))⟩]⟩ ∧
    installed contested = some 7 ∧
    Settled contested 0 hopeful
      [.transaction hopeful.request (.ok .unhandled), .lookup (some 7),
        .fallback 7 none (.error (.other "late"))] (.error (.other "late")) := by
  have begun := (Runs.start.register none).send hopeful
  rw [Posting.errand_encodable fun ⟨_, carried, _⟩ => nomatch carried] at begun
  have lost := @Runs.act _ _ _ 0 _ _ _ _ _ begun rfl (.transact _ _ (.ok .unhandled))
  have looked := @Runs.act _ _ _ 0 _ _ _ _ _ (lost.register (some 7)) rfl (.consult _)
  have runs := @Runs.act _ _ _ 0 _ _ _ _ _ (looked.register none) rfl
    (.fallBack 7 none _ (.error (.other "late")))
  obtain ⟨registered, _, _, deliveries⟩ := deliveries_fall_back runs
  exact ⟨runs, registered.symm, (deliveries 0 _ rfl).2.2.1 _ rfl⟩

end Office

end Courier
