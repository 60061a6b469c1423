import Courier.Callback.Registry
import Courier.Proofs.Callback.Errand
import Mathlib.Data.Fintype.EquivFin
import Mathlib.Logic.Relation

namespace Courier

/-! Proxies that fall back on proxies.

A fallback, given to a proxy or registered as the default, may be a proxy again, and
what is registered is looked up at call time.  So a delivery goes from name to name,
and nothing in the proxies keeps it from coming back to where it was: a proxy can be
registered in the registry that it consults.  The deliveries that come to an end are
those that meet no such circle. -/

/-- What a name stands for: a callback that is no proxy, or a one-way proxy on a binder
that does not get a result through. -/
inductive Party (m : Type → Type) (ι ρ : Type) where
  | receiver (callback : Callback m)
  | proxy (outcome : Except Fault Status) (lost : Proxy.Lost outcome) (fallback : Option ι)
      (registry : ρ)

/-- Callbacks and proxies by their names, and the registries that the proxies consult. -/
structure Arrangement (m : Type → Type) (ι ρ : Type) where
  party : ι → Party m ι ρ
  registry : ρ → Registry ι

/-- Calls that note the name of every callback that is called.  There is no answer if
the calls nest too deep; what was noted until then stays. -/
abbrev Watched (ι : Type) (m : Type → Type) := OptionT (StateT (List ι) m)

namespace Arrangement

variable {m : Type → Type} {ι ρ : Type} {arrangement : Arrangement m ι ρ}
  {name other last : ι} {names : List ι}

/-- Whom a result goes to next. -/
def next? (arrangement : Arrangement m ι ρ) (name : ι) : Option ι :=
  match arrangement.party name with
  | .receiver _ => none
  | .proxy _ _ fallback registry => fallback.or (arrangement.registry registry).getDefault

def PassesTo (arrangement : Arrangement m ι ρ) (name other : ι) : Prop :=
  arrangement.next? name = some other

/-- The way of a result from name to name leads into a circle. -/
def Circles (arrangement : Arrangement m ι ρ) (name : ι) : Prop :=
  ∃ other, Relation.ReflTransGen arrangement.PassesTo name other ∧
    Relation.TransGen arrangement.PassesTo other other

/-- The way of a result, with the last name on it. -/
inductive Route (arrangement : Arrangement m ι ρ) : ι → List ι → ι → Prop where
  | stop {name : ι} (ends : arrangement.next? name = none) : arrangement.Route name [name] name
  | pass {name other last : ι} {names : List ι} (passes : arrangement.PassesTo name other)
      (tail : arrangement.Route other names last) : arrangement.Route name (name :: names) last

/-! Routes and circles. -/

theorem Route.reaches (route : arrangement.Route name names last) :
    ∀ other ∈ names, Relation.ReflTransGen arrangement.PassesTo name other := by
  induction route with
  | stop ends =>
      intro other member
      rw [List.mem_singleton.1 member]
  | pass passes tail inductionHypothesis =>
      intro other member
      rcases List.mem_cons.1 member with rfl | later
      · exact .refl
      · exact .head passes (inductionHypothesis other later)

/-- A circle is still ahead behind the first step. -/
theorem Circles.passed (circles : arrangement.Circles name) :
    ∃ other, arrangement.PassesTo name other ∧ arrangement.Circles other := by
  obtain ⟨start, reached, around⟩ := circles
  rcases reached.cases_head with rfl | ⟨other, passes, later⟩
  · obtain ⟨other, passes, back⟩ := Relation.TransGen.head'_iff.1 around
    exact ⟨other, passes, other, .refl, .tail' back passes⟩
  · exact ⟨other, passes, start, later, around⟩

theorem Route.not_circles (route : arrangement.Route name names last) :
    ¬ arrangement.Circles name := by
  induction route with
  | stop ends =>
      intro circles
      obtain ⟨other, passes, _⟩ := circles.passed
      cases ends.symm.trans passes
  | pass passes tail inductionHypothesis =>
      intro circles
      obtain ⟨other, alsoPasses, ahead⟩ := circles.passed
      cases passes.symm.trans alsoPasses
      exact inductionHypothesis ahead

/-- No name comes twice. -/
theorem Route.nodup (route : arrangement.Route name names last) : names.Nodup := by
  induction route with
  | stop ends => exact List.nodup_singleton _
  | @pass name other last names passes tail inductionHypothesis =>
      refine List.nodup_cons.2 ⟨fun again => ?_, inductionHypothesis⟩
      have back := tail.reaches name again
      exact (Route.pass passes tail).not_circles ⟨name, .refl, .head' passes back⟩

/-- The way leads from one name to another and does not come back. -/
def Behind (arrangement : Arrangement m ι ρ) (later earlier : ι) : Prop :=
  Relation.TransGen arrangement.PassesTo earlier later ∧ ¬ arrangement.Circles earlier

theorem wellFounded_behind [Finite ι] (arrangement : Arrangement m ι ρ) :
    WellFounded arrangement.Behind := by
  have transitive : IsTrans ι arrangement.Behind :=
    ⟨fun _ _ _ first second => ⟨second.1.trans first.1, second.2⟩⟩
  have irreflexive : Std.Irrefl arrangement.Behind :=
    ⟨fun name around => around.2 ⟨name, .refl, around.1⟩⟩
  exact Finite.wellFounded_of_trans_of_irrefl _

/-- Among finitely many names every way ends that meets no circle. -/
theorem route_of_not_circles [Finite ι] (straight : ¬ arrangement.Circles name) :
    ∃ names last, arrangement.Route name names last := by
  induction name using arrangement.wellFounded_behind.induction with
  | _ name inductionHypothesis =>
      cases passes : arrangement.next? name with
      | none => exact ⟨_, _, .stop passes⟩
      | some other =>
          have ahead : ¬ arrangement.Circles other := fun ⟨start, reached, around⟩ =>
            straight ⟨start, .head passes reached, around⟩
          obtain ⟨names, last, tail⟩ := inductionHypothesis other ⟨.single passes, straight⟩ ahead
          exact ⟨_, _, .pass passes tail⟩

/-- Nobody registered a proxy, and every proxy was given its fallback when it was built. -/
structure Grounded (arrangement : Arrangement m ι ρ) (built : ι → Nat) : Prop where
  given : ∀ name outcome lost fallback registry,
    arrangement.party name = .proxy outcome lost (some fallback) registry →
      built fallback < built name
  receivers : ∀ registry default, (arrangement.registry registry).getDefault = some default →
    arrangement.next? default = none

theorem Grounded.not_circles {built : ι → Nat} (grounded : arrangement.Grounded built) (name : ι) :
    ¬ arrangement.Circles name := by
  -- By the age of the name: a fallback that was given is older, one that is registered is the end.
  induction size : built name using Nat.strong_induction_on generalizing name with
  | _ size inductionHypothesis =>
      intro circles
      obtain ⟨other, passes, ahead⟩ := circles.passed
      cases stands : arrangement.party name with
      | receiver callback => simp [PassesTo, next?, stands] at passes
      | proxy outcome lost fallback registry =>
          simp only [PassesTo, next?, stands] at passes
          cases fallback with
          | some fallback =>
              cases passes
              exact inductionHypothesis _ (size ▸ grounded.given _ _ _ _ _ stands) _ rfl ahead
          | none =>
              obtain ⟨further, onward, _⟩ := ahead.passed
              cases (grounded.receivers registry other passes).symm.trans onward

end Arrangement

/-! Deliveries. -/

variable {m : Type → Type} [Monad m] {ι ρ : Type}

namespace Party

/-- The party as a callback, with the callbacks of all names. -/
def toCallback (registry : ρ → Registry ι) (callback : ι → Callback (Watched ι m)) :
    Party m ι ρ → Callback (Watched ι m)
  | .receiver given => ⟨fun result => OptionT.lift (StateT.lift (given.deliver result))⟩
  | .proxy outcome _ fallback consulted =>
      Proxy.toCallback {
        remote := ⟨fun _ _ _ => pure outcome, none⟩
        fallback := fallback.map callback
        registered := pure ((registry consulted).getDefault.map callback) }

variable [LawfulMonad m] {result : Option Bundle}

/-- Nothing gets through, so the proxy does what its fallback does. -/
theorem deliver_proxy (drafted : (Proxy.request result).fault = none) (registry : ρ → Registry ι)
    (callback : ι → Callback (Watched ι m)) {outcome : Except Fault Status}
    (lost : Proxy.Lost outcome) (fallback : Option ι) (consulted : ρ) :
    ((Party.proxy outcome lost fallback consulted).toCallback registry callback).deliver result =
      match fallback.or (registry consulted).getDefault with
      | some other => (callback other).deliver result
      | none => pure (.ok ()) := by
  have undelivered := Proxy.lost_iff.1 lost
  simp only [toCallback, Proxy.toCallback, Proxy.deliver_eq, drafted, pure_bind, if_pos undelivered,
    Proxy.resolveFallback]
  cases fallback with
  | some other => exact pure_bind _ _
  | none =>
      simp only [Option.map_none, Option.none_or, pure_bind]
      cases (registry consulted).getDefault <;> rfl

end Party

namespace Arrangement

/-- The callback of a name, with room for so many calls within one another. -/
def callback (arrangement : Arrangement m ι ρ) : (room : Nat) → ι → Callback (Watched ι m)
  | 0, _ => ⟨fun _ => failure⟩
  | room + 1, name =>
      ⟨fun result => do
        OptionT.lift (modify fun noted => noted ++ [name])
        ((arrangement.party name).toCallback arrangement.registry
          (arrangement.callback room)).deliver result⟩

/-- What is answered where the way of a result ends. -/
def answer (arrangement : Arrangement m ι ρ) (last : ι) (result : Option Bundle) :
    m (Except Fault Unit) :=
  match arrangement.party last with
  | .receiver receiver => receiver.deliver result
  | .proxy _ _ _ _ => pure (.ok ())

variable [LawfulMonad m] {arrangement : Arrangement m ι ρ} {name other last : ι} {names : List ι}
  {result : Option Bundle}

/-- Delivers a result to a name, with the names that were noted before. -/
def deliver (arrangement : Arrangement m ι ρ) (room : Nat) (name : ι) (result : Option Bundle)
    (noted : List ι) : m (Option (Except Fault Unit) × List ι) :=
  ((arrangement.callback room name).deliver result).run.run noted

omit [LawfulMonad m] in
theorem deliver_zero (name : ι) (result : Option Bundle) (noted : List ι) :
    arrangement.deliver 0 name result noted = pure (none, noted) := rfl

/-- One call notes its name and goes on to the next one, or ends. -/
theorem deliver_succ (drafted : (Proxy.request result).fault = none) (room : Nat) (name : ι)
    (noted : List ι) :
    arrangement.deliver (room + 1) name result noted =
      match arrangement.next? name with
      | some other => arrangement.deliver room other result (noted ++ [name])
      | none => (fun answer => (some answer, noted ++ [name])) <$> arrangement.answer name result := by
  have noting : arrangement.deliver (room + 1) name result noted =
      (((arrangement.party name).toCallback arrangement.registry
        (arrangement.callback room)).deliver result).run.run (noted ++ [name]) := by
    simp [deliver, callback]
  rw [noting]
  cases stands : arrangement.party name with
  | receiver given =>
      simp [Party.toCallback, next?, answer, stands]
  | proxy outcome lost fallback consulted =>
      rw [Party.deliver_proxy drafted]
      have onward : arrangement.next? name =
          fallback.or (arrangement.registry consulted).getDefault := by simp only [next?, stands]
      rw [onward]
      cases fallback.or (arrangement.registry consulted).getDefault with
      | some other => rfl
      | none => simp [answer, stands]

theorem deliver_route (drafted : (Proxy.request result).fault = none)
    (route : arrangement.Route name names last) {room : Nat} (enough : names.length ≤ room)
    (noted : List ι) :
    arrangement.deliver room name result noted =
      (fun answer => (some answer, noted ++ names)) <$> arrangement.answer last result := by
  induction route generalizing room noted with
  | stop ends =>
      obtain ⟨room, rfl⟩ := Nat.exists_eq_succ_of_ne_zero (Nat.ne_of_gt enough)
      rw [deliver_succ drafted, ends]
  | @pass name other last names passes tail inductionHypothesis =>
      obtain ⟨room, rfl⟩ := Nat.exists_eq_succ_of_ne_zero (Nat.ne_zero_of_lt enough)
      rw [deliver_succ drafted, passes]
      dsimp only
      rw [inductionHypothesis (Nat.le_of_succ_le_succ enough)]
      simp only [List.append_assoc, List.singleton_append]

/-- In a circle there are as many calls as there is room for, and no answer. -/
theorem deliver_circling (drafted : (Proxy.request result).fault = none)
    (circles : arrangement.Circles name) (room : Nat) (noted : List ι) :
    ∃ names, names.length = room ∧
      arrangement.deliver room name result noted = pure (none, noted ++ names) := by
  induction room generalizing name noted with
  | zero => exact ⟨[], rfl, by rw [List.append_nil, deliver_zero]⟩
  | succ room inductionHypothesis =>
      obtain ⟨other, passes, ahead⟩ := circles.passed
      obtain ⟨names, counted, delivered⟩ := inductionHypothesis ahead (noted ++ [name])
      refine ⟨name :: names, by rw [List.length_cons, counted], ?_⟩
      rw [deliver_succ drafted, passes]
      dsimp only
      rw [delivered, List.append_assoc, List.singleton_append]

/-- A result without an encoding goes no further than the first proxy. -/
theorem deliver_refused {fault : Fault} (refused : (Proxy.request result).fault = some fault)
    {outcome : Except Fault Status} {lost : Proxy.Lost outcome} {fallback : Option ι} {registry : ρ}
    (stands : arrangement.party name = .proxy outcome lost fallback registry) (room : Nat)
    (noted : List ι) :
    arrangement.deliver (room + 1) name result noted = pure (some (.error fault), noted ++ [name]) := by
  simp [deliver, callback, stands, Party.toCallback, Proxy.toCallback, Proxy.deliver_eq, refused]

/-- Among finitely many names a result has a way to its end exactly if it meets no
circle.  Then every callback on the way is called once, and the answer is that of the
last one, whatever room there is beyond that.  In a circle the calls fill all the room,
so that some callback is called again, and there is no answer.  There are no circles as
long as nobody registers a proxy.  A result without an encoding is refused by the first
proxy. -/
theorem falls_back [Fintype ι] (arrangement : Arrangement m ι ρ) (name : ι) (result : Option Bundle) :
    ((∃ names last, arrangement.Route name names last) ↔ ¬ arrangement.Circles name) ∧
    (∀ built, arrangement.Grounded built → ¬ arrangement.Circles name) ∧
    ((Proxy.request result).fault = none →
      (∀ names last, arrangement.Route name names last → names.Nodup ∧
        ∀ room noted, names.length ≤ room → arrangement.deliver room name result noted =
          (fun answer => (some answer, noted ++ names)) <$> arrangement.answer last result) ∧
      (arrangement.Circles name → ∀ room noted, ∃ names, names.length = room ∧
        (Fintype.card ι < room → ¬ names.Nodup) ∧
        arrangement.deliver room name result noted = pure (none, noted ++ names))) ∧
    ∀ fault outcome lost fallback registry, (Proxy.request result).fault = some fault →
      arrangement.party name = .proxy outcome lost fallback registry → ∀ room noted,
        arrangement.deliver (room + 1) name result noted =
          pure (some (.error fault), noted ++ [name]) := by
  refine ⟨⟨fun ⟨_, _, route⟩ => route.not_circles, route_of_not_circles⟩,
    fun _ grounded => grounded.not_circles name, fun drafted => ⟨?_, ?_⟩,
    fun _ _ _ _ _ refused stands => deliver_refused refused stands⟩
  · intro names last route
    exact ⟨route.nodup, fun room noted enough => deliver_route drafted route enough noted⟩
  · intro circles room noted
    obtain ⟨names, counted, delivered⟩ := deliver_circling drafted circles room noted
    refine ⟨names, counted, fun crowded nodup => ?_, delivered⟩
    have bounded := nodup.length_le_card
    omega

/-- A proxy that consults a registry, the proxy registered there, and the callback that
this one was given. -/
def handedOn : Arrangement (StateM Nat) (Fin 3) Unit where
  party
    | 0 => .proxy (.error (.deadObject "127.0.0.1:9")) (.deadObject _) none ()
    | 1 => .proxy (.ok .unhandled) .unhandled (some 2) ()
    | 2 => .receiver ⟨fun _ => do modify (· + 1); return .error (.other "late")⟩
  registry := fun _ => (Registry.empty.setDefault (some 1)).2

theorem falls_back_handedOn :
    (Proxy.request none).fault = none ∧ handedOn.Route 0 [0, 1, 2] 2 ∧ ¬ handedOn.Circles 0 ∧
      [0, 1, 2].Nodup ∧
      (handedOn.deliver 3 0 none []).run 6 =
        ((some (.error (.other "late")), [0, 1, 2]), 7) := by
  have drafted : (Proxy.request none).fault = none := rfl
  have route : handedOn.Route 0 [0, 1, 2] 2 := .pass rfl (.pass rfl (.stop rfl))
  obtain ⟨ends, _, delivers, _⟩ := falls_back handedOn 0 none
  obtain ⟨nodup, delivered⟩ := (delivers drafted).1 _ _ route
  exact ⟨drafted, route, ends.1 ⟨_, _, route⟩, by decide, congrFun (delivered 3 [] (by decide)) 6⟩

/-- A proxy that is registered in the registry it consults. -/
def selfRegistered : Arrangement Id Unit Unit where
  party := fun _ => .proxy (.error (.deadObject "127.0.0.1:9")) (.deadObject _) none ()
  registry := fun _ => (Registry.empty.setDefault (some ())).2

/-- However much room there is, such a proxy calls itself until it is used up, and never
answers. -/
theorem selfRegistered_endless :
    (¬ ∃ room answer names, selfRegistered.deliver room () none [] = (some answer, names)) ∧
      ∀ room, (selfRegistered.deliver room () none []).2 = List.replicate room () := by
  have circles : selfRegistered.Circles () := ⟨(), .refl, .single rfl⟩
  have drafted : (Proxy.request none).fault = none := rfl
  constructor
  · rintro ⟨room, answer, names, answered⟩
    obtain ⟨_, _, delivered⟩ := deliver_circling drafted circles room []
    cases answered.symm.trans delivered
  · intro room
    obtain ⟨names, rfl, delivered⟩ := deliver_circling drafted circles room []
    rw [delivered]
    exact List.eq_replicate_of_mem fun _ _ => rfl

end Arrangement

end Courier
