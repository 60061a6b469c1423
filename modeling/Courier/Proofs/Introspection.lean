import Courier.Proofs.Bundle.Reading
import Courier.Proofs.Handling
import Courier.Proofs.Refinement

namespace Courier

/-! Asking a target for the name of its interface when its handler fails.

The failure travels as an exception, which is a code and a text, and the caller reads
the reply as a name.  No length is below -1, so an exception with such a code is
refused.  The code -1 stands for an absent name.  Any other code is a length, and the
exception passes for a name if a NUL stands that far behind the code. -/

namespace Wire

/-- The word at the front of bytes and what stands behind it are told from the bytes. -/
theorem int32_front {left right : Int32} {leftRest rightRest : List UInt8}
    (same : int32 left ++ leftRest = int32 right ++ rightRest) :
    left = right ∧ leftRest = rightRest := by
  have front (word : Int32) (rest : List UInt8) :
      (⟨0, int32 word ++ rest⟩ : Cursor).Consumes (int32 word) ⟨(int32 word).length, rest⟩ :=
    ⟨rfl, (Nat.zero_add _).symm⟩
  have first := Decoder.takes_int32 left (front left leftRest)
  have second := Decoder.takes_int32 right (front right rightRest)
  rw [same] at first
  obtain ⟨sameWord, sameCursor⟩ := EStateM.Result.ok.inj (first.symm.trans second)
  exact ⟨sameWord, congrArg Cursor.unread sameCursor⟩

end Wire

namespace Fault

/-- What a caller who expects a name reads off the exception of a fault. -/
def readAsName (fault : Fault) : Except Fault (Option String) :=
  ((Parcel.ofBytes (Wire.exception fault)).read Decoder.string?).1

/-- The exception of the fault passes for a name. -/
inductive TakenForName (fault : Fault) : Option String → Prop where
  | absent (coded : fault.exceptionCode = Wire.absent) : fault.TakenForName none
  /-- The text of the fault, with its own length in front, begins like a name whose
  length is the code. -/
  | present {text : String} {filler rest : List UInt8}
      (counted : fault.exceptionCode.toInt = (Utf8.bytes text).length)
      (short : filler.length < 4)
      (aligned : ((Utf8.bytes text).length + 1 + filler.length) % 4 = 0)
      (spelled : Wire.string fault.message = Utf8.bytes text ++ 0 :: (filler ++ rest)) :
      fault.TakenForName (some text)

variable {fault : Fault} {name : Option String}

theorem takenForName_iff : fault.TakenForName name ↔
    ∃ form rest, Wire.exception fault = form ++ rest ∧ Decoder.StringForm form name := by
  constructor
  · intro taken
    cases taken with
    | absent coded => exact ⟨_, Wire.string fault.message, by rw [Wire.exception, coded], .absent⟩
    | @present _ _ rest counted short aligned spelled =>
        refine ⟨_, rest, ?_, .present counted short aligned⟩
        rw [Wire.exception, spelled]
        simp
  · rintro ⟨form, rest, whole, spelled⟩
    cases spelled with
    | absent => exact .absent (Wire.int32_front whole).1
    | present counted short aligned =>
        rw [Wire.exception, List.append_assoc] at whole
        obtain ⟨rfl, body⟩ := Wire.int32_front whole
        exact .present counted short aligned (body.trans (List.append_assoc _ _ rest))

theorem readAsName_eq_ok : fault.readAsName = .ok name ↔ fault.TakenForName name := by
  have forms := @Parcel.read_eq_ok_iff_form _ _ _ Decoder.sound_string?
    (fun _ _ => Decoder.takes_string?) (.ofBytes (Wire.exception fault))
  rw [takenForName_iff]
  constructor
  · intro told
    obtain ⟨form, rest, unread, spelled, _⟩ := forms.1 (Prod.ext told rfl)
    exact ⟨form, rest, unread, spelled⟩
  · rintro ⟨form, rest, unread, spelled⟩
    exact congrArg Prod.fst (forms.2 ⟨form, rest, unread, spelled, rfl⟩)

/-- Only the exceptions of two kinds of faults pass for names. -/
theorem TakenForName.kind (taken : fault.TakenForName name) :
    (∃ expected actual, fault = .interfaceMismatch expected actual) ∨
      ∃ code message, fault = .remote code message ∧ Wire.absent ≤ code := by
  have coded : Wire.absent ≤ fault.exceptionCode := by
    cases taken with
    | absent coded => exact Int32.le_of_eq coded.symm
    | present counted _ _ _ =>
        have negative : Wire.absent.toInt = -1 := rfl
        rw [Int32.le_iff_toInt_le, counted, negative]
        omega
  cases fault with
  | interfaceMismatch expected actual => exact .inl ⟨expected, actual, rfl⟩
  | remote code message => exact .inr ⟨code, message, rfl, coded⟩
  | _ =>
      simp only [exceptionCode] at coded
      exact absurd coded (by decide)

end Fault

/-- Asked for the name, the handler fails, whatever it wrote to the reply before. -/
def Handler.FailsIntrospection {σ : Type} (handler : Handler (StateM σ)) (before : σ) (fault : Fault)
    (after : σ) : Prop :=
  ∃ exchange, ((handler.handle Transaction.interface .none).perform ⟨.empty, .empty⟩).run before =
    ((.error fault, exchange), after)

namespace Binder

variable {m : Type → Type} [Monad m] [LawfulMonad m]

/-- The transaction that asks for the name. -/
def introspection : Call :=
  ⟨Transaction.interface, .empty, .none⟩

/-- What the outcome of that transaction comes to. -/
def named : Except Fault Status → Except Fault (Option String)
  | .ok (.handled reply) => (reply.read Decoder.string?).1
  | .ok .unhandled => .ok none
  | .error fault => .error fault

theorem interfaceDescriptor_eq (binder : Binder m) :
    binder.interfaceDescriptor = named <$> introspection.issue binder := by
  rw [interfaceDescriptor, map_eq_pure_bind]
  refine bind_congr fun outcome => ?_
  cases outcome with
  | error fault => rfl
  | ok status => cases status <;> rfl

variable {σ : Type} {handler : Handler (StateM σ)} {binder : Binder (StateM σ)} {fault : Fault}
  {before after : σ}

/-- A handler that fails is answered for with the exception of its fault. -/
theorem issue_failed (held : binder.transact = (ofHandler handler).transact)
    (failed : handler.FailsIntrospection before fault after) :
    (introspection.issue binder).run before =
      (.ok (.handled (.ofBytes (Wire.exception fault))), after) := by
  obtain ⟨exchange, failed⟩ := failed
  have handled : (handler.execute Transaction.interface .empty .none).run before =
      (Handler.conclude .none (.error fault) exchange.reply, after) := by
    rw [Handler.execute_eq, StateT.run_map, StateT.run_map]
    exact congrArg (fun handled => (Handler.conclude .none handled.1.1 handled.1.2.reply, handled.2))
      failed
  rw [Call.issue, held]
  exact congrArg (fun handled => (Except.ok handled.1, handled.2)) handled

/-- The caller behind a connection on which nothing is under way reads the same reply as
one in the same process. -/
theorem interfaceDescriptor_failed_remotely
    (held : binder.transact = (ofHandler handler).transact)
    (failed : handler.FailsIntrospection before fault after)
    {number : Nat} {host : Host} (opened : host.pending? number = some [])
    (fits : (Wire.exception fault).length < Limits.message) (address : String) :
    (((Remote.binder (Loopback.peer binder number)).interfaceDescriptor.run
      (Loopback.idle address host)).run).run before =
        (some (fault.readAsName, Loopback.idle address (host.keep number [])), after) := by
  have asked : introspection.request.encode.length ≤ Limits.message := by decide
  have settled := @Loopback.settled_of_fits number address host introspection
    (.handled (.ofBytes (Wire.exception fault))) fits
  have seen : (introspection.seen.issue binder).run before = _ := issue_failed held failed
  rw [interfaceDescriptor_eq, StateT.run_map, OptionT.run_map, Loopback.issue_idle opened asked,
    StateT.run_map, StateT.run_map, seen]
  exact congrArg (fun outcome => (some (named outcome.1, outcome.2), after)) settled

/-- If the handler of a target fails when the caller asks for the name, the caller in
the same process and the one behind a connection learn the same.  They are told a name,
or that there is none, exactly if the exception of the fault passes for that; otherwise
they are told that something went wrong.  Only an interface mismatch and a remote fault
that was made with a code of -1 or more can pass. -/
theorem introspection_fails (failed : handler.FailsIntrospection before fault after) :
    ∃ told : Except Fault (Option String),
      (∀ name, told = .ok name ↔ fault.TakenForName name) ∧
      (∀ name, fault.TakenForName name →
        (∃ expected actual, fault = .interfaceMismatch expected actual) ∨
          ∃ code message, fault = .remote code message ∧ -1 ≤ code) ∧
      ∀ binder : Binder (StateM σ), binder.transact = (ofHandler handler).transact →
        binder.interfaceDescriptor.run before = (told, after) ∧
        ∀ (number : Nat) (address : String) (host : Host), host.pending? number = some [] →
          (Wire.exception fault).length < Limits.message →
          (((Remote.binder (Loopback.peer binder number)).interfaceDescriptor.run
            (Loopback.idle address host)).run).run before =
              (some (told, Loopback.idle address (host.keep number [])), after) := by
  refine ⟨fault.readAsName, fun _ => Fault.readAsName_eq_ok, fun _ => Fault.TakenForName.kind,
    fun binder held => ⟨?_, fun number address host opened fits => ?_⟩⟩
  · rw [interfaceDescriptor_eq, StateT.run_map, issue_failed held failed]
    rfl
  · exact interfaceDescriptor_failed_remotely held failed opened fits address

/-- Counts its transactions, writes to the reply and fails. -/
def refusing (fault : Fault) : Handler (StateM Nat) where
  handle := fun _ _ => do
    Handling.attempt (do modify (· + 1); return .ok ())
    Handling.reply [1, 0, 0, 0]
    throw fault

/-- A host with one connection, on which nothing is under way. -/
def engaged : Host :=
  ⟨⟨16, 1⟩, [(4, [])], .running⟩

/-- Asks that host for the name. -/
def askEngaged (binder : Binder (StateM Nat)) :
    OptionT (StateM Nat) (Except Fault (Option String) × Remote Host) :=
  (Remote.binder (Loopback.peer binder 4)).interfaceDescriptor.run
    (Loopback.idle "127.0.0.1:1" engaged)

theorem introspection_fails_late :
    (refusing (.other "late")).FailsIntrospection 6 (.other "late") 7 ∧
      engaged.pending? 4 = some [] ∧ (Wire.exception (.other "late")).length < Limits.message ∧
      ∃ told : Except Fault (Option String), (∀ name, told ≠ .ok name) ∧
        (ofHandler (refusing (.other "late"))).interfaceDescriptor.run 6 = (told, 7) ∧
        (askEngaged (ofHandler (refusing (.other "late")))).run.run 6 =
          (some (told, Loopback.idle "127.0.0.1:1" engaged), 7) := by
  have failed : (refusing (.other "late")).FailsIntrospection 6 (.other "late") 7 :=
    ⟨⟨.empty, .ofBytes [1, 0, 0, 0]⟩, rfl⟩
  have opened : engaged.pending? 4 = some [] := rfl
  have fits : (Wire.exception (.other "late")).length < Limits.message := by decide
  obtain ⟨told, passes, kinds, learned⟩ := introspection_fails failed
  obtain ⟨here, behind⟩ := learned (ofHandler (refusing (.other "late"))) rfl
  refine ⟨failed, opened, fits, told, fun name same => ?_, here, behind 4 _ engaged opened fits⟩
  obtain ⟨_, _, other⟩ | ⟨_, _, other, _⟩ := kinds name ((passes name).1 same) <;> cases other

/-- An interface mismatch is taken for the absence of a name, and a remote fault that
was made with the code 1 for a name of one letter. -/
theorem failures_taken_for_names :
    (ofHandler (refusing (.interfaceMismatch "a" "b"))).interfaceDescriptor.run 0 = (.ok none, 1) ∧
      (askEngaged (ofHandler (refusing (.interfaceMismatch "a" "b")))).run.run 0 =
        (some (.ok none, Loopback.idle "127.0.0.1:1" engaged), 1) ∧
      (ofHandler (refusing (.remote 1 "late"))).interfaceDescriptor.run 0 =
        (.ok (some "\u001a"), 1) := by
  refine ⟨rfl, ?_, rfl⟩
  have fits : (Wire.exception (.interfaceMismatch "a" "b")).length < Limits.message := by
    decide +kernel
  exact interfaceDescriptor_failed_remotely rfl ⟨_, rfl⟩ rfl fits "127.0.0.1:1"

end Binder

end Courier
