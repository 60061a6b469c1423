import Courier.Proofs.Callback.Delivery

namespace Courier

/-! What the caller learns of a callback that fails.

A fault travels as its exception code and its text.  The code zero stands for no
exception, and one fault has it: a remote one that was made with that code. -/

namespace Fault

theorem exceptionCode_eq_zero {fault : Fault} :
    fault.exceptionCode = 0 ↔ ∃ message, fault = .remote 0 message := by
  cases fault
  case remote code message => simp [exceptionCode]
  all_goals
    simp only [exceptionCode, reduceCtorEq, exists_false, iff_false]
    decide

/-- The fault shows in what a caller is told: that is a failure, and as long as the
text has a length it is the remote fault with the code and the text. -/
structure Shows (fault : Fault) (told : Except Fault Unit) : Prop where
  failed : told ≠ .ok ()
  exact : (Utf8.bytes fault.message).length < 2 ^ 31 →
    told = .error (.remote fault.exceptionCode fault.message)

theorem shows_of_unread {fault : Fault} (listed : fault.exceptionCode ≠ 0) {parcel : Parcel}
    (rest : List UInt8) (unread : parcel.bytes.drop parcel.position = Wire.exception fault ++ rest) :
    fault.Shows (parcel.read Decoder.exception).1 := by
  constructor
  · intro told
    obtain ⟨cursor, decoded, _⟩ := Parcel.read_eq_ok.1 (Prod.ext told rfl)
    exact Decoder.exception_ne_ok listed unread decoded
  · intro bounded
    rw [Parcel.read_raised (Decoder.raises_exception listed bounded) unread]

end Fault

namespace Proxy

/-- No failure is taken for success, except that of a remote fault with the code
zero.  The header of any other fault raises it wherever it is read.  Whatever
result is sent, if the callback fails on what its stub reads, a proxy that waits
for the acknowledgement fails, with the code and the text of that fault. -/
theorem failure_shows {fault : Fault} (coded : ∀ message, fault ≠ .remote 0 message) :
    (∀ parcel : Parcel, fault.Shows
      (((parcel.append (Wire.exception fault)).seek parcel.size).read Decoder.exception).1) ∧
    ∀ {σ : Type} (callback : Callback (StateM σ)) (proxy : Proxy (StateM σ))
      (result argument : Option Bundle) (before after : σ),
      proxy.remote = callback.toBinder → proxy.policy = .acknowledged →
      (request result).fault = none → Callback.received (request result).bytes = .ok argument →
      (callback.deliver argument).run before = (.error fault, after) →
      ∃ told, (proxy.deliver result).run before = (told, after) ∧ fault.Shows told := by
  have listed : fault.exceptionCode ≠ 0 := fun unlisted =>
    have ⟨message, same⟩ := Fault.exceptionCode_eq_zero.1 unlisted
    coded message same
  constructor
  · intro parcel
    have placed : (parcel.append (Wire.exception fault)).seek parcel.size =
        ⟨parcel.bytes ++ Wire.exception fault, parcel.size⟩ := by
      simp [Parcel.append, Parcel.seek, Parcel.size]
    rw [placed]
    refine Fault.shows_of_unread listed [] ?_
    rw [List.append_nil]
    exact List.drop_left
  · intro σ callback proxy result argument before after held waits drafted received failed
    refine ⟨learned .acknowledged (.error fault), ?_, ?_⟩
    · rw [deliver_drafted callback held drafted, waits, StateT.run_map, Callback.deliverFrom, received, failed]
      rfl
    · exact Fault.shows_of_unread listed [] (List.append_nil _).symm

/-- A callback that counts its calls and fails, behind a proxy that waits. -/
def waiting (fault : Fault) : Proxy (StateM Nat) where
  remote := Callback.toBinder ⟨fun _ => do modify (· + 1); return .error fault⟩
  policy := .acknowledged
  registered := pure none

theorem failure_shows_late :
    (∀ message, Fault.other "late" ≠ .remote 0 message) ∧
    Fault.Shows (.other "late")
      ((((Parcel.ofBytes [7]).append (Wire.exception (.other "late"))).seek 1).read
        Decoder.exception).1 ∧
    ∃ told, ((waiting (.other "late")).deliver (some .empty)).run 4 = (told, 5) ∧
      Fault.Shows (.other "late") told := by
  have shown := @failure_shows (.other "late") nofun
  have encodable : Encodable (some .empty) := by
    rintro bundle ⟨⟩
    exact ⟨by decide, by decide⟩
  exact ⟨nofun, shown.1 (.ofBytes [7]),
    shown.2 _ (waiting (.other "late")) _ _ 4 5 rfl rfl (fault_request encodable)
      (Callback.received_request encodable) rfl⟩

/-- A callback that fails with a remote fault of code zero is taken for one that
succeeds. -/
theorem remote_zero_taken_for_success :
    ((Parcel.ofBytes (Wire.exception (.remote 0 "late"))).read Decoder.exception).1 = .ok () ∧
    ((waiting (.remote 0 "late")).deliver none).run 0 = (.ok (), 1) := by
  have encodable : Encodable none := nofun
  refine ⟨rfl, ?_⟩
  rw [deliver_local _ rfl encodable]
  rfl

end Proxy

end Courier
