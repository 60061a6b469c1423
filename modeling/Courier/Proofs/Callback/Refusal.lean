import Courier.Proofs.Bundle.Reading
import Courier.Proofs.Callback.Dispatch
import Courier.Proofs.Parcel.Headers
import Courier.Proofs.Serving

namespace Courier

/-! What the stub of a callback refuses, and what that does to a connection.

A request that is refused is answered with the fault, and the connection goes
on.  Faults have short texts, except one: a mismatch quotes the name that the
token of the request carries.  A reply that quotes too long a name fits no frame
and costs the peer its connection. -/

namespace Callback

theorem read_token_error {data : List UInt8} {fault : Fault}
    (refused : ((Parcel.ofBytes data).read (Decoder.enforceInterface descriptor)).1 = .error fault) :
    (∃ defect : Defect, fault = .malformed defect ∧ defect.Within data.length) ∨
      ∃ actual, Decoder.Foreign descriptor data actual ∧
        fault = .interfaceMismatch descriptor (actual.getD "") := by
  obtain ⟨cursor, failed, _⟩ := Parcel.read_eq_error.1 (Prod.ext refused rfl)
  have refused := Decoder.enforceInterface_error failed
  rwa [Parcel.size_cursor (Nat.zero_le _)] at refused

theorem read_token_foreign {data : List UInt8} {actual : Option String}
    (foreign : Decoder.Foreign descriptor data actual) :
    ((Parcel.ofBytes data).read (Decoder.enforceInterface descriptor)).1 =
      .error (.interfaceMismatch descriptor (actual.getD "")) := by
  have unread : Decoder.Foreign descriptor (Parcel.ofBytes data).cursor.unread actual := foreign
  obtain ⟨after, failed⟩ := Decoder.enforceInterface_foreign unread
  rw [Parcel.read_eq_error.2 ⟨after, failed, rfl⟩]

theorem received_error {data : List UInt8} {fault : Fault} (refused : received data = .error fault) :
    ((Parcel.ofBytes data).read (Decoder.enforceInterface descriptor)).1 = .error fault ∨
      ∃ defect : Defect, fault = .malformed defect ∧ defect.Within data.length := by
  unfold received at refused
  split at refused
  · rename_i body entered
    right
    obtain ⟨cursor, passed, rfl⟩ := Parcel.read_eq_ok.1 entered
    have inside : cursor.offset ≤ data.length := by
      have kept := Decoder.size_of_enforceInterface passed
      rw [Parcel.size_cursor (Nat.zero_le _)] at kept
      exact kept ▸ Nat.le_add_right _ _
    obtain ⟨last, failed, _⟩ := Parcel.read_eq_error.1 (Prod.ext refused rfl)
    have whole := @Parcel.size_cursor ⟨data, cursor.offset⟩ inside
    exact ((Decoder.confined_typed (Decoder.confined_bundleWithin _)).blames whole failed).2
  · rename_i found body entered
    cases refused
    rw [entered]
    exact .inl rfl

/-- Why a transaction is refused: the data have a defect, or a call names another
interface. -/
theorem demand_error {code : UInt32} {data : List UInt8} {fault : Fault}
    (refused : demand code data = .error fault) :
    (∃ defect : Defect, fault = .malformed defect ∧ defect.Within data.length) ∨
      ∃ actual, Decoder.Foreign descriptor data actual ∧
        fault = .interfaceMismatch descriptor (actual.getD "") := by
  unfold demand at refused
  split at refused
  · cases read : received data with
    | ok result => simp [read, Except.map] at refused
    | error found =>
        rw [read] at refused
        cases refused
        rcases received_error read with entered | defective
        · exact read_token_error entered
        · exact .inl defective
  · split at refused
    · cases entered : ((Parcel.ofBytes data).read (Decoder.enforceInterface descriptor)).1 with
      | ok done => simp [entered, Except.map] at refused
      | error found =>
          rw [entered] at refused
          cases refused
          exact read_token_error entered
    · split at refused <;> contradiction

theorem isCall_of_refused {code : UInt32} {data : List UInt8} {fault : Fault}
    (refused : demand code data = .error fault) : Transaction.isCall code = true := by
  unfold demand at refused
  split at refused
  · rename_i delivers
    rw [delivers]
    decide
  · split at refused
    · assumption
    · split at refused <;> contradiction

theorem demand_foreign {code : UInt32} {data : List UInt8} {actual : Option String}
    (call : Transaction.isCall code = true) (foreign : Decoder.Foreign descriptor data actual) :
    demand code data = .error (.interfaceMismatch descriptor (actual.getD "")) := by
  have entered := read_token_foreign foreign
  unfold demand
  rw [if_pos call]
  split
  · have refused : received data = .error (.interfaceMismatch descriptor (actual.getD "")) := by
      unfold received
      split <;> simp_all
    rw [refused]
    rfl
  · rw [entered]
    rfl

end Callback

/-! How long replies get. -/

theorem Wire.length_string_le (text : String) :
    (Wire.string text).length ≤ (Utf8.bytes text).length + 8 := by
  simp only [Wire.string, Wire.terminated, Wire.count, Wire.int32, Wire.padding, List.length_append,
    List.length_cons, List.length_replicate, length_littleEndian]
  omega

theorem Wire.length_le_length_string (text : String) :
    (Utf8.bytes text).length ≤ (Wire.string text).length := by
  simp only [Wire.string, Wire.terminated, List.length_append]
  omega

theorem Wire.length_exception (fault : Fault) :
    (Wire.exception fault).length = 4 + (Wire.string fault.message).length := by
  rw [Wire.exception, List.length_append, Wire.int32, length_littleEndian]

/-- Somebody waits for the reply to a call of another interface, and no frame has
room for the name that the reply quotes. -/
structure Request.Misdirected (request : Request) : Prop where
  awaited : request.flags.isOneWay = false
  call : Transaction.isCall request.code = true
  foreign : ∃ actual, Decoder.Foreign Callback.descriptor request.data actual ∧
    Limits.message <
      1 + (Wire.exception (.interfaceMismatch Callback.descriptor (actual.getD ""))).length

namespace Callback

variable {σ : Type}

theorem fits_malformed {request : Request} (fits : request.encode.length ≤ Limits.message)
    {defect : Defect} (within : defect.Within request.data.length) :
    (0 :: Wire.exception (.malformed defect)).length ≤ Limits.message := by
  have short := length_malformed within (by
    rw [request.length_encode, Limits.message] at fits
    omega)
  have written := Wire.length_string_le (Fault.malformed defect).message
  rw [List.length_cons, Wire.length_exception, Limits.message]
  omega

def settled (request : Request) : Status :=
  match demand request.code request.data with
  | .ok (.delivery _) => receipt request.flags (.ok ())
  | .ok .description =>
      Handler.conclude request.flags (.ok true) (.ofBytes (Wire.string descriptor))
  | .ok .unclaimed =>
      Handler.conclude request.flags (.ok (request.code == Transaction.ping)) .empty
  | .error fault => receipt request.flags (.error fault)

theorem issue_settled (callback : Callback (StateM σ))
    (succeeds : ∀ result state, ((callback.deliver result).run state).1 = .ok ())
    (request : Request) (before : σ) :
    ∃ after, (request.call.issue callback.toBinder).run before = (.ok (settled request), after) := by
  have executed : request.call.issue callback.toBinder = Except.ok <$>
      callback.stub.execute request.code (.ofBytes request.data) request.flags := rfl
  rw [executed, execute_stub, Parcel.bytes_ofBytes, settled]
  cases demand request.code request.data with
  | error fault => exact ⟨before, rfl⟩
  | ok demanded =>
      cases demanded with
      | delivery result =>
          obtain ⟨after, ran⟩ : ∃ after, (callback.deliver result).run before = (.ok (), after) :=
            ⟨_, Prod.ext (succeeds result before) rfl⟩
          refine ⟨after, ?_⟩
          simp only [StateT.run_map, ran]
          rfl
      | description => exact ⟨before, rfl⟩
      | unclaimed => exact ⟨before, rfl⟩

theorem fits_settled {request : Request} (fits : request.encode.length ≤ Limits.message) :
    (Answered.mk request (.ok (settled request))).Fits ↔ ¬ request.Misdirected := by
  cases oneWay : request.flags.isOneWay with
  | true =>
      have unawaited : ¬ request.flags.isOneWay = false := by simp [oneWay]
      exact iff_of_true (fun awaited => absurd awaited unawaited) fun misdirected =>
        unawaited misdirected.awaited
  | false =>
      constructor
      · intro replyFits misdirected
        obtain ⟨_, call, actual, foreign, large⟩ := misdirected
        have replied := replyFits oneWay
        simp only [Answered.reply, settled, demand_foreign call foreign, receipt, oneWay] at replied
        change (0 :: Wire.exception _).length ≤ _ at replied
        rw [List.length_cons] at replied
        omega
      · intro directed _
        simp only [Answered.reply, settled]
        -- Nothing that the stub replies with depends on the data, but the text of a fault.
        cases asked : demand request.code request.data with
        | error fault =>
            simp only [receipt, oneWay]
            rcases demand_error asked with ⟨defect, rfl, within⟩ | ⟨actual, foreign, rfl⟩
            · exact fits_malformed fits within
            · by_contra large
              refine directed ⟨oneWay, isCall_of_refused asked, actual, foreign, ?_⟩
              rw [Nat.add_comm]
              exact Nat.not_le.1 large
        | ok demanded =>
            cases demanded with
            | delivery result =>
                simp only [receipt, oneWay]
                decide
            | description =>
                simp only [Handler.conclude, oneWay]
                decide
            | unclaimed =>
                cases known : request.code == Transaction.ping <;>
                  simp only [Handler.conclude, oneWay] <;> decide

theorem answers_directed (callback : Callback (StateM σ))
    (succeeds : ∀ result state, ((callback.deliver result).run state).1 = .ok ())
    {requests : List Request} (fit : ∀ request ∈ requests, request.encode.length ≤ Limits.message)
    (directed : ∀ request ∈ requests, ¬ request.Misdirected) (before : σ) :
    ∃ answered after, answered.map Answered.request = requests ∧
      Connection.Answers callback.toBinder answered before after := by
  induction requests generalizing before with
  | nil => exact ⟨[], before, rfl, .nil before⟩
  | cons request rest inductionHypothesis =>
      obtain ⟨fits, fitRest⟩ := List.forall_mem_cons.1 fit
      obtain ⟨direct, directedRest⟩ := List.forall_mem_cons.1 directed
      obtain ⟨middle, issued⟩ := issue_settled callback succeeds request before
      obtain ⟨answered, after, same, answers⟩ := inductionHypothesis fitRest directedRest middle
      refine ⟨⟨request, .ok (settled request)⟩ :: answered, after, by rw [List.map_cons, same], ?_⟩
      exact answers.cons _ fits ((fits_settled fits).2 direct) issued

theorem serve_misdirected (callback : Callback (StateM σ))
    (succeeds : ∀ result state, ((callback.deliver result).run state).1 = .ok ())
    {request : Request} (fits : request.encode.length ≤ Limits.message)
    (misdirected : request.Misdirected) (rest : List UInt8) (before : σ) :
    ∃ after, (Connection.serve callback.toBinder (Frame.encode request.encode ++ rest)).run before =
      (⟨[], none⟩, after) := by
  obtain ⟨after, issued⟩ := callback.issue_settled succeeds request before
  have unfit := fun replyFits => (fits_settled fits).1 replyFits misdirected
  refine ⟨after, ?_⟩
  rw [Connection.serve_answered callback.toBinder fits, StateT.run_bind, issued]
  change StateT.run (if (Answered.mk request _).Fits then _ else _) after = _
  rw [if_neg unfit]
  rfl

end Callback

namespace Host

variable {σ : Type}

theorem view_arrivals (binder : Binder (StateM σ)) {host : Host} {number : Nat}
    (opened : host.pending? number = some []) (pieces : List (List UInt8)) :
    view number <$> host.run binder (pieces.map (.receive number)) =
      View.advance ⟨some [], host.slots, []⟩ <$> Connection.serve binder pieces.flatten := by
  have began : view number <$> host.run binder [] = pure ⟨some [], host.slots, []⟩ := by
    rw [run, map_pure, view, opened]
    rfl
  have arrived := view_receives rfl began pieces
  rwa [List.nil_append] at arrived

/-- A callback that never fails stays within reach.  On an open connection to its
host every request that somebody waits for is answered, whatever it asks and
whatever its data are, and the connection stays open.  A misdirected request
gets no answer and ends the connection. -/
theorem refusals_isolated (callback : Callback (StateM σ)) (host : Host) (number : Nat)
    (requests : List Request) (before : σ)
    (succeeds : ∀ result state, ((callback.deliver result).run state).1 = .ok ())
    (opened : host.pending? number = some [])
    (fit : ∀ request ∈ requests, request.encode.length ≤ Limits.message)
    (directed : ∀ request ∈ requests, ¬ request.Misdirected) :
    ∃ (answered : List Answered) (after : σ),
      answered.map Answered.request = requests ∧
      Connection.Answers callback.toBinder answered before after ∧
      (∀ pieces : List (List UInt8), pieces.flatten = answered.flatMap Answered.frame →
        (view number <$> host.run callback.toBinder (pieces.map (.receive number))).run before =
          (⟨some [], host.slots, answered.flatMap Answered.sent⟩, after)) ∧
      ∀ (last : Request) (rest : List UInt8) (pieces : List (List UInt8)),
        last.Misdirected → last.encode.length ≤ Limits.message →
        pieces.flatten =
          answered.flatMap Answered.frame ++ (Frame.encode last.encode ++ rest) →
        ((view number <$> host.run callback.toBinder (pieces.map (.receive number))).run before).1 =
          ⟨none, host.slots.release, answered.flatMap Answered.sent⟩ := by
  obtain ⟨answered, after, same, answers⟩ := callback.answers_directed succeeds fit directed before
  refine ⟨answered, after, same, answers, ?_, ?_⟩
  · intro pieces arrived
    have silent : Connection.serve callback.toBinder [] = pure ⟨[], some []⟩ :=
      Connection.serve_waiting callback.toBinder (.header (by decide))
    have served := answers.serve []
    rw [List.append_nil, silent] at served
    rw [view_arrivals callback.toBinder opened, StateT.run_map, arrived, served]
    simp only [map_pure, StateT.run_pure, List.append_nil, View.advance, Option.isSome_some, if_true,
      List.nil_append]
    rfl
  · intro last rest pieces misdirected lastFits arrived
    obtain ⟨final, stopped⟩ := callback.serve_misdirected succeeds lastFits misdirected rest after
    have served := answers.serve (Frame.encode last.encode ++ rest)
    rw [StateT.run_map, stopped] at served
    rw [view_arrivals callback.toBinder opened, StateT.run_map, arrived, served]
    change View.mk none host.slots.release ([] ++ (_ ++ [])) = _
    rw [List.append_nil, List.nil_append]

def counted : Callback (StateM Nat) where
  deliver := fun _ => do
    modify (· + 1)
    return .ok ()

def attended : Host :=
  ⟨⟨1, 1⟩, [(4, [])], .running⟩

/-- A call whose data are no parcel, one with a code that the interface lacks, and a
delivery of nothing. -/
def unruly : List Request :=
  [⟨Callback.sendResult, .none, [1, 2, 3]⟩,
    ⟨7, .none, Wire.interfaceToken Callback.descriptor⟩,
    ⟨Callback.sendResult, .none, Wire.interfaceToken Callback.descriptor ++ Wire.int32 0⟩]

/-- A name of controls, each of which is quoted by six characters. -/
def controls (count : Nat) : String :=
  String.ofList (List.replicate count '\x7f')

def astray (count : Nat) : Request :=
  ⟨Callback.sendResult, .none, Wire.interfaceToken (controls count)⟩

theorem length_quoted_controls (count : Nat) :
    (Text.quoted (controls count)).toList.length = count * 6 + 2 := by
  have six : (Text.quotedCharacter '\x7f').length = 6 := by decide +kernel
  simp [Text.quoted, controls, List.length_flatMap, six]

theorem length_controls_le (count : Nat) : (Utf8.bytes (controls count)).length ≤ 4 * count := by
  have listed : (controls count).toList.length = count := by
    rw [controls, String.toList_ofList, List.length_replicate]
  have encoded := Utf8.length_encode_le (controls count).toList
  rw [listed] at encoded
  exact encoded

theorem astray_fits {count : Nat} (few : count ≤ 200000) :
    (astray count).encode.length ≤ Limits.message := by
  have written := Wire.length_string_le (controls count)
  have length := length_controls_le count
  rw [Request.length_encode, astray, Wire.interfaceToken, List.length_append, Wire.int32,
    length_littleEndian, Limits.message]
  omega

/-- A sixth of a frame full of controls suffices. -/
theorem misdirected_astray {count : Nat} (many : Limits.message ≤ 6 * count)
    (few : count ≤ 200000) : (astray count).Misdirected := by
  have bounded : (Utf8.bytes (controls count)).length < 2 ^ 31 := by
    have length := length_controls_le count
    omega
  have other : some (controls count) ≠ some Callback.descriptor := by
    intro same
    have lengths := congrArg (fun name : Option String => (name.getD "").toList.length) same
    simp only [Option.getD_some, controls, String.toList_ofList, List.length_replicate] at lengths
    rw [Limits.message, lengths] at many
    exact absurd many (by decide)
  have awaited : Flags.none.isOneWay = false := rfl
  have call : Transaction.isCall Callback.sendResult = true := by decide
  refine ⟨awaited, call, some (controls count), ⟨Limits.strictMode, Wire.string (controls count),
    [], ?_, Decoder.stringForm_of_text bounded, other⟩, ?_⟩
  · rw [List.append_nil]
    rfl
  · have quoted := length_quoted_controls count
    have text : count * 6 ≤
        (Fault.interfaceMismatch Callback.descriptor (controls count)).message.toList.length := by
      change _ ≤ ("Interface mismatch: expected " ++ Callback.descriptor ++ ", got " ++
        Text.quoted (controls count)).toList.length
      rw [String.toList_append, List.length_append, quoted]
      omega
    have sent := Nat.le_trans text (Utf8.length_le_length_encode _)
    have written := Wire.length_le_length_string
      (Fault.interfaceMismatch Callback.descriptor (controls count)).message
    rw [Option.getD_some, Wire.length_exception]
    change _ ≤ (Utf8.bytes _).length at sent
    omega

theorem refusals_isolated_unruly :
    ∃ (answered : List Answered) (after : Nat),
      answered.map Answered.request = unruly ∧
      Connection.Answers counted.toBinder answered 0 after ∧
      (view 4 <$> attended.run counted.toBinder
          [.receive 4 (answered.flatMap Answered.frame)]).run 0 =
        (⟨some [], ⟨1, 1⟩, answered.flatMap Answered.sent⟩, after) ∧
      ((view 4 <$> attended.run counted.toBinder [.receive 4 (answered.flatMap Answered.frame ++
          (Frame.encode (astray 200000).encode ++ []))]).run 0).1 =
        ⟨none, ⟨1, 0⟩, answered.flatMap Answered.sent⟩ := by
  have fit : ∀ request ∈ unruly, request.encode.length ≤ Limits.message := by decide +kernel
  have directed : ∀ request ∈ unruly, ¬ request.Misdirected := by
    intro request member
    -- That a token is foreign is no matter of computation; that a reply fits is.
    refine (Callback.fits_settled (fit request member)).1 ?_
    revert request
    decide +kernel
  obtain ⟨answered, after, same, answers, served, stopped⟩ := refusals_isolated counted attended 4
    unruly 0 (fun _ _ => rfl) rfl fit directed
  refine ⟨answered, after, same, answers, ?_, ?_⟩
  · exact served [answered.flatMap Answered.frame] (List.append_nil _)
  · exact stopped (astray 200000) [] [_] (misdirected_astray (by decide) (by decide))
      (astray_fits (by decide)) (List.append_nil _)

/-- A call with a name of controls gets no reply, and none gets the ping behind it:
the connection is closed. -/
theorem astray_unanswered :
    (astray 200000).encode.length ≤ Limits.message ∧ (astray 200000).flags.isOneWay = false ∧
    ((view 4 <$> attended.run counted.toBinder [.receive 4 (Frame.encode (astray 200000).encode),
        .receive 4 (Frame.encode (Request.mk Transaction.ping .none []).encode)]).run 0).1 =
      ⟨none, ⟨1, 0⟩, []⟩ := by
  have fits : (astray 200000).encode.length ≤ Limits.message := astray_fits (by decide)
  have misdirected : (astray 200000).Misdirected := misdirected_astray (by decide) (by decide)
  refine ⟨fits, misdirected.awaited, ?_⟩
  have opened : attended.pending? 4 = some [] := rfl
  obtain ⟨after, stopped⟩ := counted.serve_misdirected (fun _ _ => rfl) fits misdirected
    (Frame.encode (Request.mk Transaction.ping .none []).encode ++ []) 0
  have arrived := view_arrivals counted.toBinder opened [Frame.encode (astray 200000).encode,
    Frame.encode (Request.mk Transaction.ping .none []).encode]
  rw [List.map_cons, List.map_cons, List.map_nil, List.flatten_cons, List.flatten_cons,
    List.flatten_nil] at arrived
  rw [arrived, StateT.run_map, stopped]
  rfl

end Host

end Courier
