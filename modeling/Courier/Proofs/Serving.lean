import Courier.Proofs.Call
import Courier.Proofs.Connection
import Mathlib.Data.List.Induction

namespace Courier

/-! A connection over a whole stream of bytes.

The stream may come in any pieces.  The connection answers the requests at its
front, one behind the other, up to the first thing that ends it: the stream
stops inside a frame, a frame is no request, or no frame holds a reply. -/

namespace Connection

variable {m : Type → Type} [Monad m] [LawfulMonad m]

/-- Goes on from what a connection has got to. -/
def Progress.followed (binder : Binder m) (later : List UInt8) (progress : Progress) :
    m Progress :=
  match progress.pending with
  | none => pure progress
  | some rest =>
      (fun next => { next with sent := progress.sent ++ next.sent }) <$> serve binder (rest ++ later)

theorem serve_append (binder : Binder m) (first later : List UInt8) :
    serve binder (first ++ later) = serve binder first >>= Progress.followed binder later := by
  obtain waiting | broken | ⟨request, rest, fits, rfl⟩ := waiting_or_broken_or_request first
  · simp [serve_waiting binder waiting, Progress.followed]
  · simp [serve_broken binder broken, serve_broken binder (broken.append later),
      Progress.followed]
  -- The request in front goes through alike; the rest is shorter.
  · rw [List.append_assoc, serve_request binder fits, serve_request binder fits, bind_assoc]
    refine bind_congr fun reply => ?_
    cases replyFrame reply with
    | error fault => simp [Progress.followed]
    | ok sent =>
        simp only [serve_append binder rest later, bind_assoc, pure_bind]
        refine bind_congr fun progress => ?_
        cases pending : progress.pending <;> simp [Progress.followed, pending]
termination_by first.length
decreasing_by
  subst_vars
  rw [List.length_append, Frame.length_encode]
  omega

end Connection

namespace Host

variable {m : Type → Type} [Monad m] [LawfulMonad m]

theorem run_append (binder : Binder m) (host : Host) (first later : List Event) :
    host.run binder (first ++ later) = do
      let (middle, emissions) ← host.run binder first
      let (last, others) ← middle.run binder later
      return (last, emissions ++ others) := by
  induction first generalizing host with
  | nil => simp [run]
  | cons event rest inductionHypothesis =>
      simp [run, inductionHypothesis]

theorem slots_advance (host : Host) (number : Nat) (progress : Connection.Progress) :
    (host.advance number progress).slots =
      if progress.pending.isSome then host.slots else host.slots.release := by
  unfold advance
  cases progress.pending <;> rfl

theorem sentTo_append (number : Nat) (first later : List Emission) :
    sentTo number (first ++ later) = sentTo number first ++ sentTo number later := by
  simp [sentTo]

/-- What shows of a host on one of its connections: the bytes that wait there
while it is open, the slots, and the bytes that were sent. -/
structure View where
  pending : Option (List UInt8)
  slots : Slots
  sent : List UInt8
deriving DecidableEq, Repr

def view (number : Nat) (result : Host × List Emission) : View :=
  ⟨result.1.pending? number, result.1.slots, sentTo number result.2⟩

namespace View

def advance (view : View) (progress : Connection.Progress) : View :=
  ⟨progress.pending, if progress.pending.isSome then view.slots else view.slots.release,
    view.sent ++ progress.sent⟩

def receive (binder : Binder m) (bytes : List UInt8) (view : View) : m View :=
  match view.pending with
  | none => pure view
  | some rest => view.advance <$> Connection.serve binder (rest ++ bytes)

theorem receive_advance (binder : Binder m) (view : View) (progress : Connection.Progress)
    (bytes : List UInt8) :
    (view.advance progress).receive binder bytes =
      view.advance <$> progress.followed binder bytes := by
  cases pending : progress.pending with
  | none => simp [receive, advance, Connection.Progress.followed, pending]
  | some rest =>
      simp only [receive, advance, Connection.Progress.followed, pending, Functor.map_map]
      refine map_congr fun next => ?_
      simp [advance, List.append_assoc]

def leave (view : View) : View :=
  match view.pending with
  | none => view
  | some _ => ⟨none, view.slots.release, view.sent⟩

end View

/-- Later events whose effect shows in the view depend on the view alone. -/
theorem view_run_append (act : View → m View) {binder : Binder m} {number : Nat} {later : List Event}
    (acts : ∀ (host : Host) (emissions : List Emission),
      (fun result => view number (result.1, emissions ++ result.2)) <$> host.run binder later =
        act (view number (host, emissions)))
    (host : Host) (first : List Event) :
    view number <$> host.run binder (first ++ later) = view number <$> host.run binder first >>= act := by
  simp only [run_append, map_bind, map_pure, bind_map_left]
  refine bind_congr fun result => ?_
  rw [← acts result.1 result.2, map_eq_pure_bind]

theorem view_receive (binder : Binder m) (host : Host) (number : Nat) (bytes : List UInt8)
    (emissions : List Emission) :
    (fun result => view number (result.1, emissions ++ result.2)) <$>
        host.run binder [.receive number bytes] =
      (view number (host, emissions)).receive binder bytes := by
  cases opened : host.pending? number with
  | none => simp [run, step, receive, view, View.receive, opened]
  | some pending =>
      simp only [run, step, receive_open binder opened, View.receive, view, opened, map_bind,
        bind_map_left, map_pure, pure_bind, List.append_nil]
      rw [map_eq_pure_bind]
      refine bind_congr fun progress => ?_
      simp only [pending?_advance opened, slots_advance, sentTo_append, sentTo_single, View.advance]

theorem view_leave (binder : Binder m) (host : Host) (number : Nat) (emissions : List Emission) :
    (fun result => view number (result.1, emissions ++ result.2)) <$>
        host.run binder [.leave number] =
      pure (view number (host, emissions)).leave := by
  cases opened : host.pending? number with
  | none => simp [run, step, leave, view, View.leave, opened]
  | some pending =>
      simp only [run, step, leave, view, View.leave, opened, pending?_close, sentTo_append,
        sentTo_single, pure_bind, map_pure, List.append_nil]
      rfl

/-- However the bytes come in on a connection that was just opened, it gets as
far as with all of them at once. -/
theorem view_receives {binder : Binder m} {host : Host} {number : Nat} {first : List Event}
    {opened : View} (waits : opened.pending = some [])
    (began : view number <$> host.run binder first = pure opened) (pieces : List (List UInt8)) :
    view number <$> host.run binder (first ++ pieces.map (.receive number)) =
      opened.advance <$> Connection.serve binder pieces.flatten := by
  obtain ⟨pending, slots, sent⟩ := opened
  cases waits
  induction pieces using List.reverseRecOn with
  | nil =>
      have silent : Connection.serve binder [] = pure ⟨[], some []⟩ :=
        Connection.serve_waiting binder (.header (by decide))
      simp [began, silent, View.advance]
  | append_singleton pieces piece inductionHypothesis =>
      have received := fun host => view_receive binder host number piece
      rw [List.map_append, List.map_singleton, ← List.append_assoc,
        view_run_append (View.receive binder piece) received, inductionHypothesis,
        List.flatten_append, List.flatten_singleton, Connection.serve_append, bind_map_left, map_bind]
      simp only [View.receive_advance]

def session (number : Nat) (pieces : List (List UInt8)) : List Event :=
  .connect number :: pieces.map (.receive number) ++ [.leave number]

/-- What a connection is sent that is admitted and ends at some time, and what it
leaves of the host. -/
theorem view_session (binder : Binder m) {host : Host} {number : Nat}
    (fresh : host.pending? number = none) (listening : host.listening = true)
    (free : host.slots.active < host.slots.limit) (pieces : List (List UInt8)) :
    view number <$> host.run binder (session number pieces) =
      (fun progress =>
        ⟨none, host.slots, Frame.encode Admission.accepted.encode ++ progress.sent⟩) <$>
        Connection.serve binder pieces.flatten := by
  have began : view number <$> host.run binder [.connect number] =
      pure ⟨some [], { host.slots with active := host.slots.active + 1 },
        Frame.encode Admission.accepted.encode⟩ := by
    simp only [run, step, accept, fresh, listening, Slots.acquire?, free, view, pure_bind, map_pure]
    simp [pending?_entered fresh, sentTo]
  have left := fun host => view_leave binder host number
  rw [session, view_run_append (fun view => pure view.leave) left]
  rw [← List.singleton_append, view_receives rfl began pieces, bind_map_left, map_eq_pure_bind]
  refine bind_congr fun progress => ?_
  cases pending : progress.pending <;> simp [View.advance, View.leave, Slots.release, pending]

end Host

/-- A request, and what came of it at the binder. -/
structure Answered where
  request : Request
  outcome : Except Fault Status

namespace Answered

def frame (answered : Answered) : List UInt8 :=
  Frame.encode answered.request.encode

/-- The reply: a status byte, and behind it what the binder replied or the
exception that it failed with. -/
def reply (answered : Answered) : List UInt8 :=
  match answered.outcome with
  | .ok (.handled reply) => 0 :: reply.bytes
  | .ok .unhandled => [1]
  | .error fault => 0 :: Wire.exception fault

def sent (answered : Answered) : List UInt8 :=
  if answered.request.flags.isOneWay then [] else Frame.encode answered.reply

def Fits (answered : Answered) : Prop :=
  answered.request.flags.isOneWay = false → answered.reply.length ≤ Limits.message

instance (answered : Answered) : Decidable answered.Fits :=
  inferInstanceAs (Decidable (_ → _))

theorem encode_reply (answered : Answered) :
    (Reply.ofOutcome answered.outcome).encode = answered.reply := by
  unfold reply
  split <;> rename_i came <;> rw [came] <;> rfl

theorem replyFrame_eq (answered : Answered) :
    Connection.replyFrame
        (if answered.request.flags.isOneWay then none else some (.ofOutcome answered.outcome)) =
      if answered.Fits then .ok answered.sent
      else .error (.payloadTooLarge answered.reply.length Limits.message) := by
  cases oneWay : answered.request.flags.isOneWay with
  | true => simp [Connection.replyFrame, Fits, sent, oneWay]
  | false =>
      by_cases fits : answered.reply.length ≤ Limits.message
      · simp [Connection.replyFrame, Fits, sent, oneWay, encode_reply, fits,
          Frame.encode?_of_le fits]
      · simp [Connection.replyFrame, Fits, oneWay, encode_reply, fits,
          Frame.encode?_of_lt (Nat.not_le.1 fits)]

end Answered

namespace Connection

theorem serve_answered {m : Type → Type} [Monad m] [LawfulMonad m] (binder : Binder m)
    {request : Request} (fits : request.encode.length ≤ Limits.message) (rest : List UInt8) :
    serve binder (Frame.encode request.encode ++ rest) = do
      let outcome ← request.call.issue binder
      if (Answered.mk request outcome).Fits then
        (fun progress => { progress with sent := (Answered.mk request outcome).sent ++ progress.sent })
          <$> serve binder rest
      else return ⟨[], none⟩ := by
  rw [serve_request binder fits, answer_fresh, bind_assoc]
  refine bind_congr fun outcome => ?_
  have framed := Answered.replyFrame_eq ⟨request, outcome⟩
  dsimp only at framed ⊢
  rw [pure_bind, framed]
  by_cases replyFits : (Answered.mk request outcome).Fits
  · rw [if_pos replyFits, if_pos replyFits, map_eq_pure_bind]
  · rw [if_neg replyFits, if_neg replyFits]

theorem serve_recorded {m : Type → Type} [Monad m] [LawfulMonad m] (binder : Binder m)
    {request : Request} (fits : request.encode.length ≤ Limits.message) (rest : List UInt8)
    (journal : List Call) :
    (serve binder.recorded (Frame.encode request.encode ++ rest)).run journal = do
      let outcome ← request.call.issue binder
      if (Answered.mk request outcome).Fits then
        (fun served => ({ served.1 with sent := (Answered.mk request outcome).sent ++ served.1.sent },
          served.2)) <$> (serve binder.recorded rest).run (journal ++ [request.call])
      else return (⟨[], none⟩, journal ++ [request.call]) := by
  rw [serve_answered binder.recorded fits, StateT.run_bind, Call.issue_recorded, bind_map_left]
  refine bind_congr fun outcome => ?_
  by_cases replyFits : (Answered.mk request outcome).Fits
  · rw [if_pos replyFits, if_pos replyFits, StateT.run_map]
  · rw [if_neg replyFits, if_neg replyFits]
    rfl

variable {σ : Type} {binder : Binder (StateM σ)}

/-- The binder runs the requests one after the other, and frames hold them and
their replies. -/
structure Answers (binder : Binder (StateM σ)) (answered : List Answered) (before after : σ) :
    Prop where
  requestsFit : ∀ one ∈ answered, one.request.encode.length ≤ Limits.message
  repliesFit : ∀ one ∈ answered, one.Fits
  ran : (answered.mapM fun one : Answered => one.request.call.issue binder).run before =
    (answered.map Answered.outcome, after)

/-- What a stream comes to: the bytes that the peer is sent and the requests that
the binder is asked. -/
inductive Serves (binder : Binder (StateM σ)) (before : σ) :
    (stream sent : List UInt8) → (asked : List Request) → (after : σ) → Prop where
  | ended {answered : List Answered} {left : List UInt8} {after : σ}
      (answers : Answers binder answered before after) (halted : Waiting left ∨ Broken left) :
      Serves binder before (answered.flatMap Answered.frame ++ left)
        (answered.flatMap Answered.sent) (answered.map Answered.request) after
  /-- No frame holds the reply to the last request that the binder is asked. -/
  | overflowed {answered : List Answered} {last : Answered} {rest : List UInt8} {middle after : σ}
      (answers : Answers binder answered before middle)
      (requestFits : last.request.encode.length ≤ Limits.message)
      (ran : (last.request.call.issue binder).run middle = (last.outcome, after))
      (large : ¬ last.Fits) :
      Serves binder before (answered.flatMap Answered.frame ++ (last.frame ++ rest))
        (answered.flatMap Answered.sent) (answered.map Answered.request ++ [last.request]) after

theorem Answers.nil (state : σ) : Answers binder [] state state :=
  ⟨nofun, nofun, rfl⟩

theorem Answers.cons (first : Answered) {answered : List Answered} {before middle after : σ}
    (requestFits : first.request.encode.length ≤ Limits.message) (replyFits : first.Fits)
    (ran : (first.request.call.issue binder).run before = (first.outcome, middle))
    (answers : Answers binder answered middle after) :
    Answers binder (first :: answered) before after := by
  refine ⟨List.forall_mem_cons.2 ⟨requestFits, answers.requestsFit⟩,
    List.forall_mem_cons.2 ⟨replyFits, answers.repliesFit⟩, ?_⟩
  rw [List.mapM_cons, StateT.run_bind, ran]
  change ((answered.mapM fun one : Answered => one.request.call.issue binder) >>= _).run middle = _
  rw [StateT.run_bind, answers.ran]
  rfl

theorem Answers.uncons {first : Answered} {answered : List Answered} {before after : σ}
    (answers : Answers binder (first :: answered) before after) :
    ∃ middle, (first.request.call.issue binder).run before = (first.outcome, middle) ∧
      Answers binder answered middle after := by
  obtain ⟨requestsFit, repliesFit, ran⟩ := answers
  obtain ⟨outcome, middle, issued⟩ : ∃ outcome middle,
      (first.request.call.issue binder).run before = (outcome, middle) := ⟨_, _, rfl⟩
  obtain ⟨outcomes, last, ranRest⟩ : ∃ outcomes last,
      (answered.mapM fun one : Answered => one.request.call.issue binder).run middle =
        (outcomes, last) := ⟨_, _, rfl⟩
  rw [List.mapM_cons, StateT.run_bind, issued] at ran
  change ((answered.mapM fun one : Answered => one.request.call.issue binder) >>= _).run middle = _
    at ran
  rw [StateT.run_bind, ranRest] at ran
  replace ran : (outcome :: outcomes, last) = (first.outcome :: answered.map Answered.outcome, after) :=
    ran
  simp only [Prod.mk.injEq, List.cons.injEq] at ran
  obtain ⟨⟨rfl, rfl⟩, rfl⟩ := ran
  exact ⟨middle, issued, (List.forall_mem_cons.1 requestsFit).2, (List.forall_mem_cons.1 repliesFit).2,
    ranRest⟩

theorem Answers.serve {answered : List Answered} {before middle : σ}
    (answers : Answers binder answered before middle) (left : List UInt8) :
    (Connection.serve binder (answered.flatMap Answered.frame ++ left)).run before =
      ((fun progress : Progress =>
          { progress with sent := answered.flatMap Answered.sent ++ progress.sent }) <$>
        Connection.serve binder left).run middle := by
  induction answered generalizing before with
  | nil =>
      obtain ⟨_, _, ran⟩ := answers
      cases ran
      simp
  | cons first rest inductionHypothesis =>
      have requestFits := answers.requestsFit first List.mem_cons_self
      have replyFits := answers.repliesFit first List.mem_cons_self
      obtain ⟨next, issued, answersRest⟩ := answers.uncons
      rw [List.flatMap_cons, List.append_assoc, Answered.frame, serve_answered binder requestFits,
        StateT.run_bind, issued]
      change StateT.run (if first.Fits then _ else _) next = _
      rw [if_pos replyFits, StateT.run_map, inductionHypothesis answersRest, StateT.run_map,
        StateT.run_map, Functor.map_map]
      simp only [List.flatMap_cons, List.append_assoc]

theorem Serves.cons (first : Answered) {before middle after : σ} {stream sent : List UInt8}
    {asked : List Request}
    (requestFits : first.request.encode.length ≤ Limits.message) (replyFits : first.Fits)
    (ran : (first.request.call.issue binder).run before = (first.outcome, middle))
    (serves : Serves binder middle stream sent asked after) :
    Serves binder before (first.frame ++ stream) (first.sent ++ sent) (first.request :: asked)
      after := by
  cases serves with
  | ended answers halted =>
      have served := Serves.ended (answers.cons first requestFits replyFits ran) halted
      simpa only [List.flatMap_cons, List.append_assoc, List.map_cons] using served
  | @overflowed answered last rest _ _ answers lastFits lastRan large =>
      have served := @Serves.overflowed _ _ _ _ _ rest _ _ (answers.cons first requestFits replyFits ran) lastFits lastRan large
      simpa only [List.flatMap_cons, List.append_assoc, List.map_cons, List.cons_append] using served

theorem serve_serves (binder : Binder (StateM σ)) (stream : List UInt8) (journal : List Call)
    (before : σ) :
    ∃ (sent : List UInt8) (pending : Option (List UInt8)) (asked : List Request) (after : σ),
      Serves binder before stream sent asked after ∧
      ((serve binder.recorded stream).run journal).run before =
        ((⟨sent, pending⟩, journal ++ asked.map Request.call), after) := by
  obtain waiting | broken | ⟨request, rest, requestFits, rfl⟩ := waiting_or_broken_or_request stream
  · refine ⟨[], some stream, [], before, .ended (.nil before) (.inl waiting), ?_⟩
    rw [serve_waiting binder.recorded waiting, List.map_nil, List.append_nil]
    rfl
  · refine ⟨[], none, [], before, .ended (.nil before) (.inr broken), ?_⟩
    rw [serve_broken binder.recorded broken, List.map_nil, List.append_nil]
    rfl
  · obtain ⟨outcome, middle, ran⟩ : ∃ outcome middle,
        (request.call.issue binder).run before = (outcome, middle) := ⟨_, _, rfl⟩
    rw [serve_recorded binder requestFits, StateT.run_bind, ran]
    -- A reply that no frame holds is the last thing that comes of the stream.
    by_cases replyFits : (Answered.mk request outcome).Fits
    · obtain ⟨sent, pending, asked, after, serves, served⟩ :=
        serve_serves binder rest (journal ++ [request.call]) middle
      refine ⟨_, pending, _, after, serves.cons ⟨request, outcome⟩ requestFits replyFits ran, ?_⟩
      change StateT.run (if (Answered.mk request outcome).Fits then _ else _) middle = _
      rw [if_pos replyFits, StateT.run_map, served, List.append_assoc, List.map_cons]
      rfl
    · refine ⟨_, none, _, middle, @Serves.overflowed _ _ _ _ ⟨request, outcome⟩ rest _ _ (.nil before) requestFits ran replyFits, ?_⟩
      change StateT.run (if (Answered.mk request outcome).Fits then _ else _) middle = _
      rw [if_neg replyFits]
      rfl
termination_by stream.length
decreasing_by
  subst_vars
  rw [List.length_append, Frame.length_encode]
  omega

end Connection

namespace Host

variable {σ : Type}

/-- Counts what it is asked, gives the data back and fails without any. -/
def echo : Binder (StateM Nat) where
  transact := fun code data _ => do
    modify (· + 1)
    return if data.size = 0 then .error (.other "empty")
      else if code = Transaction.firstCall then .ok (.handled data)
      else .ok .unhandled

/-- Four requests, one of them cut in two, and a fifth behind a frame that is none
of a request. -/
def echoed : List (List UInt8) :=
  let frame := fun request : Request => Frame.encode request.encode
  [frame ⟨1, .none, [7]⟩ ++ (frame ⟨1, ⟨0x80000001⟩, []⟩).take 6,
    (frame ⟨1, ⟨0x80000001⟩, []⟩).drop 6 ++ frame ⟨2, .none, [8, 9]⟩ ++ frame ⟨1, .none, []⟩,
    Frame.encode [1, 2] ++ frame ⟨1, .none, [7]⟩]

end Host

end Courier
