import Courier.Proofs.Frame
import Mathlib.Data.List.Basic

namespace Courier.Frame

/-! Frames on a stream, read and written.

A stream is whole frames and what is left behind them.  Reading yields the
payloads of the frames, whatever pieces the stream comes in, and tells from what
is left why there is no further one.  A stream that fills up while it is written
to holds the frames that were written and the start of the first that was not. -/

/-- What is left of a stream behind its whole frames, and how reading ends there. -/
inductive Ends : (left : List UInt8) → (ending : Except Fault (Option (List UInt8))) → Prop where
  | finished {left : List UInt8} (few : left.length < 4) : Ends left (.ok none)
  | oversized {left : List UInt8} (headed : 4 ≤ left.length)
      (large : Limits.message < declared left) :
      Ends left (.error (.malformed (.oversizedFrame (declared left))))
  | cut {left : List UInt8} (headed : 4 ≤ left.length) (small : declared left ≤ Limits.message)
      (short : left.length < 4 + declared left) : Ends left (.error (.ofIo "early eof"))

/-- A stream as whole frames and the rest that ends it. -/
structure Splits (stream : List UInt8) (payloads : List (List UInt8)) (left : List UInt8)
    (ending : Except Fault (Option (List UInt8))) : Prop where
  whole : stream = payloads.flatMap encode ++ left
  fits : ∀ payload ∈ payloads, payload.length ≤ Limits.message
  ends : Ends left ending

/-- What reading gives of a stream, up to its end. -/
def readings (payloads : List (List UInt8)) (ending : Except Fault (Option (List UInt8))) :
    List (Except Fault (Option (List UInt8))) :=
  payloads.map (fun payload => .ok (some payload)) ++ [ending]

theorem frame_or_ends (stream : List UInt8) :
    (∃ payload rest, payload.length ≤ Limits.message ∧ stream = encode payload ++ rest) ∨
      ∃ ending, Ends stream ending := by
  cases found : front stream with
  | frame payload rest =>
      obtain ⟨fits, whole⟩ := front_eq_frame.1 found
      exact .inl ⟨payload, rest, fits, whole⟩
  | oversized size rest =>
      obtain ⟨headed, large, _⟩ := front_eq_oversized.1 found
      exact .inr ⟨_, .oversized headed large⟩
  | incomplete =>
      by_cases few : stream.length < 4
      · exact .inr ⟨_, .finished few⟩
      · obtain few | ⟨small, short⟩ := front_eq_incomplete.1 found
        · contradiction
        · exact .inr ⟨_, .cut (Nat.not_lt.1 few) small short⟩

theorem Splits.cons {stream payload left : List UInt8} {payloads : List (List UInt8)}
    {ending : Except Fault (Option (List UInt8))} (fits : payload.length ≤ Limits.message)
    (splits : Splits stream payloads left ending) :
    Splits (encode payload ++ stream) (payload :: payloads) left ending where
  whole := by rw [splits.whole, List.flatMap_cons, List.append_assoc]
  fits := List.forall_mem_cons.2 ⟨fits, splits.fits⟩
  ends := splits.ends

/-- Every stream splits. -/
theorem exists_splits (stream : List UInt8) :
    ∃ payloads left ending, Splits stream payloads left ending := by
  obtain ⟨payload, rest, fits, rfl⟩ | ⟨ending, ends⟩ := frame_or_ends stream
  · obtain ⟨payloads, left, ending, splits⟩ := exists_splits rest
    exact ⟨payload :: payloads, left, ending, splits.cons fits⟩
  · exact ⟨[], stream, ending, rfl, List.forall_mem_nil _, ends⟩
termination_by stream.length
decreasing_by
  subst_vars
  rw [List.length_append, length_encode]
  omega

/-! Reading. -/

theorem fill_of_le {needed : Nat} {source : Source} (taken : List (List UInt8))
    (enough : needed ≤ source.flatten.length) :
    ∃ rest : Source,
      fill needed taken source = (some (taken.reverse.flatten ++ source.flatten.take needed), rest) ∧
        rest.flatten = source.flatten.drop needed := by
  induction source generalizing needed taken with
  | nil =>
      have none : needed = 0 := by simpa using enough
      exact ⟨[], by simp [fill, none]⟩
  | cons piece pieces inductionHypothesis =>
      by_cases none : needed = 0
      · exact ⟨piece :: pieces, by simp [fill, none]⟩
      · by_cases inside : needed < piece.length
        · refine ⟨piece.drop needed :: pieces, ?_, ?_⟩
          · simp [fill, none, inside, List.take_append_of_le_length (Nat.le_of_lt inside)]
          · simp [List.drop_append_of_le_length (Nat.le_of_lt inside)]
        · have remaining : needed - piece.length ≤ pieces.flatten.length := by
            simp only [List.flatten_cons, List.length_append] at enough
            omega
          obtain ⟨rest, filled, left⟩ := inductionHypothesis (piece :: taken) remaining
          have covered : piece.length ≤ needed := Nat.not_lt.1 inside
          refine ⟨rest, ?_, ?_⟩
          · simp [fill, none, inside, filled, List.take_append, List.take_of_length_le covered]
          · simp [left, List.drop_append, List.drop_of_length_le covered]

theorem fill_of_lt {needed : Nat} {source : Source} (taken : List (List UInt8))
    (short : source.flatten.length < needed) : fill needed taken source = (none, []) := by
  induction source generalizing needed taken with
  | nil =>
      have some : needed ≠ 0 := Nat.ne_of_gt short
      simp [fill, some]
  | cons piece pieces inductionHypothesis =>
      simp only [List.flatten_cons, List.length_append] at short
      have some : needed ≠ 0 := by omega
      have outside : ¬ needed < piece.length := by omega
      simp only [fill, if_neg some, if_neg outside]
      exact inductionHypothesis (piece :: taken) (by omega)

theorem read_frame {source : Source} {payload rest : List UInt8}
    (fits : payload.length ≤ Limits.message) (whole : source.flatten = encode payload ++ rest) :
    ∃ left : Source, read source = (.ok (some payload), left) ∧ left.flatten = rest := by
  have width : (bigEndian 4 payload.length).length = 4 := length_bigEndian 4 payload.length
  rw [encode, List.append_assoc] at whole
  have headed : 4 ≤ source.flatten.length := by
    rw [whole, List.length_append]
    omega
  obtain ⟨middle, header, behind⟩ := fill_of_le [] headed
  rw [whole, List.take_left' width] at header
  rw [whole, List.drop_left' width] at behind
  have enough : payload.length ≤ middle.flatten.length := by
    rw [behind, List.length_append]
    omega
  obtain ⟨left, filled, remaining⟩ := fill_of_le [] enough
  rw [behind, List.take_left] at filled
  rw [behind, List.drop_left] at remaining
  refine ⟨left, ?_, remaining⟩
  simp [read, header, ofBigEndian_length fits, Nat.not_lt.2 fits, filled]

theorem read_ends {source : Source} {ending : Except Fault (Option (List UInt8))}
    (ends : Ends source.flatten ending) : ∃ rest, read source = (ending, rest) := by
  cases ends with
  | finished few => exact ⟨[], by simp [read, fill_of_lt [] few]⟩
  | oversized headed large =>
      obtain ⟨middle, header, _⟩ := fill_of_le [] headed
      refine ⟨middle, ?_⟩
      simp only [declared] at large ⊢
      simp [read, header, large]
  | cut headed small short =>
      obtain ⟨middle, header, behind⟩ := fill_of_le [] headed
      have missing : middle.flatten.length < declared source.flatten := by
        rw [behind, List.length_drop]
        omega
      refine ⟨[], ?_⟩
      simp only [declared] at small missing
      simp [read, header, Nat.not_lt.2 small, fill_of_lt [] missing]

/-- Reading yields the frames of a stream one by one and then how it ends. -/
theorem readMany_splits {source : Source} {payloads : List (List UInt8)} {left : List UInt8}
    {ending : Except Fault (Option (List UInt8))}
    (splits : Splits source.flatten payloads left ending) (count : Nat) :
    (readMany count source).1 = (readings payloads ending).take count := by
  induction payloads generalizing source count with
  | nil =>
      cases count with
      | zero => rfl
      | succ count =>
          have same : source.flatten = left := splits.whole
          obtain ⟨rest, told⟩ := read_ends (same ▸ splits.ends)
          cases splits.ends <;> simp [readMany, told, readings]
  | cons payload payloads inductionHypothesis =>
      cases count with
      | zero => rfl
      | succ count =>
          obtain ⟨fits, fitting⟩ := List.forall_mem_cons.1 splits.fits
          have whole := splits.whole
          rw [List.flatMap_cons, List.append_assoc] at whole
          obtain ⟨rest, told, remaining⟩ := read_frame fits whole
          have later := inductionHypothesis ⟨remaining, fitting, splits.ends⟩ count
          simp only [readMany, told, later]
          rfl

/-- What reading a stream gives settles how it splits. -/
theorem Splits.unique {stream left other : List UInt8} {payloads others : List (List UInt8)}
    {ending last : Except Fault (Option (List UInt8))} (splits : Splits stream payloads left ending)
    (again : Splits stream others other last) :
    others = payloads ∧ other = left ∧ last = ending := by
  have single : [stream].flatten = stream := List.flatten_singleton
  have taken := fun count => (readMany_splits (single.symm ▸ again) count).symm.trans
    (readMany_splits (single.symm ▸ splits) count)
  have same : readings others last = readings payloads ending := by
    have all := taken ((readings others last).length + (readings payloads ending).length)
    rwa [List.take_of_length_le (Nat.le_add_right _ _),
      List.take_of_length_le (Nat.le_add_left _ _)] at all
  obtain ⟨frames, ends⟩ := List.append_inj' same rfl
  have injective : Function.Injective fun payload : List UInt8 =>
      (.ok (some payload) : Except Fault (Option (List UInt8))) := by
    intro first second equal
    injection equal with equal
    exact Option.some.inj equal
  obtain rfl := List.map_injective_iff.2 injective frames
  injection ends with ends
  exact ⟨rfl, List.append_cancel_left (again.whole.symm.trans splits.whole), ends⟩

/-- A stream splits in one way, and reading it, in whatever pieces it comes, yields
the payloads of its frames and how it ends. -/
theorem frames_read (stream : List UInt8) :
    ∃ (payloads : List (List UInt8)) (left : List UInt8)
      (ending : Except Fault (Option (List UInt8))),
      Splits stream payloads left ending ∧
      (∀ others other last, Splits stream others other last →
        others = payloads ∧ other = left ∧ last = ending) ∧
      ∀ source : Source, source.flatten = stream → ∀ count,
        (readMany count source).1 = (readings payloads ending).take count := by
  obtain ⟨payloads, left, ending, splits⟩ := exists_splits stream
  refine ⟨payloads, left, ending, splits, fun others other last => splits.unique, ?_⟩
  rintro source rfl count
  exact readMany_splits splits count

example : (readMany 3 [[0, 0], [0, 1, 7, 0, 0, 0, 2], [5]]).1 =
    [.ok (some [7]), .error (.ofIo "early eof")] := by
  rfl

/-! Writing. -/

/-- What comes of writing a payload. -/
inductive Writes (payload : List UInt8) : Except Fault Unit → Prop where
  | tooLarge (large : Limits.message < payload.length) :
      Writes payload (.error (.payloadTooLarge payload.length Limits.message))
  | whole (fits : payload.length ≤ Limits.message) : Writes payload (.ok ())
  | cut (fits : payload.length ≤ Limits.message) : Writes payload (.error (.ofIo "write zero"))

/-- The payloads whose writing succeeded. -/
def succeeded : List (List UInt8) → List (Except Fault Unit) → List (List UInt8)
  | payload :: rest, .ok () :: outcomes => payload :: succeeded rest outcomes
  | _ :: rest, .error _ :: outcomes => succeeded rest outcomes
  | _, _ => []

/-- The frames of the payloads that are not too large. -/
def framesOf (payloads : List (List UInt8)) : List UInt8 :=
  (payloads.filter fun payload => payload.length ≤ Limits.message).flatMap encode

theorem framesOf_cons_of_le {payload : List UInt8} (fits : payload.length ≤ Limits.message)
    (rest : List (List UInt8)) : framesOf (payload :: rest) = encode payload ++ framesOf rest := by
  simp [framesOf, fits]

theorem framesOf_cons_of_lt {payload : List UInt8} (large : Limits.message < payload.length)
    (rest : List (List UInt8)) : framesOf (payload :: rest) = framesOf rest := by
  simp [framesOf, Nat.not_le.2 large]

/-- A sink takes what there is room for. -/
theorem Sink.write_limited (before bytes : List UInt8) (room : Nat) :
    (Sink.mk before (some room)).write bytes =
      (if bytes.length ≤ room then .ok () else .error (.ofIo "write zero"),
        ⟨before ++ bytes.take room, some (room - bytes.length)⟩) := by
  by_cases enough : bytes.length ≤ room
  · simp [Sink.write, enough, List.take_of_length_le enough]
  · have full : room - bytes.length = 0 := by omega
    simp [Sink.write, enough, full]

theorem write_of_lt {payload : List UInt8} (large : Limits.message < payload.length)
    (sink : Sink) :
    write sink payload = (.error (.payloadTooLarge payload.length Limits.message), sink) := by
  simp [write, checkSize, large]

theorem write_of_le {payload : List UInt8} (fits : payload.length ≤ Limits.message)
    (before : List UInt8) (room : Nat) :
    write ⟨before, some room⟩ payload =
      (if (encode payload).length ≤ room then .ok () else .error (.ofIo "write zero"),
        ⟨before ++ (encode payload).take room, some (room - (encode payload).length)⟩) := by
  have width := length_bigEndian 4 payload.length
  have size := length_encode payload
  by_cases headed : 4 ≤ room
  · have enough : payload.length ≤ room - 4 ↔ (encode payload).length ≤ room := by omega
    have left : room - 4 - payload.length = room - (encode payload).length := by omega
    simp only [write, checkSize, Nat.not_lt.2 fits, if_false, Sink.write_limited, width, headed,
      if_true, enough, left]
    simp [encode, List.take_append, List.take_of_length_le (width.trans_le headed),
      List.append_assoc]
  · have cut : ¬ (encode payload).length ≤ room := by omega
    have none : room - 4 = 0 := by omega
    have full : room - (encode payload).length = 0 := by omega
    rw [if_neg cut, full]
    simp [write, checkSize, Nat.not_lt.2 fits, Sink.write_limited, headed, none, encode,
      List.take_append]

theorem writeMany_sink (payloads : List (List UInt8)) (before : List UInt8) (room : Nat) :
    (writeMany ⟨before, some room⟩ payloads).2 =
      ⟨before ++ (framesOf payloads).take room, some (room - (framesOf payloads).length)⟩ := by
  induction payloads generalizing before room with
  | nil => simp [writeMany, framesOf]
  | cons payload rest inductionHypothesis =>
      by_cases fits : payload.length ≤ Limits.message
      · simp only [writeMany, write_of_le fits, inductionHypothesis, framesOf_cons_of_le fits,
          List.take_append, List.length_append, List.append_assoc, Nat.sub_sub]
      · have large := Nat.not_le.1 fits
        simp only [writeMany, write_of_lt large, inductionHypothesis, framesOf_cons_of_lt large]

theorem writeMany_writes (payloads : List (List UInt8)) (before : List UInt8) (room : Nat) :
    List.Forall₂ Writes payloads (writeMany ⟨before, some room⟩ payloads).1 := by
  induction payloads generalizing before room with
  | nil => exact .nil
  | cons payload rest inductionHypothesis =>
      by_cases fits : payload.length ≤ Limits.message
      · simp only [writeMany, write_of_le fits]
        refine .cons ?_ (inductionHypothesis _ _)
        split
        · exact .whole fits
        · exact .cut fits
      · have large := Nat.not_le.1 fits
        simp only [writeMany, write_of_lt large]
        exact .cons (.tooLarge large) (inductionHypothesis _ _)

/-- Nothing is written behind the end of the room. -/
theorem succeeded_full (payloads : List (List UInt8)) (before : List UInt8) :
    succeeded payloads (writeMany ⟨before, some 0⟩ payloads).1 = [] := by
  induction payloads generalizing before with
  | nil => rfl
  | cons payload rest inductionHypothesis =>
      by_cases fits : payload.length ≤ Limits.message
      · have full : ¬ (encode payload).length ≤ 0 := by rw [length_encode]; omega
        simp only [writeMany, write_of_le fits, if_neg full, Nat.zero_sub, succeeded,
          inductionHypothesis]
      · simp only [writeMany, write_of_lt (Nat.not_le.1 fits), succeeded, inductionHypothesis]

/-- The start of a frame is no frame, and not the start of one that is too large. -/
theorem ends_take {payload : List UInt8} {room : Nat} (fits : payload.length ≤ Limits.message)
    (cut : room < (encode payload).length) :
    Ends ((encode payload).take room) (if room < 4 then .ok none else .error (.ofIo "early eof")) := by
  have length : ((encode payload).take room).length = room := by
    rw [List.length_take]
    omega
  split
  · rename_i few
    exact .finished (length.trans_lt few)
  · rename_i headed
    have header : (encode payload).take 4 = bigEndian 4 payload.length :=
      List.take_left' (length_bigEndian 4 payload.length)
    have announced : declared ((encode payload).take room) = payload.length := by
      rw [declared, List.take_take, Nat.min_eq_left (Nat.not_lt.1 headed), header,
        ofBigEndian_length fits]
    rw [length_encode] at cut
    exact .cut (by omega) (announced.trans_le fits) (by omega)

theorem splits_writeMany (payloads : List (List UInt8)) (before : List UInt8) (room : Nat) :
    ∃ left ending,
      Splits ((framesOf payloads).take room)
        (succeeded payloads (writeMany ⟨before, some room⟩ payloads).1) left ending ∧
      (ending = .ok none ∨ ending = .error (.ofIo "early eof")) := by
  induction payloads generalizing before room with
  | nil => exact ⟨[], .ok none, ⟨by simp [framesOf, succeeded], nofun, .finished (by simp)⟩, .inl rfl⟩
  | cons payload rest inductionHypothesis =>
      by_cases fits : payload.length ≤ Limits.message
      · rw [framesOf_cons_of_le fits]
        by_cases enough : (encode payload).length ≤ room
        · obtain ⟨left, ending, splits, ended⟩ := inductionHypothesis
            (before ++ encode payload) (room - (encode payload).length)
          refine ⟨left, ending, ?_, ended⟩
          simp only [writeMany, write_of_le fits, if_pos enough, succeeded, List.take_append,
            List.take_of_length_le enough]
          exact splits.cons fits
        · have cut := Nat.not_le.1 enough
          have full : room - (encode payload).length = 0 := by omega
          refine ⟨_, _, ⟨?_, ?_, ends_take fits cut⟩, ?_⟩
          · simp only [writeMany, write_of_le fits, if_neg enough, full, succeeded, succeeded_full]
            rw [List.take_append_of_le_length (Nat.le_of_lt cut)]
            rfl
          · simp only [writeMany, write_of_le fits, if_neg enough, full, succeeded, succeeded_full]
            exact List.forall_mem_nil _
          · split
            · exact .inl rfl
            · exact .inr rfl
      · have large := Nat.not_le.1 fits
        rw [framesOf_cons_of_lt large]
        simp only [writeMany, write_of_lt large, succeeded]
        exact inductionHypothesis before room

/-- Wherever the room for what is written ends, reading what was written yields
exactly the payloads whose writing succeeded. -/
theorem frames_written (room : Nat) (payloads : List (List UInt8)) :
    ∃ (outcomes : List (Except Fault Unit)) (sink : Sink)
      (ending : Except Fault (Option (List UInt8))),
      writeMany { room := some room } payloads = (outcomes, sink) ∧
      List.Forall₂ Writes payloads outcomes ∧
      sink.written = (framesOf payloads).take room ∧
      (ending = .ok none ∨ ending = .error (.ofIo "early eof")) ∧
      ∀ source : Source, source.flatten = sink.written → ∀ count,
        (readMany count source).1 = (readings (succeeded payloads outcomes) ending).take count := by
  obtain ⟨left, ending, splits, ended⟩ := splits_writeMany payloads [] room
  have sunk := writeMany_sink payloads [] room
  rw [List.nil_append] at sunk
  have put : (writeMany ⟨[], some room⟩ payloads).2.written = (framesOf payloads).take room :=
    congrArg Sink.written sunk
  refine ⟨_, _, ending, rfl, writeMany_writes payloads [] room, put, ended, ?_⟩
  intro source same count
  exact readMany_splits ((same.trans put) ▸ splits) count

end Courier.Frame
