import Courier.Parcel.Decoder
import Courier.Proofs.Fault

namespace Courier

/-! What decoders take.

`Takes` says that a decoder reads a value off certain bytes, whatever stands
before and behind them, and `Sound` that it reads values off nothing but their
forms.  `Confined` says that it stays within the bytes and fails with nothing but
what is wrong with them, and `Rejects` that it fails on certain bytes, whatever
stands before and behind them.  All four go through sequences and repetitions of
decoders.  `Raises` says of a decoder that it fails behind the bytes it took. -/

/-- `form` stands at the front of the unread bytes, and `after` is behind it. -/
def Cursor.Consumes (before : Cursor) (form : List UInt8) (after : Cursor) : Prop :=
  before.unread = form ++ after.unread ∧ after.offset = before.offset + form.length

namespace Cursor

/-- How many bytes there are, before the cursor and behind it. -/
def size (cursor : Cursor) : Nat :=
  cursor.offset + cursor.unread.length

variable {before middle after : Cursor} {first later : List UInt8}

theorem Consumes.refl (cursor : Cursor) : cursor.Consumes [] cursor :=
  ⟨rfl, rfl⟩

theorem Consumes.trans (begun : before.Consumes first middle) (ended : middle.Consumes later after) :
    before.Consumes (first ++ later) after := by
  constructor
  · rw [begun.1, ended.1, List.append_assoc]
  · rw [ended.2, begun.2, List.length_append, Nat.add_assoc]

theorem Consumes.split (consumed : before.Consumes (first ++ later) after) :
    ∃ middle : Cursor, before.Consumes first middle ∧ middle.Consumes later after := by
  refine ⟨⟨before.offset + first.length, later ++ after.unread⟩, ⟨?_, rfl⟩, rfl, ?_⟩
  · rw [consumed.1, List.append_assoc]
  · rw [consumed.2, List.length_append, Nat.add_assoc]

theorem Consumes.size_eq (consumed : before.Consumes first after) : after.size = before.size := by
  rw [size, size, consumed.1, consumed.2, List.length_append]
  omega

theorem Consumes.eq_of_nil (consumed : before.Consumes [] after) : before = after := by
  cases before
  cases after
  obtain ⟨unread, moved⟩ := consumed
  simp_all

end Cursor

namespace Decoder

variable {α β : Type} {Blames : Defect → Prop}

/-- The decoder takes exactly `form`, wherever that stands, and yields `value`. -/
def Takes (decoder : Decoder α) (form : List UInt8) (value : α) : Prop :=
  ∀ ⦃before after : Cursor⦄, before.Consumes form after → decoder before = .ok value after

/-- A value that the decoder yields stands in one of its forms at the front of
what was unread, and exactly that form is consumed. -/
def Sound (decoder : Decoder α) (Form : List UInt8 → α → Prop) : Prop :=
  ∀ ⦃before after : Cursor⦄ ⦃value : α⦄, decoder before = .ok value after →
    ∃ form, before.Consumes form after ∧ Form form value

/-- In a parcel of `size` bytes the decoder stays within the bytes.  Its values are
as they should be, and it fails only with a defect that lies within the bytes. -/
structure Confined (size : Nat) (decoder : Decoder α) (Yields : α → Prop) : Prop where
  keeps : ∀ ⦃before after : Cursor⦄ ⦃value : α⦄, before.size = size →
    decoder before = .ok value after → after.size = size ∧ Yields value
  blames : ∀ ⦃before after : Cursor⦄ ⦃fault : Fault⦄, before.size = size →
    decoder before = .error fault after →
    after.size = size ∧ ∃ defect : Defect, fault = .malformed defect ∧ defect.Within size

/-- The decoder takes exactly `form`, wherever that stands, and fails with `fault`. -/
def Raises (decoder : Decoder α) (form : List UInt8) (fault : Fault) : Prop :=
  ∀ ⦃before after : Cursor⦄, before.Consumes form after → decoder before = .error fault after

/-- From the cursor on the decoder fails with a defect that `Blames` holds of. -/
def Fails (decoder : Decoder α) (before : Cursor) (Blames : Defect → Prop) : Prop :=
  ∃ defect stop, decoder before = .error (.malformed defect) stop ∧ Blames defect

/-- Wherever `form` stands, the decoder fails with a defect that `Blames` holds of. -/
def Rejects (decoder : Decoder α) (form : List UInt8) (Blames : Defect → Prop) : Prop :=
  ∀ ⦃before after : Cursor⦄, before.Consumes form after → decoder.Fails before Blames

/-- Forms one behind the other. -/
inductive Forms (Form : List UInt8 → α → Prop) : List UInt8 → List α → Prop where
  | nil : Forms Form [] []
  | cons {first later : List UInt8} {value : α} {values : List α} (head : Form first value)
      (tail : Forms Form later values) : Forms Form (first ++ later) (value :: values)

theorem Forms.imp {Form Other : List UInt8 → α → Prop} {form : List UInt8} {values : List α}
    (forms : Forms Form form values) (weaken : ∀ form value, Form form value → Other form value) :
    Forms Other form values := by
  induction forms with
  | nil => exact .nil
  | cons head tail inductionHypothesis => exact .cons (weaken _ _ head) inductionHypothesis

/-! Sequences. -/

theorem bind_ok {decoder : Decoder α} {next : α → Decoder β} {before after : Cursor} {value : β} :
    (decoder >>= next) before = .ok value after ↔
      ∃ first middle, decoder before = .ok first middle ∧ next first middle = .ok value after := by
  change EStateM.bind decoder next before = _ ↔ _
  unfold EStateM.bind
  cases decoder before <;> simp [and_assoc]

theorem bind_error {decoder : Decoder α} {next : α → Decoder β} {before after : Cursor}
    {fault : Fault} :
    (decoder >>= next) before = .error fault after ↔
      decoder before = .error fault after ∨
        ∃ first middle, decoder before = .ok first middle ∧
          next first middle = .error fault after := by
  change EStateM.bind decoder next before = _ ↔ _
  unfold EStateM.bind
  cases decoder before <;> simp [and_assoc]

theorem takes_pure (value : α) : Takes (pure value) [] value := by
  intro before after consumed
  rw [consumed.eq_of_nil]
  rfl

theorem Takes.bind {decoder : Decoder α} {next : α → Decoder β} {first later : List UInt8}
    {read : α} {value : β} (taken : decoder.Takes first read)
    (goesOn : (next read).Takes later value) :
    (decoder >>= next).Takes (first ++ later) value := by
  intro before after consumed
  obtain ⟨middle, begun, ended⟩ := consumed.split
  exact bind_ok.2 ⟨read, middle, taken begun, goesOn ended⟩

/-- A pure step at the end takes nothing more. -/
theorem Takes.map {decoder : Decoder α} {next : α → Decoder β} {form : List UInt8} {read : α}
    {value : β} (taken : decoder.Takes form read) (yields : next read = pure value) :
    (decoder >>= next).Takes form value := by
  have pureLast : (next read).Takes [] value := yields ▸ takes_pure value
  have ended := taken.bind pureLast
  rwa [List.append_nil] at ended

/-- A step that fails at the end takes nothing more. -/
theorem Takes.raises {decoder : Decoder α} {next : α → Decoder β} {form : List UInt8} {read : α}
    {fault : Fault} (taken : decoder.Takes form read) (failed : next read = throw fault) :
    (decoder >>= next).Raises form fault := by
  intro before after consumed
  refine bind_error.2 (.inr ⟨read, after, taken consumed, ?_⟩)
  rw [failed]
  rfl

theorem Takes.bind_raises {decoder : Decoder α} {next : α → Decoder β} {first later : List UInt8}
    {read : α} {fault : Fault} (taken : decoder.Takes first read)
    (raised : (next read).Raises later fault) : (decoder >>= next).Raises (first ++ later) fault := by
  intro before after consumed
  obtain ⟨middle, begun, ended⟩ := consumed.split
  exact bind_error.2 (.inr ⟨read, middle, taken begun, raised ended⟩)

theorem Sound.bind {decoder : Decoder α} {next : α → Decoder β}
    {First : List UInt8 → α → Prop} {Later : α → List UInt8 → β → Prop}
    (sound : decoder.Sound First) (goesOn : ∀ read, (next read).Sound (Later read)) :
    (decoder >>= next).Sound fun form value =>
      ∃ first later read, form = first ++ later ∧ First first read ∧ Later read later value := by
  intro before after value decoded
  obtain ⟨read, middle, begun, ended⟩ := bind_ok.1 decoded
  obtain ⟨first, consumed, spelled⟩ := sound begun
  obtain ⟨later, consumedLater, spelledLater⟩ := goesOn read ended
  exact ⟨first ++ later, consumed.trans consumedLater, first, later, read, rfl, spelled,
    spelledLater⟩

theorem sound_pure (value : α) : Sound (pure value) fun form read => form = [] ∧ read = value := by
  intro before after read decoded
  cases decoded
  exact ⟨[], .refl _, rfl, rfl⟩

theorem Sound.imp {decoder : Decoder α} {Form Other : List UInt8 → α → Prop}
    (sound : decoder.Sound Form) (weaken : ∀ form value, Form form value → Other form value) :
    decoder.Sound Other := by
  intro before after value decoded
  obtain ⟨form, consumed, spelled⟩ := sound decoded
  exact ⟨form, consumed, weaken form value spelled⟩

theorem Sound.map {decoder : Decoder α} {Form : List UInt8 → α → Prop}
    (sound : decoder.Sound Form)
    (make : α → β) :
    (do let read ← decoder
        return make read).Sound fun form value => ∃ read, value = make read ∧ Form form read := by
  refine (sound.bind fun read => sound_pure (make read)).imp ?_
  rintro form value ⟨first, later, read, rfl, spelled, rfl, rfl⟩
  exact ⟨read, rfl, by rwa [List.append_nil]⟩

theorem Confined.bind {size : Nat} {decoder : Decoder α} {next : α → Decoder β}
    {First : α → Prop} {Later : β → Prop} (confined : Confined size decoder First)
    (goesOn : ∀ read, First read → Confined size (next read) Later) :
    Confined size (decoder >>= next) Later := by
  constructor
  · intro before after value whole decoded
    obtain ⟨read, middle, begun, ended⟩ := bind_ok.1 decoded
    obtain ⟨kept, yielded⟩ := confined.keeps whole begun
    exact (goesOn read yielded).keeps kept ended
  · intro before after fault whole failed
    rcases bind_error.1 failed with failed | ⟨read, middle, begun, failed⟩
    · exact confined.blames whole failed
    · obtain ⟨kept, yielded⟩ := confined.keeps whole begun
      exact (goesOn read yielded).blames kept failed

theorem confined_pure {size : Nat} {value : α} {Yields : α → Prop} (yields : Yields value) :
    Confined size (pure value) Yields := by
  constructor
  · intro before after read whole decoded
    cases decoded
    exact ⟨whole, yields⟩
  · intro before after fault whole failed
    cases failed

theorem confined_fail {size : Nat} {Yields : α → Prop} (defect : Defect)
    (within : defect.Within size) : Confined size (fail defect) Yields := by
  constructor
  · intro before after read whole decoded
    cases decoded
  · intro before after fault whole failed
    cases failed
    exact ⟨whole, defect, rfl, within⟩

theorem fails_fail {defect : Defect} (before : Cursor) (blamed : Blames defect) :
    (fail defect : Decoder α).Fails before Blames :=
  ⟨defect, before, rfl, blamed⟩

theorem Fails.bind {decoder : Decoder α} {before : Cursor} (failed : decoder.Fails before Blames)
    (next : α → Decoder β) : (decoder >>= next).Fails before Blames := by
  obtain ⟨defect, stop, failed, blamed⟩ := failed
  exact ⟨defect, stop, bind_error.2 (.inl failed), blamed⟩

theorem Fails.after {decoder : Decoder α} {next : α → Decoder β} {before middle : Cursor}
    {read : α} (begun : decoder before = .ok read middle)
    (failed : (next read).Fails middle Blames) : (decoder >>= next).Fails before Blames := by
  obtain ⟨defect, stop, failed, blamed⟩ := failed
  exact ⟨defect, stop, bind_error.2 (.inr ⟨read, middle, begun, failed⟩), blamed⟩

theorem Rejects.bind {decoder : Decoder α} {form : List UInt8}
    (rejected : decoder.Rejects form Blames) (next : α → Decoder β) :
    (decoder >>= next).Rejects form Blames :=
  fun _ _ consumed => (rejected consumed).bind next

theorem Takes.bind_rejects {decoder : Decoder α} {next : α → Decoder β}
    {first later : List UInt8} {read : α} (taken : decoder.Takes first read)
    (rejected : (next read).Rejects later Blames) :
    (decoder >>= next).Rejects (first ++ later) Blames := by
  intro before after consumed
  obtain ⟨middle, begun, ended⟩ := consumed.split
  exact .after (taken begun) (rejected ended)

/-! Repetitions. -/

theorem repeatFrom_succ (item : Decoder α) (count : Nat) (read : List α) :
    repeatFrom item (count + 1) read =
      item >>= fun value => repeatFrom item count (value :: read) := by
  funext before
  change _ = EStateM.bind item _ before
  unfold EStateM.bind
  rw [repeatFrom]
  cases item before <;> rfl

theorem Forms.takes_repeatFrom {item : Decoder α} {form : List UInt8} {values : List α}
    (forms : Forms item.Takes form values) (read : List α) :
    (repeatFrom item values.length read).Takes form (read.reverse ++ values) := by
  induction forms generalizing read with
  | nil =>
      intro before after consumed
      rw [consumed.eq_of_nil, List.append_nil]
      rfl
  | @cons first later value values head tail inductionHypothesis =>
      intro before after consumed
      obtain ⟨middle, begun, ended⟩ := consumed.split
      rw [List.length_cons, repeatFrom, head begun]
      simp only [inductionHypothesis (value :: read) ended, List.reverse_cons, List.append_assoc,
        List.cons_append, List.nil_append]

theorem Forms.takes {item : Decoder α} {form : List UInt8} {values : List α}
    (forms : Forms item.Takes form values) : (repeated values.length item).Takes form values :=
  forms.takes_repeatFrom []

theorem sound_repeatFrom {item : Decoder α} {Form : List UInt8 → α → Prop}
    (sound : item.Sound Form)
    (count : Nat) (read : List α) :
    (repeatFrom item count read).Sound fun form values =>
      ∃ later, values = read.reverse ++ later ∧ later.length = count ∧ Forms Form form later := by
  induction count generalizing read with
  | zero =>
      intro before after values decoded
      cases decoded
      exact ⟨[], .refl _, [], by simp, rfl, .nil⟩
  | succ count inductionHypothesis =>
      intro before after values decoded
      cases begun : item before with
      | error fault middle => simp [repeatFrom, begun] at decoded
      | ok value middle =>
          simp only [repeatFrom, begun] at decoded
          obtain ⟨first, consumed, spelled⟩ := sound begun
          obtain ⟨rest, consumedRest, later, same, counted, forms⟩ :=
            inductionHypothesis (value :: read) decoded
          refine ⟨first ++ rest, consumed.trans consumedRest, value :: later, ?_, ?_,
            .cons spelled forms⟩
          · simp [same]
          · rw [List.length_cons, counted]

theorem sound_repeated {item : Decoder α} {Form : List UInt8 → α → Prop} (sound : item.Sound Form)
    (count : Nat) :
    (repeated count item).Sound fun form values =>
      values.length = count ∧ Forms Form form values := by
  refine (sound_repeatFrom sound count []).imp ?_
  rintro form values ⟨later, rfl, counted, forms⟩
  exact ⟨counted, forms⟩

theorem confined_repeatFrom {size : Nat} {item : Decoder α} {Yields : α → Prop}
    (confined : Confined size item Yields) (count : Nat) (read : List α) :
    Confined size (repeatFrom item count read) fun _ => True := by
  induction count generalizing read with
  | zero => exact confined_pure trivial
  | succ count inductionHypothesis =>
      rw [repeatFrom_succ]
      exact confined.bind fun value _ => inductionHypothesis (value :: read)

theorem confined_repeated {size : Nat} {item : Decoder α} {Yields : α → Prop}
    (confined : Confined size item Yields) (count : Nat) :
    Confined size (repeated count item) fun _ => True :=
  confined_repeatFrom confined count []

/-- Every item takes its share of the form of all. -/
theorem Forms.length_mul_le {Form : List UInt8 → α → Prop} {form : List UInt8} {values : List α}
    {width : Nat} (forms : Forms Form form values)
    (wide : ∀ form value, Form form value → width ≤ form.length) :
    values.length * width ≤ form.length := by
  induction forms with
  | nil => simp
  | cons head tail inductionHypothesis =>
      have first := wide _ _ head
      rw [List.length_cons, List.length_append, Nat.add_mul]
      omega

/-- A reader that gets through all items reads one behind any fewer of them. -/
theorem repeatFrom_goes_on {item : Decoder α} {fewer count : Nat} (inside : fewer < count)
    {read some all : List α} {before middle after : Cursor}
    (begun : repeatFrom item fewer read before = .ok some middle)
    (ended : repeatFrom item count read before = .ok all after) :
    ∃ value next, item middle = .ok value next := by
  induction fewer generalizing count read before with
  | zero =>
      cases begun
      obtain ⟨count, rfl⟩ := Nat.exists_eq_succ_of_ne_zero (Nat.ne_of_gt inside)
      rw [repeatFrom_succ] at ended
      obtain ⟨value, next, decoded, _⟩ := bind_ok.1 ended
      exact ⟨value, next, decoded⟩
  | succ fewer inductionHypothesis =>
      obtain ⟨count, rfl⟩ := Nat.exists_eq_succ_of_ne_zero (Nat.ne_zero_of_lt inside)
      rw [repeatFrom_succ] at begun ended
      obtain ⟨value, next, decoded, begun⟩ := bind_ok.1 begun
      obtain ⟨again, also, decodedAgain, ended⟩ := bind_ok.1 ended
      cases decoded.symm.trans decodedAgain
      exact inductionHypothesis (Nat.lt_of_succ_lt_succ inside) begun ended

/-- So many items stand one behind the other, and the next one is rejected. -/
inductive Interrupted (item : Decoder α) (Blames : Defect → Prop) :
    (finished : Nat) → List UInt8 → Prop where
  | here {form : List UInt8} (rejected : item.Rejects form Blames) : Interrupted item Blames 0 form
  | beyond {later : Nat} {first form : List UInt8} {value : α} (taken : item.Takes first value)
      (tail : Interrupted item Blames later form) :
      Interrupted item Blames (later + 1) (first ++ form)

/-- A reader of more items fails at the rejected one. -/
theorem Interrupted.fails_repeatFrom {item : Decoder α} {finished count : Nat} {form : List UInt8}
    (interrupted : Interrupted item Blames finished form) (inside : finished < count)
    (read : List α) {before after : Cursor} (consumed : before.Consumes form after) :
    (repeatFrom item count read).Fails before Blames := by
  induction interrupted generalizing count read before with
  | here rejected =>
      obtain ⟨count, rfl⟩ := Nat.exists_eq_succ_of_ne_zero (Nat.ne_of_gt inside)
      rw [repeatFrom_succ]
      exact (rejected consumed).bind _
  | beyond taken tail inductionHypothesis =>
      obtain ⟨count, rfl⟩ := Nat.exists_eq_succ_of_ne_zero (Nat.ne_zero_of_lt inside)
      obtain ⟨middle, begun, ended⟩ := consumed.split
      rw [repeatFrom_succ]
      exact .after (taken begun) (inductionHypothesis (Nat.lt_of_succ_lt_succ inside) _ ended)

/-- A reader of no more items than stand there gets through. -/
theorem Interrupted.repeatFrom_ok {item : Decoder α} {finished count : Nat} {form : List UInt8}
    (interrupted : Interrupted item Blames finished form) (short : count ≤ finished)
    (read : List α) {before after : Cursor} (consumed : before.Consumes form after) :
    ∃ items middle, repeatFrom item count read before = .ok items middle ∧
      before.offset ≤ middle.offset := by
  induction interrupted generalizing count read before with
  | here rejected =>
      obtain rfl := Nat.le_zero.1 short
      exact ⟨read.reverse, before, rfl, Nat.le_refl _⟩
  | beyond taken tail inductionHypothesis =>
      cases count with
      | zero => exact ⟨read.reverse, before, rfl, Nat.le_refl _⟩
      | succ count =>
          obtain ⟨middle, begun, ended⟩ := consumed.split
          obtain ⟨items, last, decoded, forward⟩ :=
            inductionHypothesis (Nat.le_of_succ_le_succ short) (_ :: read) ended
          rw [repeatFrom_succ]
          refine ⟨items, last, bind_ok.2 ⟨_, middle, taken begun, decoded⟩, ?_⟩
          rw [begun.2] at forward
          exact Nat.le_of_add_right_le forward

end Decoder

end Courier
