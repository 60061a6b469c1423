import Courier.Proofs.Parcel.Fields

namespace Courier.Decoder

/-! The headers of requests and replies, and optional objects. -/

variable {α : Type}

/-- A token of an interface: a policy, whichever, and a form of the name. -/
inductive TokenForm (descriptor : String) : List UInt8 → Prop where
  | token (policy : Int32) {form : List UInt8} (named : StringForm form (some descriptor)) :
      TokenForm descriptor (Wire.int32 policy ++ form)

theorem tokenForm_interfaceToken {descriptor : String}
    (bounded : (Utf8.bytes descriptor).length < 2 ^ 31) :
    TokenForm descriptor (Wire.interfaceToken descriptor) :=
  .token Limits.strictMode (stringForm_of_text bounded)

theorem takes_enforceInterface {descriptor : String} {form : List UInt8}
    (spelled : TokenForm descriptor form) : (enforceInterface descriptor).Takes form () := by
  cases spelled with
  | token policy named =>
      apply (takes_int32 policy).bind
      exact (takes_string? named).map (if_pos rfl)

theorem sound_enforceInterface {descriptor : String} :
    (enforceInterface descriptor).Sound fun form _ => TokenForm descriptor form := by
  intro before after done decoded
  obtain ⟨policy, middle, begun, decoded⟩ := bind_ok.1 decoded
  obtain ⟨_, consumed, rfl⟩ := sound_int32 begun
  obtain ⟨actual, last, read, decoded⟩ := bind_ok.1 decoded
  obtain ⟨form, consumedName, named⟩ := sound_string? read
  split at decoded
  · rename_i same
    cases decoded
    exact ⟨_, consumed.trans consumedName, .token policy (same ▸ named)⟩
  · contradiction

/-- The bytes begin with a token that names another interface, or none. -/
def Foreign (expected : String) (bytes : List UInt8) (actual : Option String) : Prop :=
  ∃ (policy : Int32) (form rest : List UInt8),
    bytes = Wire.int32 policy ++ (form ++ rest) ∧ StringForm form actual ∧ actual ≠ some expected

theorem raises_enforceInterface {expected : String} (policy : Int32) {form : List UInt8}
    {actual : Option String} (spelled : StringForm form actual) (other : actual ≠ some expected) :
    (enforceInterface expected).Raises (Wire.int32 policy ++ form)
      (.interfaceMismatch expected (actual.getD "")) := by
  apply (takes_int32 policy).bind_raises
  exact (takes_string? spelled).raises (if_neg other)

theorem enforceInterface_foreign {expected : String} {actual : Option String} {before : Cursor}
    (foreign : Foreign expected before.unread actual) :
    ∃ after, enforceInterface expected before =
      .error (.interfaceMismatch expected (actual.getD "")) after := by
  obtain ⟨policy, form, rest, unread, spelled, other⟩ := foreign
  rw [← List.append_assoc] at unread
  exact ⟨⟨_, rest⟩, raises_enforceInterface policy spelled other ⟨unread, rfl⟩⟩

/-- A token is refused for a defect, or because it names another interface. -/
theorem enforceInterface_error {expected : String} {fault : Fault} {before after : Cursor}
    (failed : enforceInterface expected before = .error fault after) :
    (∃ defect : Defect, fault = .malformed defect ∧ defect.Within before.size) ∨
      ∃ actual, Foreign expected before.unread actual ∧
        fault = .interfaceMismatch expected (actual.getD "") := by
  rcases bind_error.1 failed with failed | ⟨policy, middle, begun, failed⟩
  · exact .inl (confined_int32.blames rfl failed).2
  obtain ⟨kept, _⟩ := confined_int32.keeps rfl begun
  rcases bind_error.1 failed with failed | ⟨actual, last, named, refused⟩
  · exact .inl (confined_string?.blames kept failed).2
  obtain ⟨_, ⟨unread, _⟩, rfl⟩ := sound_int32 begun
  obtain ⟨form, ⟨unreadName, _⟩, spelled⟩ := sound_string? named
  split at refused
  · contradiction
  · rename_i other
    cases refused
    exact .inr ⟨actual, ⟨policy, form, _, by rw [unread, unreadName], spelled, other⟩, rfl⟩

theorem size_of_enforceInterface {expected : String} {before after : Cursor}
    (passed : enforceInterface expected before = .ok () after) : after.size = before.size := by
  obtain ⟨form, consumed, _⟩ := sound_enforceInterface passed
  exact consumed.size_eq

theorem confined_typed {size : Nat} {object : Decoder α}
    (confined : Confined size object fun _ => True) :
    Confined size (typed object) fun _ => True := by
  refine confined_int32.bind fun present _ => ?_
  split
  · exact confined_pure trivial
  · exact confined.bind fun _ _ => confined_pure trivial

/-- A word that is zero, or any other and an object behind it. -/
inductive TypedForm (Form : List UInt8 → α → Prop) : List UInt8 → Option α → Prop where
  | absent : TypedForm Form (Wire.int32 0) none
  | present {word : Int32} {form : List UInt8} {value : α} (nonzero : word ≠ 0)
      (spelled : Form form value) : TypedForm Form (Wire.int32 word ++ form) (some value)

variable {object : Decoder α} {Form : List UInt8 → α → Prop}

theorem takes_typed (takes : ∀ form value, Form form value → object.Takes form value)
    {form : List UInt8} {value : Option α} (spelled : TypedForm Form form value) :
    (typed object).Takes form value := by
  cases spelled with
  | absent => exact (takes_int32 0).map rfl
  | @present word form value nonzero spelled =>
      apply (takes_int32 word).bind
      rw [if_neg nonzero]
      exact (takes form value spelled).map rfl

theorem sound_typed (sound : object.Sound Form) : (typed object).Sound (TypedForm Form) := by
  intro before after value decoded
  obtain ⟨word, middle, begun, ended⟩ := bind_ok.1 decoded
  obtain ⟨_, consumed, rfl⟩ := sound_int32 begun
  split at ended
  · rename_i zero
    cases ended
    exact ⟨_, consumed, zero ▸ .absent⟩
  · rename_i nonzero
    obtain ⟨form, consumedObject, read, rfl, spelled⟩ := sound.map some ended
    exact ⟨_, consumed.trans consumedObject, .present nonzero spelled⟩

theorem takes_noException : exception.Takes Wire.noException () :=
  (takes_int32 0).map rfl

/-- No other header is taken for that of a reply without an exception. -/
theorem exception_eq_ok {before after : Cursor} :
    exception before = .ok () after ↔ before.Consumes Wire.noException after := by
  constructor
  · intro decoded
    obtain ⟨code, middle, begun, ended⟩ := bind_ok.1 decoded
    obtain ⟨header, consumed, rfl⟩ := sound_int32 begun
    split at ended
    · rename_i none
      cases ended
      rwa [none] at consumed
    · obtain ⟨message, last, _, raised⟩ := bind_ok.1 ended
      contradiction
  · exact fun consumed => takes_noException consumed

theorem exception_ne_ok {fault : Fault} (listed : fault.exceptionCode ≠ 0) {before after : Cursor}
    {rest : List UInt8} (unread : before.unread = Wire.exception fault ++ rest) :
    exception before ≠ .ok () after := by
  intro decoded
  have none := takes_int32 0 (exception_eq_ok.1 decoded)
  have coded : before.Consumes (Wire.int32 fault.exceptionCode)
      ⟨before.offset + 4, Wire.string fault.message ++ rest⟩ := by
    rw [Wire.exception, List.append_assoc] at unread
    exact ⟨unread, rfl⟩
  rw [takes_int32 _ coded] at none
  injection none with same
  exact listed same

/-- A fault is raised from the header of a reply as a remote one. -/
theorem raises_exception {fault : Fault} (listed : fault.exceptionCode ≠ 0)
    (bounded : (Utf8.bytes fault.message).length < 2 ^ 31) :
    exception.Raises (Wire.exception fault) (.remote fault.exceptionCode fault.message) := by
  apply (takes_int32 _).bind_raises
  rw [if_neg listed]
  exact (takes_string? (stringForm_of_text bounded)).raises rfl

end Courier.Decoder
