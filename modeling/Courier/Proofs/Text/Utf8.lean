import Courier.Proofs.Fault

namespace Courier.Utf8

/-! UTF-8 is read exactly.

`Sequence` lists the four shapes in which a character is written.  `front` finds
a character where such a sequence stands and nowhere else, the sequences are the
forms that `encode` writes, and so `string` accepts the UTF-8 form of each text
and no other bytes. -/

/-- The bytes of one character and the number that they spell. -/
inductive Sequence : List UInt8 → Nat → Prop where
  | one {lead : UInt8} (ascii : lead.toNat < 0x80) : Sequence [lead] lead.toNat
  | two {lead second : UInt8} (lower : 0xC2 ≤ lead.toNat) (upper : lead.toNat ≤ 0xDF)
      (follows : isContinuation second = true) :
      Sequence [lead, second] (lead.toNat % 32 * 64 + payload second)
  | three {lead second third : UInt8} (lower : 0xE0 ≤ lead.toNat) (upper : lead.toNat ≤ 0xEF)
      (follows : mayFollow lead second = true) (continues : isContinuation third = true) :
      Sequence [lead, second, third]
        (lead.toNat % 16 * 4096 + payload second * 64 + payload third)
  | four {lead second third fourth : UInt8} (lower : 0xF0 ≤ lead.toNat)
      (upper : lead.toNat ≤ 0xF4) (follows : mayFollow lead second = true)
      (continues : isContinuation third = true) (ends : isContinuation fourth = true) :
      Sequence [lead, second, third, fourth]
        (lead.toNat % 8 * 262144 + payload second * 4096 + payload third * 64 + payload fourth)

theorem within_iff {byte lower upper : UInt8} :
    (decide (lower ≤ byte) && decide (byte ≤ upper)) = true ↔
      lower.toNat ≤ byte.toNat ∧ byte.toNat ≤ upper.toNat := by
  simp [UInt8.le_iff_toNat_le]

theorem isContinuation_iff {byte : UInt8} :
    isContinuation byte = true ↔ 0x80 ≤ byte.toNat ∧ byte.toNat ≤ 0xBF :=
  within_iff

/-- A second byte is a continuation byte, and four lead bytes narrow it down. -/
theorem mayFollow_iff {lead second : UInt8} :
    mayFollow lead second = true ↔
      0x80 ≤ second.toNat ∧ second.toNat ≤ 0xBF ∧
        (lead.toNat = 0xE0 → 0xA0 ≤ second.toNat) ∧
        (lead.toNat = 0xED → second.toNat ≤ 0x9F) ∧
        (lead.toNat = 0xF0 → 0x90 ≤ second.toNat) ∧
        (lead.toNat = 0xF4 → second.toNat ≤ 0x8F) := by
  simp only [mayFollow, ← UInt8.toNat_inj]
  repeat' split
  all_goals
    simp only [isContinuation_iff, Bool.and_eq_true, decide_eq_true_eq, UInt8.le_iff_toNat_le]
    simp_all
  all_goals omega

theorem Sequence.front_append {form : List UInt8} {scalar : Nat}
    (sequence : Sequence form scalar) (rest : List UInt8) :
    front (form ++ rest) = .character (Char.ofNat scalar) rest := by
  cases sequence with
  | one ascii =>
      simp [front, UInt8.lt_iff_toNat_lt, ascii]
  | two lower upper follows =>
      have notAscii : ¬ _ < 0x80 := Nat.not_lt.2 (Nat.le_trans (by decide) lower)
      simp [front, UInt8.lt_iff_toNat_lt, UInt8.le_iff_toNat_le, notAscii, lower, upper, follows]
  | three lower upper follows continues =>
      have notAscii : ¬ _ < 0x80 := Nat.not_lt.2 (Nat.le_trans (by decide) lower)
      have notTwo : ¬ _ ≤ 0xDF := Nat.not_le.2 (Nat.le_trans (by decide) lower)
      simp [front, UInt8.lt_iff_toNat_lt, UInt8.le_iff_toNat_le, notAscii, notTwo, lower, upper,
        follows, continues]
  | four lower upper follows continues ends =>
      have notAscii : ¬ _ < 0x80 := Nat.not_lt.2 (Nat.le_trans (by decide) lower)
      have notTwo : ¬ _ ≤ 0xDF := Nat.not_le.2 (Nat.le_trans (by decide) lower)
      have notThree : ¬ _ ≤ 0xEF := Nat.not_le.2 (Nat.le_trans (by decide) lower)
      simp [front, UInt8.lt_iff_toNat_lt, UInt8.le_iff_toNat_le, notAscii, notTwo, notThree,
        lower, upper, follows, continues, ends]

/-- What `front` takes for a character is a sequence. -/
theorem sequence_of_front {remaining rest : List UInt8} {value : Char}
    (found : front remaining = .character value rest) :
    ∃ form scalar,
      Sequence form scalar ∧ remaining = form ++ rest ∧ value = Char.ofNat scalar := by
  revert found
  fun_cases front remaining with
  | case2 lead tail ascii =>
      rintro ⟨⟩
      exact ⟨_, _, .one (UInt8.lt_iff_toNat_lt.1 ascii), rfl, rfl⟩
  | case4 lead _ range second tail follows =>
      rintro ⟨⟩
      obtain ⟨lower, upper⟩ := within_iff.1 range
      exact ⟨_, _, .two lower upper follows, rfl, rfl⟩
  | case8 lead _ _ range second follows third tail continues =>
      rintro ⟨⟩
      obtain ⟨lower, upper⟩ := within_iff.1 range
      exact ⟨_, _, .three lower upper follows continues, rfl, rfl⟩
  | case14 lead _ _ _ range second follows third continues fourth tail ends =>
      rintro ⟨⟩
      obtain ⟨lower, upper⟩ := within_iff.1 range
      exact ⟨_, _, .four lower upper follows continues ends, rfl, rfl⟩
  | _ => nofun

theorem val_ofNat {scalar : Nat} (valid : scalar.isValidChar) :
    (Char.ofNat scalar).val.toNat = scalar := by
  rw [Char.ofNat, dif_pos valid]
  rfl

theorem eq_ofNat {byte : UInt8} {digits : Nat} (same : digits = byte.toNat) :
    byte = UInt8.ofNat digits := by
  rw [same, UInt8.ofNat_toNat]

/-- A sequence is the form in which the character that it spells is written. -/
theorem Sequence.eq_encodeChar {form : List UInt8} {scalar : Nat}
    (sequence : Sequence form scalar) :
    form = String.utf8EncodeChar (Char.ofNat scalar) := by
  cases sequence with
  | @one lead ascii =>
      have valid : lead.toNat.isValidChar := .inl (by omega)
      simp only [String.utf8EncodeChar, val_ofNat valid]
      rw [if_pos (by omega), UInt8.ofNat_toNat]
  | @two lead second lower upper follows =>
      have secondRange := isContinuation_iff.1 follows
      simp only [payload]
      have valid : (lead.toNat % 32 * 64 + second.toNat % 64).isValidChar := .inl (by omega)
      simp only [String.utf8EncodeChar, val_ofNat valid]
      rw [if_neg (by omega), if_pos (by omega)]
      simp only [List.cons.injEq, and_true]
      exact ⟨eq_ofNat (by omega), eq_ofNat (by omega)⟩
  | @three lead second third lower upper follows continues =>
      have secondRange := mayFollow_iff.1 follows
      have thirdRange := isContinuation_iff.1 continues
      simp only [payload]
      have valid : (lead.toNat % 16 * 4096 + second.toNat % 64 * 64 +
          third.toNat % 64).isValidChar := by
        simp only [Nat.isValidChar]
        omega
      simp only [String.utf8EncodeChar, val_ofNat valid]
      rw [if_neg (by omega), if_neg (by omega), if_pos (by omega)]
      simp only [List.cons.injEq, and_true]
      exact ⟨eq_ofNat (by omega), eq_ofNat (by omega), eq_ofNat (by omega)⟩
  | @four lead second third fourth lower upper follows continues ends =>
      have secondRange := mayFollow_iff.1 follows
      have thirdRange := isContinuation_iff.1 continues
      have fourthRange := isContinuation_iff.1 ends
      simp only [payload]
      have valid : (lead.toNat % 8 * 262144 + second.toNat % 64 * 4096 + third.toNat % 64 * 64 +
          fourth.toNat % 64).isValidChar := by
        simp only [Nat.isValidChar]
        omega
      simp only [String.utf8EncodeChar, val_ofNat valid]
      rw [if_neg (by omega), if_neg (by omega), if_neg (by omega)]
      simp only [List.cons.injEq, and_true]
      exact ⟨eq_ofNat (by omega), eq_ofNat (by omega), eq_ofNat (by omega), eq_ofNat (by omega)⟩

theorem Sequence.spelling {form : List UInt8} {number scalar : Nat}
    (sequence : Sequence form number) (same : number = scalar) : Sequence form scalar :=
  same ▸ sequence

theorem toNat_ofNat_of_lt (digits : Nat) (small : digits < 256) :
    (UInt8.ofNat digits).toNat = digits := by
  rw [UInt8.toNat_ofNat', Nat.mod_eq_of_lt small]

theorem isContinuation_digits (digits : Nat) :
    isContinuation (UInt8.ofNat (digits % 0x40 + 0x80)) = true := by
  rw [isContinuation_iff, toNat_ofNat_of_lt _ (by omega)]
  omega

theorem payload_digits (digits : Nat) :
    payload (UInt8.ofNat (digits % 0x40 + 0x80)) = digits % 0x40 := by
  rw [payload, toNat_ofNat_of_lt _ (by omega)]
  omega

/-- Every character is written as a sequence. -/
theorem sequence_encodeChar (value : Char) :
    Sequence (String.utf8EncodeChar value) value.toNat := by
  have valid := value.valid
  simp only [UInt32.isValidChar, Nat.isValidChar] at valid
  unfold String.utf8EncodeChar
  simp only [Char.toNat]
  generalize value.val.toNat = scalar at valid ⊢
  split
  · have lead := toNat_ofNat_of_lt scalar (by omega)
    exact (Sequence.one (by omega)).spelling lead
  · split
    · have lead := toNat_ofNat_of_lt (scalar / 64 % 0x20 + 0xc0) (by omega)
      refine (Sequence.two (by omega) (by omega) (isContinuation_digits scalar)).spelling ?_
      rw [lead, payload_digits]
      omega
    · split
      · have lead := toNat_ofNat_of_lt (scalar / 4096 % 0x10 + 0xe0) (by omega)
        have second := toNat_ofNat_of_lt (scalar / 64 % 0x40 + 0x80) (by omega)
        have follows := @mayFollow_iff (UInt8.ofNat (scalar / 4096 % 0x10 + 0xe0))
          (UInt8.ofNat (scalar / 64 % 0x40 + 0x80))
        rw [lead, second] at follows
        refine (Sequence.three (by omega) (by omega) (follows.2 (by omega))
          (isContinuation_digits scalar)).spelling ?_
        rw [lead, payload_digits, payload_digits]
        omega
      · have lead := toNat_ofNat_of_lt (scalar / 262144 % 0x08 + 0xf0) (by omega)
        have second := toNat_ofNat_of_lt (scalar / 4096 % 0x40 + 0x80) (by omega)
        have follows := @mayFollow_iff (UInt8.ofNat (scalar / 262144 % 0x08 + 0xf0))
          (UInt8.ofNat (scalar / 4096 % 0x40 + 0x80))
        rw [lead, second] at follows
        refine (Sequence.four (by omega) (by omega) (follows.2 (by omega))
          (isContinuation_digits _) (isContinuation_digits scalar)).spelling ?_
        rw [lead, payload_digits, payload_digits, payload_digits]
        omega

theorem front_eq_character {remaining rest : List UInt8} {value : Char} :
    front remaining = .character value rest ↔
      remaining = String.utf8EncodeChar value ++ rest := by
  constructor
  · intro found
    obtain ⟨form, scalar, sequence, shape, rfl⟩ := sequence_of_front found
    rw [shape, sequence.eq_encodeChar]
  · rintro rfl
    rw [(sequence_encodeChar value).front_append, Char.ofNat_toNat]

theorem front_eq_none {remaining : List UInt8} : front remaining = .none ↔ remaining = [] := by
  constructor
  · fun_cases front remaining with
    | case1 => exact fun _ => rfl
    | _ => nofun
  · rintro rfl
    rfl

theorem encode_cons (value : Char) (later : List Char) :
    encode (value :: later) = String.utf8EncodeChar value ++ encode later := rfl

theorem bytes_append (front back : String) : bytes (front ++ back) = bytes front ++ bytes back := by
  simp [bytes, encode, String.toList_append]

theorem length_bytes (text : String) : (bytes text).length = text.utf8ByteSize := by
  rw [← String.size_toByteArray, ← String.utf8Encode_toList, List.utf8Encode,
    List.size_toByteArray]
  rfl

theorem length_encodeChar_pos (value : Char) : 0 < (String.utf8EncodeChar value).length := by
  rw [String.length_utf8EncodeChar]
  exact value.utf8Size_pos

theorem decodeFrom_encode {count index : Nat} {read later : List Char}
    (enough : (encode later).length ≤ count) :
    decodeFrom count index read (encode later) = .ok (read.reverse ++ later) := by
  induction later generalizing count index read with
  | nil => cases count <;> simp [decodeFrom, encode, front]
  | cons value later inductionHypothesis =>
      have positive := length_encodeChar_pos value
      rw [encode_cons, List.length_append] at enough
      cases count with
      | zero => omega
      | succ count =>
          rw [decodeFrom, encode_cons, front_eq_character.2 rfl]
          simp only
          rw [inductionHypothesis (by omega)]
          simp

/-- With enough characters left to read, the end is reached or a flaw is found. -/
theorem encode_of_decodeFrom {count index : Nat} {read characters : List Char}
    {remaining : List UInt8} (enough : remaining.length ≤ count)
    (decoded : decodeFrom count index read remaining = .ok characters) :
    ∃ later, characters = read.reverse ++ later ∧ remaining = encode later := by
  induction count generalizing index read remaining with
  | zero =>
      have empty : remaining = [] := List.eq_nil_of_length_eq_zero (Nat.le_zero.1 enough)
      cases decoded
      exact ⟨[], by simp, empty⟩
  | succ count inductionHypothesis =>
      unfold decodeFrom at decoded
      cases found : front remaining with
      | none =>
          simp only [found] at decoded
          cases decoded
          exact ⟨[], by simp, front_eq_none.1 found⟩
      | character value rest =>
          have shape := front_eq_character.1 found
          have positive := length_encodeChar_pos value
          simp only [found] at decoded
          obtain ⟨later, same, encoded⟩ := inductionHypothesis (by
            rw [shape, List.length_append] at enough
            omega) decoded
          exact ⟨value :: later, by simp [same], by rw [shape, encoded, encode_cons]⟩
      | invalid length => simp [found] at decoded
      | incomplete => simp [found] at decoded

theorem string_bytes (text : String) : string (bytes text) = .ok text := by
  simp [string, decode, bytes, decodeFrom_encode (Nat.le_refl _), Except.map]

/-- The bytes that read as a text are its UTF-8 form. -/
theorem string_eq_ok {encoded : List UInt8} {text : String} :
    string encoded = .ok text ↔ encoded = bytes text := by
  constructor
  · intro read
    unfold string at read
    cases decoded : decode encoded with
    | error flaw => simp [decoded, Except.map] at read
    | ok characters =>
        obtain ⟨later, same, shape⟩ := encode_of_decodeFrom (Nat.le_refl _) decoded
        simp only [decoded, Except.map, Except.ok.injEq] at read
        simp [← read, bytes, shape, same]
  · rintro rfl
    exact string_bytes text

/-! Flaws. -/

theorem length_of_front_invalid {remaining : List UInt8} {length : Nat}
    (found : front remaining = .invalid length) : length ≤ 3 := by
  revert found
  fun_cases front remaining <;> rintro ⟨⟩ <;> decide

theorem within_of_decodeFrom {count index size : Nat} {read : List Char} {remaining : List UInt8}
    {flaw : Flaw} (inside : index + remaining.length ≤ size)
    (flawed : decodeFrom count index read remaining = .error flaw) : flaw.Within size := by
  induction count generalizing index read remaining with
  | zero => contradiction
  | succ count inductionHypothesis =>
      unfold decodeFrom at flawed
      cases found : front remaining with
      | none => simp [found] at flawed
      | character value rest =>
          simp only [found] at flawed
          refine inductionHypothesis ?_ flawed
          rw [front_eq_character.1 found, List.length_append, String.length_utf8EncodeChar] at inside
          omega
      | invalid length =>
          simp only [found] at flawed
          cases flawed
          exact ⟨length_of_front_invalid found, by omega⟩
      | incomplete =>
          simp only [found] at flawed
          cases flawed
          exact Nat.le_trans (Nat.le_add_right _ _) inside

theorem within_of_string {encoded : List UInt8} {size : Nat} {flaw : Flaw}
    (flawed : string encoded = .error flaw) (inside : encoded.length ≤ size) : flaw.Within size := by
  unfold string at flawed
  cases decoded : decode encoded with
  | ok characters => simp [decoded, Except.map] at flawed
  | error found =>
      simp only [decoded, Except.map, Except.error.injEq] at flawed
      subst flawed
      exact within_of_decodeFrom (by omega) decoded

end Courier.Utf8
