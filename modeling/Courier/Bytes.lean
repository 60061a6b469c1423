namespace Courier

/-! Numbers as bytes of a fixed width.

Every word of a parcel is written lowest digit first and every word of a frame
header highest digit first.  Both orders come from `littleEndian`, which keeps
the lowest `width` base-256 digits of a number: its remainder by `span width`. -/

/-- How many numbers have `width` base-256 digits. -/
def span : (width : Nat) → Nat
  | 0 => 1
  | width + 1 => 256 * span width

/-- The lowest `width` base-256 digits of `value`, lowest first. -/
def littleEndian : (width value : Nat) → List UInt8
  | 0, _ => []
  | width + 1, value => UInt8.ofNat value :: littleEndian width (value / 256)

def ofLittleEndian : List UInt8 → Nat
  | [] => 0
  | byte :: rest => byte.toNat + 256 * ofLittleEndian rest

/-- The lowest `width` base-256 digits of `value`, highest first. -/
def bigEndian (width value : Nat) : List UInt8 :=
  (littleEndian width value).reverse

def ofBigEndian (bytes : List UInt8) : Nat :=
  ofLittleEndian bytes.reverse

@[simp] theorem length_littleEndian (width value : Nat) :
    (littleEndian width value).length = width := by
  induction width generalizing value with
  | zero => rfl
  | succ width inductionHypothesis =>
      simp [littleEndian, inductionHypothesis]

@[simp] theorem length_bigEndian (width value : Nat) :
    (bigEndian width value).length = width := by
  simp [bigEndian]

theorem ofLittleEndian_littleEndian (width value : Nat) :
    ofLittleEndian (littleEndian width value) = value % span width := by
  induction width generalizing value with
  | zero => simp [littleEndian, ofLittleEndian, span, Nat.mod_one]
  | succ width inductionHypothesis =>
      rw [littleEndian, ofLittleEndian, inductionHypothesis, span, Nat.mod_mul]
      simp

theorem ofLittleEndian_lt (bytes : List UInt8) :
    ofLittleEndian bytes < span bytes.length := by
  induction bytes with
  | nil => simp [ofLittleEndian, span]
  | cons byte rest inductionHypothesis =>
      have byteBound := byte.toNat_lt
      simp only [ofLittleEndian, List.length_cons, span]
      omega

theorem littleEndian_ofLittleEndian (bytes : List UInt8) :
    littleEndian bytes.length (ofLittleEndian bytes) = bytes := by
  induction bytes with
  | nil => rfl
  | cons byte rest inductionHypothesis =>
      have byteBound := byte.toNat_lt
      have quotient :
          (byte.toNat + 256 * ofLittleEndian rest) / 256 = ofLittleEndian rest := by
        omega
      rw [List.length_cons, ofLittleEndian, littleEndian, quotient, inductionHypothesis]
      congr 1
      apply UInt8.toNat.inj
      simp

theorem ofBigEndian_bigEndian (width value : Nat) :
    ofBigEndian (bigEndian width value) = value % span width := by
  simp [ofBigEndian, bigEndian, ofLittleEndian_littleEndian]

theorem bigEndian_ofBigEndian (bytes : List UInt8) :
    bigEndian bytes.length (ofBigEndian bytes) = bytes := by
  have recovered := littleEndian_ofLittleEndian bytes.reverse
  rw [List.length_reverse] at recovered
  simp [bigEndian, ofBigEndian, recovered]

end Courier
