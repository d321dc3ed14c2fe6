/-
  Realm.Bytes.LittleEndian — numbers as byte lists of fixed width, least significant byte first.

  Main statements:
  * `ofLittleEndian_littleEndian` — reading back gives the number modulo what `width` bytes can tell
    apart;
  * `littleEndian_ofLittleEndian` — every byte list is the written form of the number it reads as.
-/

namespace Realm

/-- The `width` low base-256 digits of `n`, least significant first. -/
def littleEndian : Nat → Nat → List UInt8
  | 0, _ => []
  | width + 1, n => UInt8.ofNat n :: littleEndian width (n / 256)

/-- The number whose base-256 digits are `bytes`, least significant first. -/
def ofLittleEndian : List UInt8 → Nat
  | [] => 0
  | b :: rest => b.toNat + 256 * ofLittleEndian rest

/-- How many numbers `width` bytes tell apart. -/
def capacity : Nat → Nat
  | 0 => 1
  | width + 1 => 256 * capacity width

@[simp] theorem length_littleEndian (width n : Nat) : (littleEndian width n).length = width := by
  induction width generalizing n with
  | zero => rfl
  | succ w ih => simp [littleEndian, ih]

/-- **Reading back.**  A number below the capacity survives; a larger one loses its high part. -/
theorem ofLittleEndian_littleEndian (width n : Nat) :
    ofLittleEndian (littleEndian width n) = n % capacity width := by
  induction width generalizing n with
  | zero => simp [littleEndian, ofLittleEndian, capacity, Nat.mod_one]
  | succ w ih =>
    have h : n % capacity (w + 1) = n % 256 + 256 * (n / 256 % capacity w) := by
      rw [capacity, Nat.mod_mul]
    simp only [littleEndian, ofLittleEndian, ih, h]
    simp

theorem ofLittleEndian_lt (bytes : List UInt8) : ofLittleEndian bytes < capacity bytes.length := by
  induction bytes with
  | nil => simp [ofLittleEndian, capacity]
  | cons b rest ih =>
    have hb := b.toNat_lt
    simp only [ofLittleEndian, List.length_cons, capacity]
    omega

/-- So many bytes spell one of the numbers that they tell apart. -/
theorem ofLittleEndian_lt_capacity {bytes : List UInt8} {width : Nat} (h : bytes.length = width) :
    ofLittleEndian bytes < capacity width := by
  rw [← h]
  exact ofLittleEndian_lt bytes

/-- **Canonical form.**  A byte list is the written form of its own value. -/
theorem littleEndian_ofLittleEndian (bytes : List UInt8) :
    littleEndian bytes.length (ofLittleEndian bytes) = bytes := by
  induction bytes with
  | nil => rfl
  | cons b rest ih =>
    have hb := b.toNat_lt
    have hdiv : (b.toNat + 256 * ofLittleEndian rest) / 256 = ofLittleEndian rest := by omega
    have hlow : UInt8.ofNat (b.toNat + 256 * ofLittleEndian rest) = b := by
      apply UInt8.toNat_inj.mp
      simp
    simp only [List.length_cons, littleEndian, ofLittleEndian, hdiv, ih, hlow]

end Realm
