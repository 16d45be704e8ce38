import Mathlib.Data.Nat.Bitwise
import Mathlib.Data.UInt

/-
  Unsigned numbers as a fixed number of bytes, the least
  significant byte first.
-/

/- The low `count` bytes of a number. -/
def littleEndian : Nat → Nat → List UInt8
| 0, _ => []
| count + 1, value => UInt8.ofNat (value &&& 0xFF) :: littleEndian count (value >>> 8)

/- The number some bytes spell. -/
def ofLittleEndian : List UInt8 → Nat
| [] => 0
| byte :: rest => byte.toNat ||| (ofLittleEndian rest <<< 8)

@[simp] theorem length_littleEndian (count value : Nat) :
    (littleEndian count value).length = count := by
  induction count generalizing value with
  | zero => rfl
  | succ count ih => rw [littleEndian, List.length_cons, ih]

/- A byte below a shifted number adds to it. -/
theorem or_shiftLeft_eight (byte : UInt8) (value : Nat) :
    byte.toNat ||| (value <<< 8) = 256 * value + byte.toNat := by
  have hByte : byte.toNat < 2 ^ 8 := byte.toNat_lt
  rw [Nat.or_comm, Nat.shiftLeft_eq, Nat.mul_comm, ← Nat.two_pow_add_eq_or_of_lt hByte]

/- Written bytes spell the number, up to their width. -/
theorem ofLittleEndian_littleEndian (count value : Nat) :
    ofLittleEndian (littleEndian count value) = value % 256 ^ count := by
  induction count generalizing value with
  | zero => rw [Nat.pow_zero, Nat.mod_one]; rfl
  | succ count ih =>
    have hLow : (UInt8.ofNat (value &&& 0xFF)).toNat = value % 256 := by
      rw [UInt8.toNat_ofNat', Nat.and_two_pow_sub_one_eq_mod value 8]
      exact Nat.mod_mod value 256
    have hWidth : 256 ^ (count + 1) = 256 * 256 ^ count := Nat.pow_succ'
    rw [littleEndian, ofLittleEndian, or_shiftLeft_eight,
      ih, hLow, Nat.shiftRight_eq_div_pow, hWidth, Nat.mod_mul]
    exact Nat.add_comm _ _

/- A number that fits its width is read back. -/
theorem ofLittleEndian_of_lt (count value : Nat) (hFits : value < 256 ^ count) :
    ofLittleEndian (littleEndian count value) = value := by
  rw [ofLittleEndian_littleEndian]
  exact Nat.mod_eq_of_lt hFits

/- Bytes spell a number that fits their count. -/
theorem ofLittleEndian_lt (bytes : List UInt8) : ofLittleEndian bytes < 256 ^ bytes.length := by
  induction bytes with
  | nil => simp [ofLittleEndian]
  | cons byte rest ih =>
    have hByte := byte.toNat_lt
    rw [ofLittleEndian, or_shiftLeft_eight, List.length_cons, Nat.pow_succ']
    omega

/- The bytes of a number are the bytes that spell it. -/
theorem littleEndian_ofLittleEndian (bytes : List UInt8) :
    littleEndian bytes.length (ofLittleEndian bytes) = bytes := by
  induction bytes with
  | nil => rfl
  | cons byte rest ih =>
    have hByte : byte.toNat < 256 := byte.toNat_lt
    have hLow : (256 * ofLittleEndian rest + byte.toNat) &&& 0xFF = byte.toNat := by
      rw [Nat.and_two_pow_sub_one_eq_mod _ 8]
      omega
    have hHigh : (256 * ofLittleEndian rest + byte.toNat) >>> 8 = ofLittleEndian rest := by
      rw [Nat.shiftRight_eq_div_pow]
      omega
    rw [List.length_cons, littleEndian, ofLittleEndian, or_shiftLeft_eight, hLow, hHigh, ih,
      UInt8.ofNat_toNat]
