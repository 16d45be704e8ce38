import TrafficFabric.Wire.Frame
import Mathlib.Logic.Function.Iterate

/-
  The checksum from the table against the one that works bit
  by bit, and the bursts it finds.

  One step of the division moves every bit down and the
  lowest to the top, so a state is known from the next one.
  Two runs that end alike were alike before their last 32
  bits, and these bits are the only ones that can make up for
  a difference.
-/

namespace TrafficFabric

open List Nat

namespace Crc32c

variable {a b : UInt32}
variable (state : UInt32)
variable {first second : List Bool}
variable (crc : UInt32) (count : Nat)

/- The update over a span, and the value that is reported. -/
def updateSpan (state : UInt32) (data : List UInt8) : UInt32 :=
  data.foldl update state

def value (state : UInt32) : UInt32 :=
  state ^^^ 0xFFFFFFFF

/- The bits of a message, the least significant of each byte first. -/
def byteBits (byte : UInt8) : List Bool :=
  (List.range 8).map byte.toNat.testBit

def bitsOf (bytes : List UInt8) : List Bool :=
  bytes.flatMap byteBits

/- One bit of a message divided by the polynomial. -/
def feedBit (state : UInt32) (bit : Bool) : UInt32 :=
  shifted (state ^^^ UInt32.ofNat bit.toNat)

/- The checksum that works bit by bit. -/
def bitwise (bytes : List UInt8) : UInt32 :=
  (bitsOf bytes).foldl feedBit 0xFFFFFFFF ^^^ 0xFFFFFFFF

theorem testBit_shifted (place : Nat) :
    (shifted crc).toNat.testBit place =
      (crc.toNat.testBit (place + 1) ^^
        (crc.toNat.testBit 0 && reflectedPolynomial.toNat.testBit place)) := by
  have hLow : crc &&& 1 ≠ 0 ↔ crc.toNat.testBit 0 = true := by
    rw [ne_eq, ← UInt32.toNat_inj, UInt32.toNat_and, testBit_zero]
    simp [and_one_is_mod]
  unfold shifted
  split
  · rename_i hOdd
    rw [hLow.mp hOdd]
    simp [add_comm]
  · rename_i hEven
    rw [hLow, Bool.not_eq_true] at hEven
    rw [hEven]
    simp [add_comm]

theorem eq_of_testBit (hBits : ∀ place, a.toNat.testBit place = b.toNat.testBit place) : a = b :=
  UInt32.toNat_inj.mp (eq_of_testBit_eq hBits)

theorem shifted_xor (a b : UInt32) : shifted (a ^^^ b) = shifted a ^^^ shifted b := by
  apply eq_of_testBit
  intro place
  simp only [testBit_shifted, UInt32.toNat_xor, testBit_xor]
  cases reflectedPolynomial.toNat.testBit place <;> simp [Bool.xor_comm, Bool.xor_left_comm]

/- The lowest bit moves to the top. -/
theorem testBit_shifted_top : (shifted crc).toNat.testBit 31 = crc.toNat.testBit 0 := by
  have hPolynomial : reflectedPolynomial.toNat.testBit 31 = true := by decide
  rw [testBit_shifted, testBit_lt_two_pow crc.toNat_lt, hPolynomial, Bool.and_true,
    Bool.false_xor]

---
-- The Table
---

theorem iterate_shifted_xor (a b : UInt32) :
    shifted^[count] (a ^^^ b) = shifted^[count] a ^^^ shifted^[count] b := by
  induction count generalizing a b with
  | zero => rfl
  | succ count ih => rw [Function.iterate_succ_apply, shifted_xor, ih]; rfl

/- Low bits that are clear only let the others move down. -/
theorem testBit_iterate_shifted {crc : UInt32} {count : Nat}
    (hClear : ∀ place < count, crc.toNat.testBit place = false) (place : Nat) :
    (shifted^[count] crc).toNat.testBit place = crc.toNat.testBit (count + place) := by
  induction count generalizing place with
  | zero => rw [zero_add]; rfl
  | succ count ih =>
    have hBefore := ih (fun lower hLower => hClear lower (lt_succ_of_lt hLower))
    have hLow := hClear (count + 0) (lt_succ_self count)
    rw [Function.iterate_succ_apply', testBit_shifted, hBefore, hBefore, hLow, Bool.false_and,
      Bool.xor_false, add_right_comm, add_assoc]

theorem testBit_xor_bit (bit : Bool) (place : Nat) :
    (state ^^^ UInt32.ofNat bit.toNat).toNat.testBit place =
      (state.toNat.testBit place ^^ (decide (place = 0) && bit)) := by
  rw [UInt32.toNat_xor, testBit_xor]
  cases bit with
  | false => simp
  | true => cases place <;> simp [testBit_succ]

/- A bit that is fed moves the rest of its word down. -/
theorem shifted_xor_word (word : UInt32) :
    shifted (state ^^^ word) = feedBit state (word.toNat.testBit 0) ^^^ (word >>> 1) := by
  apply eq_of_testBit
  intro place
  have hDown : (word >>> 1).toNat.testBit place = word.toNat.testBit (place + 1) := by
    simp [add_comm]
  rw [feedBit, UInt32.toNat_xor (shifted _), testBit_xor, testBit_shifted, testBit_shifted,
    testBit_xor_bit, testBit_xor_bit, hDown, UInt32.toNat_xor, testBit_xor, testBit_xor]
  cases reflectedPolynomial.toNat.testBit place <;> simp [Bool.xor_comm, Bool.xor_left_comm]

theorem foldl_feedBit_word (state word : UInt32) (hWord : word.toNat < 2 ^ count) :
    ((List.range count).map word.toNat.testBit).foldl feedBit state =
      shifted^[count] (state ^^^ word) := by
  induction count generalizing state word with
  | zero =>
    have hNone : word = 0 := UInt32.toNat_inj.mp (by simpa using hWord)
    simp [hNone]
  | succ count ih =>
    have hRest : ((List.range count).map succ).map word.toNat.testBit =
        (List.range count).map (word >>> 1).toNat.testBit := by
      rw [map_map]
      refine map_congr_left (fun place _ => ?_)
      simp [add_comm]
    have hLess : (word >>> 1).toNat < 2 ^ count := by
      rw [UInt32.toNat_shiftRight]
      change word.toNat >>> 1 < _
      rw [shiftRight_one]
      omega
    rw [range_succ_eq_map, map_cons, foldl_cons, hRest, ih _ _ hLess,
      ← shifted_xor_word]
    rfl

theorem update_eq_bits (byte : UInt8) :
    update state byte = (byteBits byte).foldl feedBit state := by
  have hWord := foldl_feedBit_word 8 state byte.toUInt32 byte.toNat_lt
  rw [UInt8.toNat_toUInt32] at hWord
  rw [byteBits, hWord, update]
  have hMask := Nat.testBit_two_pow_sub_one 8
  have hByte : ∀ place, byte.toUInt32.toNat.testBit (8 + place) = false := by
    intro place
    refine Nat.testBit_lt_two_pow (Nat.lt_of_lt_of_le byte.toNat_lt ?_)
    exact Nat.pow_le_pow_right (by decide) (Nat.le_add_right 8 place)
  generalize byte.toUInt32 = word at hByte ⊢
  generalize hLow : (state ^^^ word) &&& 0xFF = low
  have hSplit : state ^^^ word = low ^^^ (state ^^^ word ^^^ low) := by
    rw [UInt32.xor_comm low, UInt32.xor_assoc _ low, UInt32.xor_self, UInt32.xor_zero]
  rw [hSplit, iterate_shifted_xor]
  congr 1
  apply eq_of_testBit
  intro place
  subst hLow
  rw [testBit_iterate_shifted]
  · simp [hMask, hByte, show ¬ 8 + place < 8 by omega]
  · intro lower hLower
    simp only [UInt32.toNat_xor, UInt32.toNat_and, Nat.testBit_xor, Nat.testBit_and,
      UInt32.reduceToNat, hMask, hLower, decide_true, Bool.and_true, Bool.xor_self]

---
-- Bursts
---

/- The state before a bit is known from the state after it. -/
theorem shifted_injective (hSame : shifted a = shifted b) : a = b := by
  have hLow : a.toNat.testBit 0 = b.toNat.testBit 0 := by
    rw [← testBit_shifted_top, hSame, testBit_shifted_top]
  apply eq_of_testBit
  intro place
  cases place with
  | zero => exact hLow
  | succ place =>
    have hBit := testBit_shifted b place
    rw [← hSame, testBit_shifted, hLow] at hBit
    exact Bool.xor_left_inj.mp hBit

theorem foldl_feedBit_injective (bits : List Bool)
    (hSame : bits.foldl feedBit a = bits.foldl feedBit b) : a = b := by
  induction bits generalizing a b with
  | nil => exact hSame
  | cons bit bits ih => exact (UInt32.xor_left_inj _).mp (shifted_injective (ih hSame))

/-
  States that agree after some bits agreed before them, above
  the places of those bits.
-/
theorem testBit_of_foldl_feedBit (hLength : first.length = second.length)
    (hShort : first.length ≤ 32) (hSame : first.foldl feedBit a = second.foldl feedBit b) :
    (∀ place, first.length ≤ place → a.toNat.testBit place = b.toNat.testBit place) ∧
      (a = b → first = second) := by
  induction first generalizing second a b with
  | nil =>
    cases eq_nil_of_length_eq_zero hLength.symm
    cases hSame
    exact ⟨fun _ _ => rfl, fun _ => rfl⟩
  | cons bit first ih =>
    rcases second with _ | ⟨other, second⟩
    · cases hLength
    have hFewer := le_of_succ_le_succ hShort
    rcases ih (succ.inj hLength) (by omega) hSame with ⟨hAgree, hFirst⟩
    have hLow := hAgree 31 hFewer
    simp only [feedBit, testBit_shifted_top] at hLow
    constructor
    · intro place hPlace
      rcases place with _ | place
      · cases hPlace
      have hBit := hAgree place (le_of_succ_le_succ hPlace)
      rw [feedBit, feedBit, testBit_shifted, testBit_shifted, hLow, Bool.xor_left_inj,
        testBit_xor_bit, testBit_xor_bit] at hBit
      simpa using hBit
    · rintro rfl
      rw [testBit_xor_bit, testBit_xor_bit, Bool.xor_right_inj] at hLow
      have hBit : bit = other := by simpa using hLow
      subst hBit
      rw [hFirst rfl]

theorem foldl_update (bytes : List UInt8) :
    bytes.foldl update state = (bitsOf bytes).foldl feedBit state := by
  rw [bitsOf, foldl_flatMap]
  exact congrFun (congrFun (congrArg List.foldl (funext₂ update_eq_bits)) state) bytes

theorem bitsOf_injective {a b : List UInt8} (hSame : bitsOf a = bitsOf b)
    (hLength : a.length = b.length) : a = b := by
  induction a generalizing b with
  | nil => exact (eq_nil_of_length_eq_zero hLength.symm).symm
  | cons first a ih =>
    rcases b with _ | ⟨second, b⟩
    · cases hLength
    rcases append_inj hSame rfl with ⟨hFirst, hRest⟩
    have hByte : first = second := by
      apply UInt8.toNat_inj.mp
      apply Nat.eq_of_testBit_eq
      intro place
      by_cases hPlace : place < 8
      · exact map_inj_left.mp hFirst place (mem_range.mpr hPlace)
      · have hHigh := Nat.pow_le_pow_right (show 0 < 2 by decide) (Nat.le_of_not_lt hPlace)
        rw [Nat.testBit_lt_two_pow (Nat.lt_of_lt_of_le first.toNat_lt hHigh),
          Nat.testBit_lt_two_pow (Nat.lt_of_lt_of_le second.toNat_lt hHigh)]
    rw [hByte, ih hRest (Nat.succ.inj hLength)]

/- Bits that differ within 32 places only are found to differ. -/
theorem eq_of_foldl_feedBit {state : UInt32} {start : Nat}
    (hLength : first.length = second.length)
    (hWindow : ∀ place, first[place]? ≠ second[place]? → start ≤ place ∧ place < start + 32)
    (hSame : first.foldl feedBit state = second.foldl feedBit state) : first = second := by
  have hHead : first.take start = second.take start := by
    apply ext_getElem?
    intro place
    rw [List.getElem?_take, List.getElem?_take]
    split
    · by_contra hDiffer
      have hInside := hWindow place hDiffer
      omega
    · rfl
  have hTail : first.drop (start + 32) = second.drop (start + 32) := by
    apply ext_getElem?
    intro place
    rw [List.getElem?_drop, List.getElem?_drop]
    by_contra hDiffer
    have hInside := hWindow _ hDiffer
    omega
  have hSplit : ∀ bits : List Bool,
      bits = bits.take start ++ ((bits.drop start).take 32 ++ bits.drop (start + 32)) := by
    intro bits
    rw [← drop_drop, take_append_drop, take_append_drop]
  rw [hSplit first, hSplit second, hHead, hTail, foldl_append, foldl_append,
    foldl_append, foldl_append] at hSame
  have hMiddle := (testBit_of_foldl_feedBit (by simp [hLength]) (by simp)
    (foldl_feedBit_injective _ hSame)).2 rfl
  rw [hSplit first, hSplit second, hHead, hTail, hMiddle]

/-
  The checksum from the table is the one that works bit by
  bit, pieces are added up, and a burst of up to 32 bits
  changes the checksum.
-/
theorem crc32c_exact :
    (∀ bytes, crc32c bytes = bitwise bytes) ∧
    (∀ pieces : List (List UInt8),
      value (pieces.foldl updateSpan 0xFFFFFFFF) = crc32c pieces.flatten) ∧
    (∀ (a b : List UInt8) (start : Nat), a.length = b.length → a ≠ b →
      (∀ place, (bitsOf a)[place]? ≠ (bitsOf b)[place]? → start ≤ place ∧ place < start + 32) →
      crc32c a ≠ crc32c b) := by
  refine ⟨?_, ?_, ?_⟩
  · intro bytes
    rw [crc32c, foldl_update]
    rfl
  · intro pieces
    rw [crc32c, foldl_flatten]
    rfl
  · intro a b start hLength hDifferent hWindow hSame
    apply hDifferent
    rw [crc32c, crc32c, UInt32.xor_left_inj, foldl_update, foldl_update] at hSame
    have hBits : (bitsOf a).length = (bitsOf b).length := by
      simp [bitsOf, byteBits, length_flatMap, hLength]
    exact bitsOf_injective (eq_of_foldl_feedBit hBits hWindow hSame) hLength

end Crc32c

end TrafficFabric
