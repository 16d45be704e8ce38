import Mathlib.Data.Nat.Digits.Lemmas
import TrafficFabric.Core.Identity

/-
  The text form of identities: 32 hexadecimal characters,
  written in lower case and read in either case. A text is
  the bytes it is made of.

  Each half of an identity is a numeral of 16 digits, the
  most significant first, and a numeral of known length is
  determined by its value.
-/

namespace TrafficFabric

open List Nat

variable (word : UInt64)

/- The value of a digit, negative for other characters. -/
def hexValue (c : UInt8) : Int :=
  if 48 ≤ c ∧ c ≤ 57 then c.toNat - 48
  else if 97 ≤ c ∧ c ≤ 102 then c.toNat - 97 + 10
  else if 65 ≤ c ∧ c ≤ 70 then c.toNat - 65 + 10
  else -1

def hexDigit (value : UInt32) : UInt8 :=
  if value < 10 then (48 + value).toUInt8
  else (97 + value - 10).toUInt8

namespace Id128

variable {tag : IdTag}

def toString (id : Id128 tag) : List UInt8 :=
  (List.range 32).map (fun i =>
    let source := if i < 16 then id.high else id.low
    let shift := UInt64.ofNat ((15 - i % 16) * 4)
    let nibble := ((source >>> shift) &&& 0xF).toUInt32
    hexDigit nibble)

/- The loop over the characters, with both halves so far. -/
def parseFrom : Nat → UInt64 → UInt64 → List UInt8 → Option (Id128 tag)
| _, high, low, [] => some ⟨high, low⟩
| i, high, low, c :: rest =>
  let digit := hexValue c
  if digit < 0 then none
  else if i < 16 then parseFrom (i + 1) ((high <<< 4) ||| UInt64.ofInt digit) low rest
  else parseFrom (i + 1) high ((low <<< 4) ||| UInt64.ofInt digit) rest

def parse (text : List UInt8) : Option (Id128 tag) :=
  if text.length ≠ 32 then none
  else parseFrom 0 0 0 text

end Id128

/- The hexadecimal characters. -/
def hexadecimal : List UInt8 :=
  ['0', '1', '2', '3', '4', '5', '6', '7', '8', '9', 'a', 'b', 'c', 'd', 'e', 'f',
    'A', 'B', 'C', 'D', 'E', 'F'].map (fun c => UInt8.ofNat c.toNat)

def lowerCase (c : UInt8) : UInt8 :=
  if 65 ≤ c ∧ c ≤ 90 then c + 32 else c

---
-- Numerals
---

/- The digits of a word, the most significant first. -/
def numeral (word : UInt64) : List Nat :=
  (List.range 16).map (fun i => word.toNat / 16 ^ (15 - i) % 16)

def written (digits : List Nat) : List UInt8 :=
  digits.map (fun digit => hexDigit (UInt32.ofNat digit))

def values (text : List UInt8) : List Nat :=
  text.map (fun c => (hexValue c).toNat)

/- A word after one more digit. -/
def shiftIn (word : UInt64) (c : UInt8) : UInt64 :=
  (word <<< 4) ||| UInt64.ofInt (hexValue c)

theorem hexValue_nonneg_iff (c : UInt8) : 0 ≤ hexValue c ↔ c ∈ hexadecimal := by
  have hAll : ∀ byte : Fin 256,
      0 ≤ hexValue (UInt8.ofNat byte) ↔ UInt8.ofNat byte ∈ hexadecimal := by
    decide +kernel
  have hByte := hAll ⟨c.toNat, c.toNat_lt⟩
  rwa [UInt8.ofNat_toNat] at hByte

theorem hexValue_hexDigit : ∀ digit < 16, hexValue (hexDigit (UInt32.ofNat digit)) = digit := by
  decide +kernel

/- Writing the value of a character writes it in lower case. -/
theorem hexDigit_hexValue :
    ∀ c ∈ hexadecimal,
      (hexValue c).toNat < 16 ∧ hexDigit (UInt32.ofNat (hexValue c).toNat) = lowerCase c := by
  decide +kernel

/- The low digits of a number spell what they make up of it. -/
theorem ofDigits_low (value count : Nat) :
    Nat.ofDigits 16 ((List.range count).map (fun i => value / 16 ^ i % 16)) =
      value % 16 ^ count := by
  induction count generalizing value with
  | zero => rw [Nat.pow_zero, Nat.mod_one]; rfl
  | succ count ih =>
    have hRest (i : Nat) : value / 16 ^ (i + 1) % 16 = value / 16 / 16 ^ i % 16 := by
      rw [Nat.div_div_eq_div_mul, Nat.pow_succ']
    rw [range_succ_eq_map, map_cons, map_map, Nat.ofDigits_cons, Nat.pow_succ',
      Nat.mod_mul, ← ih (value / 16), Nat.pow_zero, Nat.div_one]
    simp only [Function.comp_def, Nat.succ_eq_add_one, hRest]

theorem ofDigits_numeral : ofDigits 16 (numeral word).reverse = word.toNat := by
  have hReverse :
      (numeral word).reverse = (List.range 16).map (fun i => word.toNat / 16 ^ i % 16) := rfl
  rw [hReverse, ofDigits_low]
  exact mod_eq_of_lt word.toNat_lt

theorem toNat_shiftIn {c : UInt8} (hDigit : c ∈ hexadecimal) :
    (shiftIn word c).toNat = ((hexValue c).toNat + 16 * word.toNat) % 2 ^ 64 := by
  have hWord :
      ∀ c ∈ hexadecimal, (UInt64.ofInt (hexValue c)).toNat = (hexValue c).toNat := by
    decide +kernel
  have hValue := (hexDigit_hexValue c hDigit).1
  have hShift : word.toNat <<< 4 % 2 ^ 64 = 2 ^ 4 * (word.toNat % 2 ^ 60) := by
    rw [shiftLeft_eq]
    omega
  unfold shiftIn
  rw [UInt64.toNat_or, UInt64.toNat_shiftLeft, hWord c hDigit]
  change word.toNat <<< 4 % 2 ^ 64 ||| _ = _
  rw [hShift, ← two_pow_add_eq_or_of_lt hValue]
  omega

section

variable {text : List UInt8}

theorem toNat_foldl_shiftIn (hText : ∀ c ∈ text, c ∈ hexadecimal) (word : UInt64) (value : Nat)
    (hValue : word.toNat = value % 2 ^ 64) :
    (text.foldl shiftIn word).toNat =
      (values text).foldl (fun y x => x + 16 * y) value % 2 ^ 64 := by
  induction text generalizing word value with
  | nil => exact hValue
  | cons c rest ih =>
    rw [forall_mem_cons] at hText
    refine ih hText.2 (shiftIn word c) ((hexValue c).toNat + 16 * value) ?_
    rw [toNat_shiftIn word hText.1, hValue]
    omega

theorem values_lt (hText : ∀ c ∈ text, c ∈ hexadecimal) : ∀ digit ∈ values text, digit < 16 := by
  intro digit hDigit
  rcases mem_map.mp hDigit with ⟨c, hMem, rfl⟩
  exact (hexDigit_hexValue c (hText c hMem)).1

/- The word that 16 characters spell. -/
theorem toNat_spelled (hText : ∀ c ∈ text, c ∈ hexadecimal) (hLength : text.length = 16) :
    (text.foldl shiftIn 0).toNat = ofDigits 16 (values text).reverse := by
  have hBound := ofDigits_lt_base_pow_length (by decide)
      (fun digit hDigit => values_lt hText digit (mem_reverse.mp hDigit))
  have hCount : (values text).reverse.length = 16 := by simp [values, hLength]
  rw [hCount] at hBound
  rw [toNat_foldl_shiftIn hText 0 0 rfl, ← mod_eq_of_lt hBound, ofDigits_eq_foldr,
    foldr_reverse]
  rfl

theorem numeral_foldl_shiftIn (hText : ∀ c ∈ text, c ∈ hexadecimal) (hLength : text.length = 16) :
    written (numeral (text.foldl shiftIn 0)) = text.map lowerCase := by
  have hDigits : numeral (text.foldl shiftIn 0) = values text := by
    apply reverse_injective
    refine ofDigits_inj_of_len_eq (show 1 < 16 by decide) ?_ ?_ ?_ ?_
    · simp [numeral, values, hLength]
    · intro digit hDigit
      rcases mem_map.mp (mem_reverse.mp hDigit) with ⟨i, -, rfl⟩
      exact mod_lt _ (by decide)
    · exact fun digit hDigit => values_lt hText digit (mem_reverse.mp hDigit)
    · rw [ofDigits_numeral, toNat_spelled hText hLength]
  rw [hDigits, written, values, map_map]
  exact map_congr_left (fun c hMem => (hexDigit_hexValue c (hText c hMem)).2)

end

theorem written_hexadecimal : ∀ c ∈ written (numeral word), c ∈ hexadecimal := by
  intro c hMem
  rcases mem_map.mp hMem with ⟨digit, hDigit, rfl⟩
  rcases mem_map.mp hDigit with ⟨i, -, rfl⟩
  rw [← hexValue_nonneg_iff, hexValue_hexDigit _ (mod_lt _ (by decide))]
  exact Int.natCast_nonneg _

theorem foldl_shiftIn_numeral : (written (numeral word)).foldl shiftIn 0 = word := by
  have hValues : values (written (numeral word)) = numeral word := by
    rw [values, written, numeral, map_map, map_map]
    refine map_congr_left (fun i _ => ?_)
    exact congrArg Int.toNat (hexValue_hexDigit _ (mod_lt _ (by decide)))
  rw [← UInt64.toNat_inj, toNat_spelled (written_hexadecimal word) rfl, hValues, ofDigits_numeral]

/- One digit of a word. -/
theorem nibble_eq {i : Nat} (hIndex : i < 16) :
    ((word >>> UInt64.ofNat ((15 - i) * 4)) &&& 0xF).toUInt32 =
      UInt32.ofNat (word.toNat / 16 ^ (15 - i) % 16) := by
  have hShift : (UInt64.ofNat ((15 - i) * 4)).toNat % 64 = 4 * (15 - i) := by
    rw [UInt64.toNat_ofNat']
    omega
  rw [← UInt32.toNat_inj, UInt64.toNat_toUInt32, UInt64.toNat_and, UInt64.toNat_shiftRight, hShift,
    shiftRight_eq_div_pow, pow_mul, UInt32.toNat_ofNat']
  exact congrArg (· % 2 ^ 32) (and_two_pow_sub_one_eq_mod _ 4)

namespace Id128

variable {tag : IdTag}

theorem toString_eq (id : Id128 tag) :
    id.toString = written (numeral id.high) ++ written (numeral id.low) := by
  have hRange : List.range 32 = List.range 16 ++ (List.range 16).map (16 + ·) := rfl
  unfold toString written numeral
  rw [hRange, map_append, map_map, map_map, map_map]
  congr 1
  · refine map_congr_left (fun i hMem => ?_)
    have hIndex := mem_range.mp hMem
    simp only [if_pos hIndex, mod_eq_of_lt hIndex, nibble_eq id.high hIndex, Function.comp_apply]
  · refine map_congr_left (fun i hMem => ?_)
    have hIndex := mem_range.mp hMem
    have hLow : ¬ 16 + i < 16 := by omega
    simp only [Function.comp_apply, if_neg hLow, add_mod_left, mod_eq_of_lt hIndex,
      nibble_eq id.low hIndex]

theorem parseFrom_eq_some_iff (text : List UInt8) (i : Nat) (high low : UInt64) (id : Id128 tag) :
    parseFrom i high low text = some id ↔
      (∀ c ∈ text, c ∈ hexadecimal) ∧
        ⟨(text.take (16 - i)).foldl shiftIn high, (text.drop (16 - i)).foldl shiftIn low⟩ = id := by
  induction text generalizing i high low with
  | nil => simp [parseFrom]
  | cons c rest ih =>
    simp only [parseFrom, forall_mem_cons, ← hexValue_nonneg_iff c]
    by_cases hDigit : hexValue c < 0
    · simp [hDigit, Int.not_le.mpr hDigit]
    rw [if_neg hDigit]
    simp only [Int.not_lt.mp hDigit, true_and]
    by_cases hIndex : i < 16
    · have hLeft : 16 - i = 16 - (i + 1) + 1 := by omega
      rw [if_pos hIndex, ih, hLeft]
      rfl
    · have hLeft : 16 - i = 0 := by omega
      have hNext : 16 - (i + 1) = 0 := by omega
      rw [if_neg hIndex, ih, hLeft, hNext]
      rfl

/-
  Reading what was written returns the identity, and the texts
  that are read are those of 32 hexadecimal characters, each
  as the rendering of one identity up to the case.
-/
theorem identity_text_exact :
    (∀ id : Id128 tag, parse id.toString = some id) ∧
      (∀ text,
        ((∃ id : Id128 tag, parse text = some id) ↔
          text.length = 32 ∧ ∀ c ∈ text, c ∈ hexadecimal) ∧
        ∀ id : Id128 tag, parse text = some id → id.toString = text.map lowerCase) ∧
      ∀ first second : Id128 tag, first ≠ second → first.toString ≠ second.toString := by
  have hRead (text : List UInt8) (id : Id128 tag) :
      parse text = some id ↔
        text.length = 32 ∧ (∀ c ∈ text, c ∈ hexadecimal) ∧
          ⟨(text.take 16).foldl shiftIn 0, (text.drop 16).foldl shiftIn 0⟩ = id := by
    unfold parse
    by_cases hLength : text.length = 32
    · rw [if_neg (not_not_intro hLength), parseFrom_eq_some_iff, and_iff_right hLength]
    · simp [hLength]
  have hBack (id : Id128 tag) : parse id.toString = some id := by
    have hHex : ∀ c ∈ id.toString, c ∈ hexadecimal := by
      rw [toString_eq, forall_mem_append]
      exact ⟨written_hexadecimal id.high, written_hexadecimal id.low⟩
    have hHalf : (written (numeral id.high)).length = 16 := rfl
    refine (hRead _ id).mpr ⟨rfl, hHex, ?_⟩
    rw [toString_eq, take_left' hHalf, drop_left' hHalf, foldl_shiftIn_numeral,
      foldl_shiftIn_numeral]
  refine ⟨hBack, ?_, ?_⟩
  · intro text
    refine ⟨⟨?_, ?_⟩, ?_⟩
    · rintro ⟨id, hParsed⟩
      exact ⟨((hRead _ id).mp hParsed).1, ((hRead _ id).mp hParsed).2.1⟩
    · rintro ⟨hLength, hHex⟩
      exact ⟨_, (hRead _ _).mpr ⟨hLength, hHex, rfl⟩⟩
    · intro id hParsed
      rcases (hRead _ id).mp hParsed with ⟨hLength, hHex, rfl⟩
      have hHigh : ∀ c ∈ text.take 16, c ∈ hexadecimal :=
        fun c hMem => hHex c (mem_of_mem_take hMem)
      have hLow : ∀ c ∈ text.drop 16, c ∈ hexadecimal := fun c hMem => hHex c (mem_of_mem_drop hMem)
      rw [toString_eq, numeral_foldl_shiftIn hHigh (by simp [hLength]),
        numeral_foldl_shiftIn hLow (by simp [hLength]), ← map_append, take_append_drop]
  · intro first second hOther hSame
    have hFirst := hBack first
    rw [hSame, hBack second] at hFirst
    exact hOther (Option.some.inj hFirst).symm

theorem identity_text_exact_upper :
    (⟨0xAAAAAAAAAAAAAAAA, 0xAAAAAAAAAAAAAAAA⟩ : RequestId).toString = List.replicate 32 97 :=
  (identity_text_exact.2.1 (List.replicate 32 65)).2 _ (by decide)

end Id128

end TrafficFabric
