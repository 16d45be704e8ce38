import TrafficFabric.Codec.Text

/-
  What the validation of text accepts. The scan is modelled
  once more as the source indexes its text, so that a read
  outside the text has no result.
-/

namespace TrafficFabric

open List Option

variable {codePoint : Nat} {rest more : List UInt8}
variable (text : List UInt8)
variable {extra bits : Nat} {lead : UInt8}

/- How many bytes continue a lead byte, and the bits it holds. -/
def leadOf (lead : UInt8) : Option (Nat × Nat) :=
  if lead &&& 0xE0 = 0xC0 then some (1, (lead &&& 0x1F).toNat)
  else if lead &&& 0xF0 = 0xE0 then some (2, (lead &&& 0x0F).toNat)
  else if lead &&& 0xF8 = 0xF0 then some (3, (lead &&& 0x07).toNat)
  else none

/- The least code point that needs so many more bytes. -/
def shortestOf : Nat → Nat
| 1 => 0x80
| 2 => 0x800
| _ => 0x10000

/-
  The loop over the continuation bytes, by position. The outer
  option is missing when a byte outside the text is read.
-/
def continueAt (text : List UInt8) : Nat → Nat → Nat → Option (Option Nat)
| 0, _, codePoint => some (some codePoint)
| extra + 1, position, codePoint =>
  text[position]?.bind (fun byte =>
    match continuation? byte with
    | none => some none
    | some low => continueAt text extra (position + 1) (codePoint * 64 + low))

/- The scan as it moves its index over the text. -/
def scanUtf8 (text : List UInt8) (index : Nat) : Option Bool :=
  if index < text.length then
    text[index]?.bind (fun lead =>
      if lead < 0x80 then scanUtf8 text (index + 1)
      else
        match leadOf lead with
        | none => some false
        | some (extra, bits) =>
          if text.length ≤ index + extra then some false
          else
            (continueAt text extra (index + 1) bits).bind (fun found =>
              match found with
              | none => some false
              | some codePoint =>
                if isAcceptableCodePoint (shortestOf extra) codePoint then
                  scanUtf8 text (index + extra + 1)
                else some false))
  else some true
termination_by text.length - index

---
-- Characters
---

/- The same loop over the bytes that are left. -/
def tailValue : Nat → Nat → List UInt8 → Option (Nat × List UInt8)
| 0, codePoint, rest => some (codePoint, rest)
| _ + 1, _, [] => none
| extra + 1, codePoint, byte :: rest =>
  (continuation? byte).bind (fun low => tailValue extra (codePoint * 64 + low) rest)

/- The first character of a text, and the text after it. -/
def firstCodePoint (lead : UInt8) (rest : List UInt8) : Option (Nat × List UInt8) :=
  if lead < 0x80 then some (lead.toNat, rest)
  else
    (leadOf lead).bind (fun kind => (tailValue kind.1 kind.2 rest).filter
      (fun found => isAcceptableCodePoint (shortestOf kind.1) found.1))

theorem leadOf_eq (lead : UInt8) :
    leadOf lead =
      if lead.toNat < 192 then none
      else if lead.toNat < 224 then some (1, lead.toNat - 192)
      else if lead.toNat < 240 then some (2, lead.toNat - 224)
      else if lead.toNat < 248 then some (3, lead.toNat - 240)
      else none := by
  have hAll : ∀ number < 256, leadOf (UInt8.ofNat number) =
      if number < 192 then none
      else if number < 224 then some (1, number - 192)
      else if number < 240 then some (2, number - 224)
      else if number < 248 then some (3, number - 240)
      else none := by
    decide +kernel
  simpa using hAll lead.toNat lead.toNat_lt

theorem eq_ofNat_iff {byte : UInt8} {number : Nat} (hSmall : number < 256) :
    byte = UInt8.ofNat number ↔ byte.toNat = number := by
  rw [← UInt8.toNat_inj, UInt8.toNat_ofNat_of_lt' hSmall]

theorem continuation?_eq_some_iff (byte : UInt8) (low : Nat) :
    continuation? byte = some low ↔ low < 64 ∧ byte = UInt8.ofNat (low + 128) := by
  have hAll : ∀ number < 256, continuation? (UInt8.ofNat number) =
      if 128 ≤ number ∧ number < 192 then some (number - 128) else none := by
    decide +kernel
  have hByte := hAll byte.toNat byte.toNat_lt
  rw [UInt8.ofNat_toNat] at hByte
  rw [hByte]
  constructor
  · intro hLow
    split at hLow
    · rw [some.injEq] at hLow
      exact ⟨by omega, (eq_ofNat_iff (by omega)).mpr (by omega)⟩
    · cases hLow
  · rintro ⟨hLow, hSame⟩
    rw [eq_ofNat_iff (by omega)] at hSame
    rw [if_pos (by omega), hSame, Nat.add_sub_cancel]

/- The low digits of a code point, in continuation bytes. -/
def tailBytes (codePoint : Nat) : Nat → List UInt8
| 0 => []
| extra + 1 => UInt8.ofNat (codePoint / 64 ^ extra % 64 + 128) :: tailBytes codePoint extra

theorem tailValue_eq_some_iff :
    tailValue extra bits rest = some (codePoint, more) ↔
      bits = codePoint / 64 ^ extra ∧ rest = tailBytes codePoint extra ++ more := by
  induction extra generalizing bits rest with
  | zero => simp [tailValue, tailBytes]
  | succ extra ih =>
    rcases rest with _ | ⟨byte, rest⟩
    · simp [tailValue, tailBytes]
    · simp only [tailValue, bind_eq_some_iff, continuation?_eq_some_iff, ih, tailBytes,
        cons_append, List.cons.injEq, Nat.pow_succ, ← Nat.div_div_eq_div_mul]
      constructor
      · rintro ⟨low, ⟨hLow, hByte⟩, hBits, hRest⟩
        rw [hByte, ← hBits]
        refine ⟨by omega, ?_, hRest⟩
        congr 1
        omega
      · rintro ⟨rfl, hByte, hRest⟩
        exact ⟨_, ⟨Nat.mod_lt _ (by decide), hByte⟩, Nat.div_add_mod' _ 64, hRest⟩

theorem isAcceptableCodePoint_iff (shortest codePoint : Nat) :
    isAcceptableCodePoint shortest codePoint = true ↔
      shortest ≤ codePoint ∧ codePoint.isValidChar := by
  simp only [isAcceptableCodePoint, Bool.and_eq_true, Bool.not_eq_true', Bool.and_eq_false_iff,
    decide_eq_true_eq, decide_eq_false_iff_not, Nat.isValidChar]
  omega

theorem firstCodePoint_of_lead (hPlain : ¬ lead.toNat < 128)
    (hLead : leadOf lead = some (extra, bits)) :
    firstCodePoint lead rest = some (codePoint, more) ↔
      (bits = codePoint / 64 ^ extra ∧ rest = tailBytes codePoint extra ++ more) ∧
        shortestOf extra ≤ codePoint ∧ codePoint.isValidChar := by
  rw [firstCodePoint, if_neg (by rwa [UInt8.lt_iff_toNat_lt]), hLead]
  simp only [bind_some, filter_eq_some_iff, tailValue_eq_some_iff,
    isAcceptableCodePoint_iff]

theorem toNat_ofNatAux (hValid : codePoint.isValidChar) :
    (Char.ofNatAux codePoint hValid).val.toNat = codePoint :=
  rfl

/- The first character is read exactly from its shortest spelling. -/
theorem firstCodePoint_eq_some_iff :
    firstCodePoint lead rest = some (codePoint, more) ↔
      ∃ hValid : codePoint.isValidChar,
        lead :: rest = String.utf8EncodeChar (Char.ofNatAux codePoint hValid) ++ more := by
  have hKind := leadOf_eq lead
  unfold String.utf8EncodeChar
  dsimp only [toNat_ofNatAux]
  by_cases hPlain : lead.toNat < 128
  · rw [firstCodePoint, if_pos (UInt8.lt_iff_toNat_lt.mpr hPlain)]
    constructor
    · intro hFirst
      cases hFirst
      exact ⟨by omega, by rw [if_pos (by omega), UInt8.ofNat_toNat]; rfl⟩
    · rintro ⟨-, hSpelled⟩
      split_ifs at hSpelled
      all_goals
        rcases List.cons.inj hSpelled with ⟨hByte, rfl⟩
        rw [eq_ofNat_iff (by omega)] at hByte
      · rw [hByte]
      all_goals omega
  constructor
  · intro hFirst
    split_ifs at hKind
    all_goals first
      | rcases (firstCodePoint_of_lead hPlain hKind).mp hFirst with ⟨⟨hBits, rfl⟩, hShort, hValid⟩
        refine ⟨hValid, ?_⟩
        simp only [shortestOf] at hShort
        split_ifs
        all_goals first
          | omega
          | exact cons_eq_cons.mpr
              ⟨(eq_ofNat_iff (by omega)).mpr (by omega), by simp [tailBytes]⟩
      | simp [firstCodePoint, UInt8.lt_iff_toNat_lt, hPlain, hKind] at hFirst
  · rintro ⟨hValid, hSpelled⟩
    have hTop := hValid
    rw [Nat.isValidChar] at hTop
    split_ifs at hSpelled
    all_goals
      rcases List.cons.inj hSpelled with ⟨hByte, rfl⟩
      rw [eq_ofNat_iff (by omega)] at hByte
    · omega
    all_goals
      split_ifs at hKind
      all_goals first
        | omega
        | rw [firstCodePoint_of_lead hPlain hKind]
          exact ⟨⟨by omega, by simp [tailBytes]⟩, by simp only [shortestOf]; omega, hValid⟩

theorem isValidUtf8_cons (lead : UInt8) (rest : List UInt8) :
    isValidUtf8 (lead :: rest) =
      (firstCodePoint lead rest).any (fun found => isValidUtf8 found.2) := by
  unfold firstCodePoint
  by_cases hPlain : lead < 0x80
  · rw [if_pos hPlain, isValidUtf8.eq_def]
    simp [hPlain]
  rw [if_neg hPlain]
  by_cases hTwo : lead &&& 0xE0 = 0xC0
  · rcases rest with _ | ⟨first, more⟩
    · simp [isValidUtf8, leadOf, tailValue, hPlain, hTwo]
    · cases hFirst : continuation? first <;>
        simp [isValidUtf8, leadOf, tailValue, shortestOf, hPlain, hTwo, hFirst, Option.any_filter]
  by_cases hThree : lead &&& 0xF0 = 0xE0
  · rcases rest with _ | ⟨first, _ | ⟨second, more⟩⟩
    · simp [isValidUtf8, leadOf, tailValue, hPlain, hTwo, hThree]
    · cases hFirst : continuation? first <;>
        simp [isValidUtf8, leadOf, tailValue, hPlain, hTwo, hThree, hFirst]
    · cases hFirst : continuation? first <;> cases hSecond : continuation? second <;>
        simp [isValidUtf8, leadOf, tailValue, shortestOf, hPlain, hTwo, hThree, hFirst,
          hSecond, Option.any_filter]
  by_cases hFour : lead &&& 0xF8 = 0xF0
  · rcases rest with _ | ⟨first, _ | ⟨second, _ | ⟨third, more⟩⟩⟩
    · simp [isValidUtf8, leadOf, tailValue, hPlain, hTwo, hThree, hFour]
    · cases hFirst : continuation? first <;>
        simp [isValidUtf8, leadOf, tailValue, hPlain, hTwo, hThree, hFour, hFirst]
    · cases hFirst : continuation? first <;> cases hSecond : continuation? second <;>
        simp [isValidUtf8, leadOf, tailValue, hPlain, hTwo, hThree, hFour, hFirst, hSecond]
    · cases hFirst : continuation? first <;> cases hSecond : continuation? second <;>
        cases hThird : continuation? third <;>
        simp [isValidUtf8, leadOf, tailValue, shortestOf, hPlain, hTwo, hThree, hFour, hFirst,
          hSecond, hThird, Option.any_filter]
  · rw [isValidUtf8.eq_def]
    simp [leadOf, hPlain, hTwo, hThree, hFour]

/- Valid text is the spelling of some characters. -/
theorem isValidUtf8_iff :
    isValidUtf8 text = true ↔
      ∃ characters : List Char, text = characters.flatMap String.utf8EncodeChar := by
  constructor
  · induction hLength : text.length using Nat.strong_induction_on generalizing text with
    | _ length ih =>
      intro hValid
      rcases text with _ | ⟨lead, rest⟩
      · exact ⟨[], rfl⟩
      rw [isValidUtf8_cons, Option.any_eq_true] at hValid
      rcases hValid with ⟨⟨codePoint, more⟩, hFirst, hMore⟩
      rcases firstCodePoint_eq_some_iff.mp hFirst with ⟨hScalar, hSpelled⟩
      have hShorter : more.length < length := by
        have hSize := congrArg List.length hSpelled
        rw [length_append, String.length_utf8EncodeChar, hLength] at hSize
        have hPositive := (Char.ofNatAux codePoint hScalar).utf8Size_pos
        omega
      rcases ih more.length hShorter more rfl hMore with ⟨characters, rfl⟩
      exact ⟨_ :: characters, hSpelled⟩
  · rintro ⟨characters, rfl⟩
    induction characters with
    | nil => rfl
    | cons character characters ih =>
      rw [flatMap_cons]
      generalize hText : String.utf8EncodeChar character ++ _ = text
      rcases text with _ | ⟨lead, rest⟩
      · rfl
      · have hFirst := firstCodePoint_eq_some_iff.mpr ⟨character.valid, hText.symm⟩
        rw [isValidUtf8_cons, hFirst]
        exact ih

theorem length_tailBytes (codePoint extra : Nat) : (tailBytes codePoint extra).length = extra := by
  induction extra with
  | zero => rfl
  | succ extra ih => rw [tailBytes, length_cons, ih]

theorem continueAt_eq {position : Nat} (bits : Nat) (hInside : position + extra ≤ text.length) :
    continueAt text extra position bits =
      some ((tailValue extra bits (text.drop position)).map Prod.fst) := by
  induction extra generalizing position bits with
  | zero => rfl
  | succ extra ih =>
    have hPosition : position < text.length := by omega
    rw [drop_eq_getElem_cons hPosition, continueAt, List.getElem?_eq_getElem hPosition,
      bind_some, tailValue]
    cases continuation? text[position] with
    | none => rfl
    | some low => exact ih (bits * 64 + low) (by omega)

/- The scan reads inside the text only, and finds what the bytes say. -/
theorem scanUtf8_eq (index : Nat) : scanUtf8 text index = some (isValidUtf8 (text.drop index)) := by
  induction hLeft : text.length - index using Nat.strong_induction_on generalizing index with
  | _ left ih =>
    rw [scanUtf8]
    split
    · rename_i hIndex
      rw [drop_eq_getElem_cons hIndex, List.getElem?_eq_getElem hIndex, bind_some,
        isValidUtf8_cons, firstCodePoint]
      split
      · exact ih _ (by omega) (index + 1) rfl
      · cases leadOf text[index] with
        | none => rfl
        | some kind =>
          rcases kind with ⟨extra, bits⟩
          rw [bind_some]
          cases hTail : tailValue extra bits (text.drop (index + 1)) with
          | none =>
            simp only
            split
            · rfl
            · rw [continueAt_eq text bits (by omega), hTail]
              rfl
          | some found =>
            rcases found with ⟨codePoint, more⟩
            rcases tailValue_eq_some_iff.mp hTail with ⟨-, hRest⟩
            have hMore : text.drop (index + extra + 1) = more := by
              rw [Nat.add_right_comm, ← drop_drop, hRest,
                drop_left' (length_tailBytes codePoint extra)]
            have hSize := congrArg List.length hRest
            rw [length_append, length_tailBytes, length_drop] at hSize
            simp only
            rw [if_neg (by omega), continueAt_eq text bits (by omega), hTail]
            cases hAccepted : isAcceptableCodePoint (shortestOf extra) codePoint with
            | false => simp [hAccepted]
            | true =>
              have hNext := ih _ (by omega) (index + extra + 1) rfl
              rw [hMore] at hNext
              simp [hAccepted, hNext]
    · rename_i hEnd
      rw [drop_of_length_le (by omega)]
      rfl

/-
  A text is valid exactly if it is the concatenation of the
  shortest spellings of some characters, and the scan never
  reads outside it.
-/
theorem utf8_exact (text : List UInt8) :
    scanUtf8 text 0 = some (isValidUtf8 text) ∧
    (isValidUtf8 text = true ↔
      ∃ characters : List Char, text = characters.flatMap String.utf8EncodeChar) :=
  ⟨scanUtf8_eq text 0, isValidUtf8_iff text⟩

end TrafficFabric
