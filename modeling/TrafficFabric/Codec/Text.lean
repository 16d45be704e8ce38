import TrafficFabric.Codec.Messages

/-
  Text fields: their length and then their bytes, which have
  to be well-formed text.
-/

namespace TrafficFabric

def maxFieldStringBytes : Nat := 4096

/- The six low bits of a byte that continues a character. -/
def continuation? (byte : UInt8) : Option Nat :=
  if byte &&& 0xC0 = 0x80 then some (byte &&& 0x3F).toNat
  else none

/- A character is spelled as short as it can be. -/
def isAcceptableCodePoint (shortest codePoint : Nat) : Bool :=
  shortest ≤ codePoint && !(0xD800 ≤ codePoint && codePoint ≤ 0xDFFF) && codePoint ≤ 0x10FFFF

def isValidUtf8 : List UInt8 → Bool
| [] => true
| lead :: rest =>
  if lead < 0x80 then isValidUtf8 rest
  else if lead &&& 0xE0 = 0xC0 then
    match rest with
    | first :: more =>
      match continuation? first with
      | some low =>
        isAcceptableCodePoint 0x80 ((lead &&& 0x1F).toNat * 64 + low) && isValidUtf8 more
      | none => false
    | _ => false
  else if lead &&& 0xF0 = 0xE0 then
    match rest with
    | first :: second :: more =>
      match continuation? first, continuation? second with
      | some middle, some low =>
        isAcceptableCodePoint 0x800 (((lead &&& 0x0F).toNat * 64 + middle) * 64 + low) &&
          isValidUtf8 more
      | _, _ => false
    | _ => false
  else if lead &&& 0xF8 = 0xF0 then
    match rest with
    | first :: second :: third :: more =>
      match continuation? first, continuation? second, continuation? third with
      | some high, some middle, some low =>
        isAcceptableCodePoint 0x10000
            ((((lead &&& 0x07).toNat * 64 + high) * 64 + middle) * 64 + low) && isValidUtf8 more
      | _, _, _ => false
    | _ => false
  else false

/- Letters, digits and some punctuation. -/
def isLabelByte (byte : UInt8) : Bool :=
  (48 ≤ byte && byte ≤ 57) || (97 ≤ byte && byte ≤ 122) ||
    (65 ≤ byte && byte ≤ 90) || byte == 46 || byte == 95 || byte == 45 || byte == 58

def isSafeLabel (text : List UInt8) : Bool :=
  !text.isEmpty && text.length ≤ 128 && text.all isLabelByte

def textBytes (text : String) : List UInt8 :=
  text.toByteArray.data.toList

/- A length and then that many bytes. -/
def Layout.bytes (value : List UInt8) : List UInt8 :=
  u32 (UInt32.ofNat value.length) ++ value

namespace Writer

def raw (writer : Writer) (bytes : List UInt8) : Writer :=
  writer.store bytes

def bytesField (writer : Writer) (bytes : List UInt8) : Writer :=
  if maxFramePayloadBytes < bytes.length then writer.fail .boundsExceeded
  else (writer.u32 (UInt32.ofNat bytes.length)).raw bytes

def stringField (writer : Writer) (text : List UInt8) : Writer :=
  if maxFieldStringBytes < text.length then writer.fail .boundsExceeded
  else if !isValidUtf8 text then writer.fail .malformedInput
  else writer.bytesField text

end Writer

namespace Reader

def raw (count : Nat) : Decoder (List UInt8) :=
  fun reader =>
    match reader.require count with
    | (false, refused) => (.ok [], refused)
    | (true, ready) =>
      if ready.limit < count then (.ok [], ready.fail .boundsExceeded)
      else
        (.ok ((ready.data.drop ready.offset).take count),
          { ready with offset := ready.offset + count })

def bytesField : Decoder (List UInt8) := do
  let length ← u32
  fun reader =>
    if reader.failCode ≠ .ok then (.ok [], reader)
    else raw length.toNat reader

def stringField : Decoder (List UInt8) := do
  let bytes ← bytesField
  fun reader =>
    if reader.failCode ≠ .ok then (.ok [], reader)
    else if maxFieldStringBytes < bytes.length then (.ok [], reader.fail .boundsExceeded)
    else if !isValidUtf8 bytes then (.ok [], reader.fail .malformedInput)
    else (.ok bytes, reader)

end Reader

namespace Writer

variable (writer : Writer)

/- A failure does not touch what was written. -/
@[simp] theorem buffer_fail (code : StatusCode) : (writer.fail code).buffer = writer.buffer := by
  unfold fail
  split
  · rfl
  · rfl

theorem length_store_le (bytes : List UInt8) :
    (writer.store bytes).buffer.length ≤ writer.buffer.length + bytes.length := by
  unfold store reserveField
  by_cases hOk : writer.failCode = .ok
  · rw [if_neg (not_not.mpr hOk)]
    split
    · rename_i refused hRefused
      split at hRefused
      · cases hRefused
        rw [buffer_fail]
        exact Nat.le_add_right _ _
      · cases hRefused
    · rename_i reserved hReserved
      split at hReserved
      · cases hReserved
      · cases hReserved
        rw [List.length_append]
  · rw [if_pos hOk]
    exact Nat.le_add_right _ _

/- A field that adds at most so many bytes to a buffer. -/
class Sized {α : Type} (write : Writer → α → Writer) (size : outParam Nat) : Prop where
  grows : ∀ writer value, (write writer value).buffer.length ≤ writer.buffer.length + size

namespace Sized

variable {α : Type} {write : Writer → α → Writer} {size later total : Nat} [Sized write size]
  {writer : Writer} {value : α}

theorem last (hFits : writer.buffer.length + size ≤ total) :
    (write writer value).buffer.length ≤ total :=
  (grows writer value).trans hFits

/- The bytes of the fields that follow are added up. -/
theorem next (hFits : writer.buffer.length + (size + later) ≤ total) :
    (write writer value).buffer.length + later ≤ total := by
  have hGrows : (write writer value).buffer.length ≤ writer.buffer.length + size :=
    grows writer value
  omega

end Sized

instance : Sized boolean 1 := ⟨fun writer _ => length_store_le writer _⟩

instance : Sized u16 2 := ⟨fun writer _ => length_store_le writer _⟩

instance : Sized u32 4 := ⟨fun writer _ => length_store_le writer _⟩

instance : Sized u64 8 := ⟨fun writer _ => length_store_le writer _⟩

instance : Sized i64 8 := ⟨fun writer _ => length_store_le writer _⟩

instance {tag : GenerationTag} : Sized (@generation tag) 8 :=
  ⟨fun writer _ => length_store_le writer _⟩

instance {E : Type} [DecidableEq E] [Enumeration E] : Sized (@enumeration E _ _) 2 :=
  ⟨fun writer _ => length_store_le writer _⟩

instance {tag : IdTag} : Sized (@id tag) 16 where
  grows writer value := by
    unfold id
    apply Sized.last
    apply Sized.next
    exact Nat.le_refl _

/- A text takes at most its length and its bytes. -/
instance : Sized stringField 4100 where
  grows writer text := by
    unfold stringField bytesField
    split
    · rw [buffer_fail]
      omega
    split
    · rw [buffer_fail]
      omega
    split
    · rw [buffer_fail]
      omega
    rename_i hLong _ _
    refine (length_store_le _ text).trans ?_
    apply Sized.next
    unfold maxFieldStringBytes at hLong
    omega

end Writer

end TrafficFabric
