import TrafficFabric.Core.Identity
import TrafficFabric.Core.Status
import TrafficFabric.Library.Bytes

/-
  The bounded writer, and the byte layout of the fields it
  writes.

  A layout says which bytes a value stands for. A writer
  appends them when they fit its limit and keeps its first
  failure otherwise; `Writer.Appends` relates the two.
-/

namespace TrafficFabric

open List

def maxFramePayloadBytes : Nat := 4 * 1024 * 1024

def maxSnapshotPayloadBytes : Nat := 32 * 1024 * 1024

def maxCollectionEntries : Nat := 65536

namespace Layout

def u8 (value : UInt8) : List UInt8 :=
  littleEndian 1 value.toNat

def u16 (value : UInt16) : List UInt8 :=
  littleEndian 2 value.toNat

def u32 (value : UInt32) : List UInt8 :=
  littleEndian 4 value.toNat

def u64 (value : UInt64) : List UInt8 :=
  littleEndian 8 value.toNat

def i64 (value : Int64) : List UInt8 :=
  u64 value.toUInt64

def boolean (value : Bool) : List UInt8 :=
  u8 (if value then 1 else 0)

def id {tag : IdTag} (value : Id128 tag) : List UInt8 :=
  u64 value.high ++ u64 value.low

def generation {tag : GenerationTag} (value : Generation tag) : List UInt8 :=
  u64 value.value

def enumeration {E : Type} [DecidableEq E] [Enumeration E] (value : E) : List UInt8 :=
  u16 (Enumeration.code value)

/- Entries one after the other, as fields are. -/
def each {α : Type} (entry : α → List UInt8) (values : List α) : List UInt8 :=
  values.flatMap entry

def counted {α : Type} (entry : α → List UInt8) (values : List α) : List UInt8 :=
  u32 (UInt32.ofNat values.length) ++ each entry values

section Lengths

variable {α : Type} {size : Nat}

@[simp] theorem length_u8 (value : UInt8) : (u8 value).length = 1 := length_littleEndian 1 _

@[simp] theorem length_u16 (value : UInt16) : (u16 value).length = 2 := length_littleEndian 2 _

@[simp] theorem length_u32 (value : UInt32) : (u32 value).length = 4 := length_littleEndian 4 _

@[simp] theorem length_u64 (value : UInt64) : (u64 value).length = 8 := length_littleEndian 8 _

@[simp] theorem length_i64 (value : Int64) : (i64 value).length = 8 := length_u64 _

@[simp] theorem length_boolean (value : Bool) : (boolean value).length = 1 := length_u8 _

@[simp] theorem length_id {tag : IdTag} (value : Id128 tag) : (id value).length = 16 := by simp [id]

@[simp] theorem length_generation {tag : GenerationTag} (value : Generation tag) :
    (generation value).length = 8 :=
  length_u64 _

@[simp] theorem length_enumeration {E : Type} [DecidableEq E] [Enumeration E] (value : E) :
    (enumeration value).length = 2 :=
  length_u16 _

/- Bounded entries give a bounded collection. -/
theorem length_each_le {entry : α → List UInt8} (values : List α)
    (hSize : ∀ value ∈ values, (entry value).length ≤ size) :
    (each entry values).length ≤ size * values.length := by
  induction values with
  | nil => exact Nat.zero_le _
  | cons value rest ih =>
    have hValue := hSize value mem_cons_self
    have hRest := ih (fun later hLater => hSize later (mem_cons_of_mem value hLater))
    unfold each at hRest ⊢
    rw [flatMap_cons, length_append, length_cons, Nat.mul_succ]
    omega

theorem length_counted_le {entry : α → List UInt8} (values : List α)
    (hSize : ∀ value ∈ values, (entry value).length ≤ size) :
    (counted entry values).length ≤ 4 + size * values.length := by
  have hEach := length_each_le values hSize
  rw [counted, length_append, length_u32]
  omega

end Lengths

end Layout

structure Writer where
  buffer : List UInt8 := []
  limit : Nat := maxFramePayloadBytes
  failCode : StatusCode := .ok
deriving DecidableEq

namespace Writer

def ok (writer : Writer) : Bool :=
  writer.failCode == .ok

/- Only the first failure is kept. -/
def fail (writer : Writer) (code : StatusCode) : Writer :=
  if writer.failCode = .ok then { writer with failCode := code }
  else writer

def reserveField (writer : Writer) (count : Nat) : Bool × Writer :=
  if writer.failCode ≠ .ok then (false, writer)
  else if writer.limit < count ∨ writer.limit - count < writer.buffer.length then
    (false, writer.fail .boundsExceeded)
  else (true, writer)

/- Reserve room for the bytes of a field and push them. -/
def store (writer : Writer) (bytes : List UInt8) : Writer :=
  match writer.reserveField bytes.length with
  | (false, refused) => refused
  | (true, reserved) => { reserved with buffer := reserved.buffer ++ bytes }

def u8 (writer : Writer) (value : UInt8) : Writer :=
  writer.store (littleEndian 1 value.toNat)

def u16 (writer : Writer) (value : UInt16) : Writer :=
  writer.store (littleEndian 2 value.toNat)

def u32 (writer : Writer) (value : UInt32) : Writer :=
  writer.store (littleEndian 4 value.toNat)

def u64 (writer : Writer) (value : UInt64) : Writer :=
  writer.store (littleEndian 8 value.toNat)

def i64 (writer : Writer) (value : Int64) : Writer :=
  writer.u64 value.toUInt64

def boolean (writer : Writer) (value : Bool) : Writer :=
  writer.u8 (if value then 1 else 0)

def id {tag : IdTag} (writer : Writer) (value : Id128 tag) : Writer :=
  (writer.u64 value.high).u64 value.low

def generation {tag : GenerationTag} (writer : Writer) (value : Generation tag) : Writer :=
  writer.u64 value.value

def enumeration {E : Type} [DecidableEq E] [Enumeration E] (writer : Writer) (value : E) : Writer :=
  writer.u16 (Enumeration.code value)

/- The loop that encodes the entries of a collection. -/
def each {α : Type} (writer : Writer) (encode : Writer → α → Writer) (values : List α) : Writer :=
  values.foldl encode writer

---
-- Appended Bytes
---

/- The writer with bytes appended to its buffer. -/
def extended (writer : Writer) (bytes : List UInt8) : Writer :=
  { writer with buffer := writer.buffer ++ bytes }

/-
  What a writer does with some bytes: it appends them when
  they fit, and is good afterwards only if it was good and
  appended them.
-/
structure Appends (before : Writer) (bytes : List UInt8) (after : Writer) : Prop where
  fits :
    before.failCode = .ok → before.buffer.length + bytes.length ≤ before.limit →
    after = before.extended bytes
  kept : after.failCode = .ok → before.failCode = .ok ∧ after = before.extended bytes

theorem extended_extended (writer : Writer) (bytes more : List UInt8) :
    (writer.extended bytes).extended more = writer.extended (bytes ++ more) := by
  unfold extended
  rw [append_assoc]

namespace Appends

variable {first second third : Writer} {bytes more : List UInt8}

theorem refl (writer : Writer) : Appends writer [] writer := by
  have hSame : writer.extended [] = writer := by
    unfold extended
    rw [append_nil]
  constructor
  · intro _ _
    exact hSame.symm
  · intro hOk
    exact ⟨hOk, hSame.symm⟩

/- Bytes appended one after the other. -/
theorem trans (hFirst : Appends first bytes second) (hSecond : Appends second more third) :
    Appends first (bytes ++ more) third := by
  constructor
  · intro hOk hRoom
    rw [length_append] at hRoom
    have hMiddle := hFirst.fits hOk (by omega)
    subst hMiddle
    rw [← extended_extended]
    apply hSecond.fits hOk
    simp only [extended, length_append]
    omega
  · intro hOk
    rcases hSecond.kept hOk with ⟨hMiddleOk, hLast⟩
    rcases hFirst.kept hMiddleOk with ⟨hFirstOk, hMiddle⟩
    rw [← extended_extended, ← hMiddle]
    exact ⟨hFirstOk, hLast⟩

/- The first field of a record and then its other fields. -/
theorem field {fields : List (List UInt8)} (hField : Appends first bytes second)
    (hFields : Appends second fields.flatten third) :
    Appends first (bytes :: fields).flatten third :=
  hField.trans hFields

/- Reserving room and pushing bytes appends them. -/
theorem store (writer : Writer) (bytes : List UInt8) :
    Appends writer bytes (writer.store bytes) := by
  unfold Writer.store reserveField
  by_cases hOk : writer.failCode = .ok
  · by_cases hRoom : writer.buffer.length + bytes.length ≤ writer.limit
    · have hGuard :
          ¬ (writer.limit < bytes.length ∨ writer.limit - bytes.length < writer.buffer.length) := by
        omega
      rw [if_neg (not_not.mpr hOk), if_neg hGuard]
      exact ⟨fun _ _ => rfl, fun _ => ⟨hOk, rfl⟩⟩
    · have hGuard :
          writer.limit < bytes.length ∨ writer.limit - bytes.length < writer.buffer.length := by
        omega
      rw [if_neg (not_not.mpr hOk), if_pos hGuard]
      refine ⟨fun _ hFits => (hRoom hFits).elim, ?_⟩
      intro hAfter
      simp [fail, hOk] at hAfter
  · rw [if_pos hOk]
    exact ⟨fun hGood => (hOk hGood).elim, fun hGood => (hOk hGood).elim⟩

end Appends

/- A layout, and the field of a writer that appends it. -/
class Writable {α : Type} (layout : α → List UInt8)
    (write : outParam (Writer → α → Writer)) : Prop where
  appends : ∀ writer value, Appends writer (layout value) (write writer value)

instance : Writable Layout.u8 u8 where
  appends writer _ := .store writer _

instance : Writable Layout.u16 u16 where
  appends writer _ := .store writer _

instance : Writable Layout.u32 u32 where
  appends writer _ := .store writer _

instance : Writable Layout.u64 u64 where
  appends writer _ := .store writer _

instance : Writable Layout.i64 i64 where
  appends writer _ := .store writer _

instance : Writable Layout.boolean boolean where
  appends writer _ := .store writer _

instance {tag : IdTag} : Writable (@Layout.id tag) id where
  appends writer _ := (Appends.store writer _).trans (.store _ _)

instance {tag : GenerationTag} : Writable (@Layout.generation tag) generation where
  appends writer _ := .store writer _

instance {E : Type} [DecidableEq E] [Enumeration E] :
    Writable (@Layout.enumeration E _ _) enumeration where
  appends writer _ := .store writer _

theorem Appends.next {α : Type} {layout : α → List UInt8} {write : Writer → α → Writer}
    [Writable layout write] {first third : Writer} {value : α} {fields : List (List UInt8)}
    (hFields : Appends (write first value) fields.flatten third) :
    Appends first (layout value :: fields).flatten third :=
  (Writable.appends first value).field hFields

/- The loop appends the entries in order. -/
theorem Appends.each {α : Type} {encode : Writer → α → Writer} {entry : α → List UInt8}
    (hEntry : ∀ writer value, Appends writer (entry value) (encode writer value))
    (values : List α) (writer : Writer) :
    Appends writer (Layout.each entry values) (writer.each encode values) := by
  induction values generalizing writer with
  | nil => exact refl writer
  | cons value rest ih => exact (hEntry writer value).trans (ih (encode writer value))

instance {α : Type} {entry : α → List UInt8} {encode : Writer → α → Writer}
    [Writable entry encode] :
    Writable (Layout.each entry) (fun writer values => writer.each encode values) where
  appends writer values := .each Writable.appends values writer

end Writer

end TrafficFabric
