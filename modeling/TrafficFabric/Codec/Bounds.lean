import TrafficFabric.Codec.Text

/-
  What readers and writers keep to over any calls.

  A call reads the bytes it has asked for. Once a reader has
  failed, every call returns the zero of its type and leaves
  the reader as it is.
-/

---
-- The Reader
---

namespace TrafficFabric

open Reader

namespace Reader

/- The positions whose bytes a read of some width takes. -/
def taken (count : Nat) (reader : Reader) : List Nat :=
  if (reader.require count).1 then List.range' reader.offset count
  else []

/- The positions of two numbers, one after the other. -/
def takenTwice (reader : Reader) : List Nat :=
  reader.taken 8 ++ (u64 reader).2.taken 8

/- The positions of a length and of as many bytes. -/
def takenField (reader : Reader) : List Nat :=
  reader.taken 4 ++
    match u32 reader with
    | (.ok length, after) => after.taken length.toNat
    | (.error _, _) => []

/-
  The calls of a reader, each with the value it returns once
  the reader has failed and the positions it reads.
-/
inductive Call : {α : Type} → Decoder α → α → (Reader → List Nat) → Prop
| u8 : Call u8 0 (taken 1)
| u16 : Call u16 0 (taken 2)
| u32 : Call u32 0 (taken 4)
| u64 : Call u64 0 (taken 8)
| i64 : Call i64 0 (taken 8)
| boolean : Call boolean false (taken 1)
| count (maxEntries : Nat) : Call (count maxEntries) 0 (taken 4)
| enumeration {E : Type} [DecidableEq E] [Enumeration E] [Inhabited E] :
    Call (enumeration : Decoder E) default (taken 2)
| id {tag : IdTag} : Call (id : Decoder (Id128 tag)) .nil takenTwice
| generation {tag : GenerationTag} : Call (generation : Decoder (Generation tag)) .unset (taken 8)
| raw (count : Nat) : Call (raw count) [] (taken count)
| bytesField : Call bytesField [] takenField
| stringField : Call stringField [] takenField
| fail (code : StatusCode) : Call (fun reader => (.ok (), reader.fail code)) () (fun _ => [])

/- Readers after any calls. -/
inductive Later : Reader → Reader → Prop
| same (reader : Reader) : Later reader reader
| call {α : Type} {decoder : Decoder α} {zero : α} {reads : Reader → List Nat}
    {reader after : Reader} (hLater : Later reader after) (hCall : Call decoder zero reads) :
    Later reader (decoder after).2

/- What every call keeps to. -/
structure Confined {α : Type} (decoder : Decoder α) (zero : α) (reads : Reader → List Nat) :
    Prop where
  returns : ∀ reader, ∃ value after, decoder reader = (.ok value, after) ∧
    after.data = reader.data ∧ reader.offset ≤ after.offset ∧
    (reader.offset ≤ reader.data.length → after.offset ≤ reader.data.length)
  inside : ∀ reader, ∀ position ∈ reads reader, position < reader.data.length
  failed : ∀ reader, reader.failCode ≠ .ok → decoder reader = (.ok zero, reader) ∧ reads reader = []

variable {reader : Reader}

theorem fail_of_failed (hFailed : reader.failCode ≠ .ok) (code : StatusCode) :
    reader.fail code = reader :=
  if_neg hFailed

@[simp] theorem data_fail (reader : Reader) (code : StatusCode) :
    (reader.fail code).data = reader.data := by
  unfold fail
  split <;> rfl

@[simp] theorem offset_fail (reader : Reader) (code : StatusCode) :
    (reader.fail code).offset = reader.offset := by
  unfold fail
  split <;> rfl

theorem require_cases (reader : Reader) (count : Nat) :
    (reader.require count = (true, reader) ∧ reader.failCode = .ok ∧
      reader.offset + count ≤ reader.data.length) ∨
    reader.require count = (false, reader.fail .malformedInput) := by
  unfold require
  split
  · rename_i hFailed
    exact .inr (by rw [fail_of_failed hFailed])
  · rename_i hGood
    split
    · exact .inr rfl
    · exact .inl ⟨rfl, not_not.mp hGood, by omega⟩

theorem taken_inside (count position : Nat) (hTaken : position ∈ reader.taken count) :
    position < reader.data.length := by
  unfold taken at hTaken
  rcases require_cases reader count with ⟨hRequired, -, hRoom⟩ | hRefused
  · rw [hRequired, if_pos rfl, List.mem_range'_1] at hTaken
    omega
  · rw [hRefused] at hTaken
    cases hTaken

theorem taken_of_failed (count : Nat) (hFailed : reader.failCode ≠ .ok) :
    reader.taken count = [] := by
  rcases require_cases reader count with ⟨-, hGood, -⟩ | hRefused
  · exact absurd hGood hFailed
  · rw [taken, hRefused]
    rfl

namespace Confined

variable {α β : Type} {first : Decoder α} {next : α → Decoder β} {zero : α} {last : β}
variable {reads : Reader → List Nat}

/- A read that asks for its bytes first. -/
theorem required {count : Nat}
    (hRefused : ∀ reader, reader.require count = (false, reader.fail .malformedInput) →
      first reader = (.ok zero, reader.fail .malformedInput))
    (hReady : ∀ reader, reader.require count = (true, reader) →
      ∃ value after, first reader = (.ok value, after) ∧ after.data = reader.data ∧
        reader.offset ≤ after.offset ∧ after.offset ≤ reader.offset + count) :
    Confined first zero (taken count) where
  inside _ := taken_inside count
  returns reader := by
    rcases require_cases reader count with ⟨hRequired, -, hRoom⟩ | hRefusal
    · rcases hReady reader hRequired with ⟨value, after, hRun, hData, hForward, hStep⟩
      exact ⟨value, after, hRun, hData, hForward, fun _ => hStep.trans hRoom⟩
    · exact ⟨zero, _, hRefused reader hRefusal, by simp⟩
  failed reader hFailed := by
    rcases require_cases reader count with ⟨-, hGood, -⟩ | hRefusal
    · exact absurd hGood hFailed
    · rw [hRefused reader hRefusal, fail_of_failed hFailed]
      exact ⟨rfl, taken_of_failed count hFailed⟩

theorem fixed (width : Nat) (make : Nat → α) :
    Confined (fun reader =>
        let (bytes, after) := reader.fetch width
        (.ok (make (ofLittleEndian bytes)), after))
      (make 0) (taken width) := by
  refine required (fun reader hRefused => ?_) (fun reader hRequired => ?_)
  · simp only [fetch, hRefused]
    rfl
  · simp only [fetch, hRequired]
    exact ⟨_, _, rfl, rfl, Nat.le_add_right _ _, Nat.le_refl _⟩

theorem raw (count : Nat) : Confined (Reader.raw count) [] (taken count) := by
  refine required (fun reader hRefused => ?_) (fun reader hRequired => ?_)
  · simp only [Reader.raw, hRefused]
  · simp only [Reader.raw, hRequired]
    split
    · exact ⟨_, _, rfl, by simp⟩
    · exact ⟨_, _, rfl, rfl, Nat.le_add_right _ _, Nat.le_refl _⟩

/- One part and then the next. -/
theorem bind {later : α → Reader → List Nat} {all : Reader → List Nat}
    (hFirst : Confined first zero reads) (hNext : ∀ value, Confined (next value) last (later value))
    (hAll : ∀ {reader value after},
      first reader = (.ok value, after) → all reader = reads reader ++ later value after) :
    Confined (first >>= next) last all where
  returns reader := by
    rcases hFirst.returns reader with ⟨value, middle, hRun, hData, hForward, hInside⟩
    rcases (hNext value).returns middle with ⟨final, after, hRest, hSame, hOn, hWithin⟩
    rw [Decoder.bind_of_ok hRun]
    rw [hData] at hSame hWithin
    exact ⟨final, after, hRest, hSame, hForward.trans hOn, fun hStart => hWithin (hInside hStart)⟩
  inside reader position hRead := by
    rcases hFirst.returns reader with ⟨value, middle, hRun, hData, -⟩
    rw [hAll hRun] at hRead
    rcases List.mem_append.mp hRead with hEarly | hLate
    · exact hFirst.inside reader position hEarly
    · rw [← hData]
      exact (hNext value).inside middle position hLate
  failed reader hFailed := by
    rcases hFirst.failed reader hFailed with ⟨hRun, hNone⟩
    rcases (hNext zero).failed reader hFailed with ⟨hRest, hNoMore⟩
    rw [Decoder.bind_of_ok hRun, hAll hRun, hNone, hNoMore]
    exact ⟨hRest, rfl⟩

/- A part that reads nothing more. -/
theorem check (hFirst : Confined first zero reads)
    (hNext : ∀ value, Confined (next value) last (fun _ => [])) :
    Confined (first >>= next) last reads :=
  hFirst.bind hNext (fun _ => (List.append_nil _).symm)

theorem accept (inRange : Bool) (code : StatusCode) (value refused zero : α) :
    Confined (Reader.accept inRange code value refused zero) zero (fun _ => []) where
  inside := by simp
  returns reader := by
    unfold Reader.accept
    split_ifs
    all_goals exact ⟨_, _, rfl, by simp⟩
  failed reader hFailed := by
    exact ⟨if_pos hFailed, rfl⟩

theorem bytesField : Confined Reader.bytesField [] takenField := by
  refine (fixed 4 UInt32.ofNat).bind
    (show ∀ length : UInt32, Confined _ [] (taken length.toNat) from fun length => ?_)
    (fun hRun => ?_)
  · have hSame : (fun reader => if reader.failCode ≠ .ok then (.ok [], reader)
        else Reader.raw length.toNat reader) = Reader.raw length.toNat := by
      funext reader
      split
      · rename_i hFailed
        exact ((raw length.toNat).failed reader hFailed).1.symm
      · rfl
    rw [hSame]
    exact raw length.toNat
  · rw [takenField, show u32 _ = _ from hRun]

theorem stringField : Confined stringField [] takenField := by
  refine bytesField.check (fun bytes => ?_)
  constructor
  · intro reader
    split_ifs
    all_goals exact ⟨_, _, rfl, by simp⟩
  · simp
  · intro reader hFailed
    exact ⟨if_pos hFailed, rfl⟩

theorem id {tag : IdTag} : Confined (id : Decoder (Id128 tag)) .nil takenTwice := by
  refine (fixed 8 UInt64.ofNat).bind
    (fun high => (fixed 8 UInt64.ofNat).check (fun low => accept _ _ _ _ _)) (fun hRun => ?_)
  rw [takenTwice, show u64 _ = _ from hRun]

end Confined

theorem Call.confined {α : Type} {decoder : Decoder α} {zero : α} {reads : Reader → List Nat}
    (hCall : Call decoder zero reads) : Confined decoder zero reads := by
  cases hCall with
  | u8 => exact .fixed 1 UInt8.ofNat
  | u16 => exact .fixed 2 UInt16.ofNat
  | u32 => exact .fixed 4 UInt32.ofNat
  | u64 => exact .fixed 8 UInt64.ofNat
  | i64 => exact .fixed 8 (fun number => (UInt64.ofNat number).toInt64)
  | boolean => exact (Confined.fixed 1 UInt8.ofNat).check (fun _ => .accept _ _ _ _ _)
  | count => exact (Confined.fixed 4 UInt32.ofNat).check (fun _ => .accept _ _ _ _ _)
  | enumeration => exact (Confined.fixed 2 UInt16.ofNat).check (fun _ => .accept _ _ _ _ _)
  | id => exact .id
  | generation => exact (Confined.fixed 8 UInt64.ofNat).check (fun _ => .accept _ _ _ _ _)
  | raw count => exact .raw count
  | bytesField => exact .bytesField
  | stringField => exact .stringField
  | fail code =>
    refine ⟨fun reader => ⟨_, _, rfl, by simp⟩, by simp, fun reader hFailed => ⟨?_, rfl⟩⟩
    rw [fail_of_failed hFailed]

theorem Later.bounded {before after : Reader} (hLater : Later before after)
    (hInside : before.offset ≤ before.data.length) :
    after.data = before.data ∧ before.offset ≤ after.offset ∧
      after.offset ≤ before.data.length ∧ (before.failCode ≠ .ok → after = before) := by
  induction hLater with
  | same reader => exact ⟨rfl, Nat.le_refl _, hInside, fun _ => rfl⟩
  | call hLater hCall ih =>
    rcases ih hInside with ⟨hData, hForward, hWithin, hStill⟩
    rcases hCall.confined.returns _ with ⟨value, last, hRun, hSame, hOn, hKept⟩
    rw [← hData] at hWithin
    refine ⟨?_, ?_, ?_, ?_⟩
    · rw [hRun, hSame, hData]
    · rw [hRun]
      exact hForward.trans hOn
    · rw [hRun, ← hData]
      exact hKept hWithin
    · intro hFailed
      rw [hStill hFailed, (hCall.confined.failed _ hFailed).1]

end Reader

---
-- The Writer
---

namespace Writer

variable {bytes : List UInt8}

/- The calls of a writer, each with the encoding of its field. -/
inductive Call : (Writer → Writer) → List UInt8 → Prop
| u8 (value : UInt8) : Call (·.u8 value) (Layout.u8 value)
| u16 (value : UInt16) : Call (·.u16 value) (Layout.u16 value)
| u32 (value : UInt32) : Call (·.u32 value) (Layout.u32 value)
| u64 (value : UInt64) : Call (·.u64 value) (Layout.u64 value)
| i64 (value : Int64) : Call (·.i64 value) (Layout.i64 value)
| boolean (value : Bool) : Call (·.boolean value) (Layout.boolean value)
| enumeration {E : Type} [DecidableEq E] [Enumeration E] (value : E) :
    Call (·.enumeration value) (Layout.enumeration value)
| id {tag : IdTag} (value : Id128 tag) : Call (·.id value) (Layout.id value)
| generation {tag : GenerationTag} (value : Generation tag) :
    Call (·.generation value) (Layout.generation value)
| raw (bytes : List UInt8) : Call (·.raw bytes) bytes
| bytesField (bytes : List UInt8) : Call (·.bytesField bytes) (Layout.bytes bytes)
| stringField (text : List UInt8) : Call (·.stringField text) (Layout.bytes text)

/- Writers after any calls, with the encodings of all fields. -/
inductive Written (limit : Nat) : List UInt8 → Writer → Prop
| none : Written limit [] { limit }
| call {bytes field : List UInt8} {write : Writer → Writer} {writer : Writer}
    (hWritten : Written limit bytes writer) (hCall : Call write field) :
    Written limit (bytes ++ field) (write writer)

/- What every call keeps to. -/
structure Bounded (before : Writer) (bytes : List UInt8) (after : Writer) : Prop where
  limit : after.limit = before.limit
  room : before.buffer.length ≤ before.limit → after.buffer.length ≤ before.limit
  kept : after.failCode = .ok → before.failCode = .ok ∧ after.buffer = before.buffer ++ bytes

namespace Bounded

variable (writer : Writer) (bytes : List UInt8)

theorem fail {code : StatusCode} (hCode : code ≠ .ok) :
    Bounded writer bytes (writer.fail code) := by
  unfold Writer.fail
  split
  · exact ⟨rfl, fun hRoom => hRoom, fun hOk => absurd hOk hCode⟩
  · rename_i hFailed
    exact ⟨rfl, fun hRoom => hRoom, fun hOk => absurd hOk hFailed⟩

theorem store : Bounded writer bytes (writer.store bytes) := by
  unfold Writer.store reserveField
  split_ifs with hFailed hFull
  · exact ⟨rfl, fun hRoom => hRoom, fun hOk => absurd hOk hFailed⟩
  · exact fail writer bytes (by decide)
  · refine ⟨rfl, fun _ => ?_, fun _ => ⟨not_not.mp hFailed, rfl⟩⟩
    rw [List.length_append]
    omega

theorem trans {first second third : Writer} {bytes more : List UInt8}
    (hFirst : Bounded first bytes second) (hSecond : Bounded second more third) :
    Bounded first (bytes ++ more) third where
  limit := hSecond.limit.trans hFirst.limit
  room hRoom := by
    have hMiddle := hFirst.room hRoom
    rw [← hFirst.limit] at hMiddle ⊢
    exact hSecond.room hMiddle
  kept hOk := by
    rcases hSecond.kept hOk with ⟨hMiddle, hLast⟩
    rcases hFirst.kept hMiddle with ⟨hStart, hBytes⟩
    rw [hLast, hBytes, List.append_assoc]
    exact ⟨hStart, rfl⟩

theorem bytesField : Bounded writer (Layout.bytes bytes) (writer.bytesField bytes) := by
  unfold Writer.bytesField
  split
  · exact fail writer _ (by decide)
  · exact (store writer _).trans (store _ _)

theorem stringField (text : List UInt8) :
    Bounded writer (Layout.bytes text) (writer.stringField text) := by
  unfold Writer.stringField
  split
  · exact fail writer _ (by decide)
  split
  · exact fail writer _ (by decide)
  · exact bytesField writer text

end Bounded

theorem Call.bounded {write : Writer → Writer} (hCall : Call write bytes) (writer : Writer) :
    Bounded writer bytes (write writer) := by
  cases hCall with
  | id value => exact (Bounded.store writer _).trans (.store _ _)
  | bytesField bytes => exact .bytesField writer bytes
  | stringField text => exact .stringField writer text
  | _ => exact .store writer _

theorem Written.bounded {limit : Nat} {writer : Writer} (hWritten : Written limit bytes writer) :
    Bounded { limit } bytes writer := by
  induction hWritten with
  | none => exact ⟨rfl, fun hRoom => hRoom, fun _ => ⟨rfl, rfl⟩⟩
  | call hWritten hCall ih => exact ih.trans (hCall.bounded _)

end Writer

/-
  A reader stays inside its data and is still once it has
  failed; a writer stays inside its limit and holds all its
  fields if it has not.
-/
theorem codec_bounded :
    (∀ (data : List UInt8) (limit : Nat) (reader : Reader),
      (create data limit).Later reader →
      (∀ after, reader.Later after →
        reader.offset ≤ after.offset ∧ after.offset ≤ data.length ∧
        (reader.failCode ≠ .ok → after = reader)) ∧
      ∀ (α : Type) (decoder : Decoder α) (zero : α) (reads : Reader → List Nat),
        Call decoder zero reads →
        (∀ position ∈ reads reader, position < data.length) ∧
        (reader.failCode ≠ .ok → decoder reader = (.ok zero, reader))) ∧
    (∀ (limit : Nat) (bytes : List UInt8) (writer : Writer), Writer.Written limit bytes writer →
      writer.buffer.length ≤ limit ∧ (writer.ok = true → writer.buffer = bytes)) := by
  constructor
  · intro data limit reader hReader
    have hCreated : (create data limit).data = data ∧
        (create data limit).offset = 0 := by
      unfold create
      split <;> simp
    rcases hReader.bounded (by rw [hCreated.2]; exact Nat.zero_le _) with ⟨hData, -, hInside, -⟩
    rw [hCreated.1] at hData hInside
    constructor
    · intro after hAfter
      rcases hAfter.bounded (by rw [hData]; exact hInside) with ⟨-, hForward, hWithin, hStill⟩
      rw [hData] at hWithin
      exact ⟨hForward, hWithin, hStill⟩
    · intro α decoder zero reads hCall
      rw [← hData]
      exact ⟨hCall.confined.inside reader, fun hFailed => (hCall.confined.failed reader hFailed).1⟩
  · intro limit bytes writer hWritten
    refine ⟨hWritten.bounded.room (Nat.zero_le _), fun hOk => ?_⟩
    exact (hWritten.bounded.kept (eq_of_beq hOk)).2

end TrafficFabric
