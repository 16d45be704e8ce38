import TrafficFabric.Codec.Writer

/-
  The bounded reader and the decoders built from it.

  A read that fails leaves its code in the reader and
  returns a zero; every later read returns a zero too. A
  decoder may also stop with a status of its own.

  Main declarations:
    * `Reader`
    * `Decoder`
    * `Decoder.Ensures.bind`
    * `Reader.finish_of_holds`
-/

---
-- The Reader
---

namespace TrafficFabric

open List Layout Enumeration

structure Reader where
  data : List UInt8
  offset : Nat := 0
  limit : Nat := maxFramePayloadBytes
  failCode : StatusCode := .ok
deriving DecidableEq

namespace Reader

/- Only the first failure is kept. -/
def fail (reader : Reader) (code : StatusCode) : Reader :=
  if reader.failCode = .ok then { reader with failCode := code }
  else reader

/- A reader as it is constructed. -/
def create (data : List UInt8) (limit : Nat) : Reader :=
  if limit < data.length then fail { data, limit } .boundsExceeded
  else { data, limit }

def require (reader : Reader) (count : Nat) : Bool × Reader :=
  if reader.failCode ≠ .ok then (false, reader)
  else if reader.data.length < count ∨ reader.data.length - count < reader.offset then
    (false, reader.fail .malformedInput)
  else (true, reader)

/-
  The bytes of a fixed-width field; none of them when they
  are not there.
-/
def fetch (reader : Reader) (count : Nat) : List UInt8 × Reader :=
  match reader.require count with
  | (false, refused) => ([], refused)
  | (true, ready) =>
    ((ready.data.drop ready.offset).take count, { ready with offset := ready.offset + count })

/- Rejects bytes that are left after a complete message. -/
def finish (reader : Reader) : Result Unit :=
  if reader.failCode ≠ .ok then .failure reader.failCode "reader failed before completion"
  else if reader.offset ≠ reader.data.length then
    .failure .trailingGarbage "unexpected trailing bytes after message body"
  else .ok ()

end Reader

---
-- Decoders
---

/- A function that reads and returns a result. -/
def Decoder (α : Type) : Type :=
  Reader → Result α × Reader

instance : Monad Decoder where
  pure value := fun reader => (.ok value, reader)
  bind decoder next := fun reader =>
    match decoder reader with
    | (.error status, after) => (.error status, after)
    | (.ok value, after) => next value after

namespace Decoder

/- Stop with the failure of the reader, if it has one. -/
def checkOk (message : String) : Decoder Unit :=
  fun reader =>
    if reader.failCode = .ok then (.ok (), reader)
    else (.failure reader.failCode message, reader)

/- Stop with a failure of the decoder's own. -/
def refuseIf (refused : Bool) (code : StatusCode) (message : String) : Decoder Unit :=
  fun reader =>
    if refused then (.failure code message, reader)
    else (.ok (), reader)

/- The loop that decodes the entries of a collection. -/
def times {α : Type} (entry : Decoder α) : Nat → Decoder (List α)
| 0 => pure []
| count + 1 => do
    let value ← entry
    let rest ← times entry count
    pure (value :: rest)

end Decoder

namespace Reader

def u8 : Decoder UInt8 :=
  fun reader =>
    let (bytes, after) := reader.fetch 1
    (.ok (UInt8.ofNat (ofLittleEndian bytes)), after)

def u16 : Decoder UInt16 :=
  fun reader =>
    let (bytes, after) := reader.fetch 2
    (.ok (UInt16.ofNat (ofLittleEndian bytes)), after)

def u32 : Decoder UInt32 :=
  fun reader =>
    let (bytes, after) := reader.fetch 4
    (.ok (UInt32.ofNat (ofLittleEndian bytes)), after)

def u64 : Decoder UInt64 :=
  fun reader =>
    let (bytes, after) := reader.fetch 8
    (.ok (UInt64.ofNat (ofLittleEndian bytes)), after)

def i64 : Decoder Int64 := do
  let value ← u64
  pure value.toInt64

/-
  The tail of a checked read: a failed reader yields a zero,
  and a value that is out of range fails the reader.
-/
def accept {α : Type} (inRange : Bool) (code : StatusCode) (value refused zero : α) : Decoder α :=
  fun reader =>
    if reader.failCode ≠ .ok then (.ok zero, reader)
    else if inRange then (.ok value, reader)
    else (.ok refused, reader.fail code)

def boolean : Decoder Bool := do
  let value ← u8
  accept (value ≤ 1) .malformedInput (value == 1) false false

def count (maxEntries : Nat) : Decoder UInt32 := do
  let value ← u32
  accept (value.toNat ≤ maxEntries) .boundsExceeded value 0 0

def enumeration {E : Type} [DecidableEq E] [Enumeration E] [Inhabited E] : Decoder E := do
  let raw ← u16
  accept (ofCode? raw : Option E).isSome
    .malformedInput ((ofCode? raw).getD default) default default

def id {tag : IdTag} : Decoder (Id128 tag) := do
  let high ← u64
  let low ← u64
  accept (high ≠ 0 || low ≠ 0) .malformedInput ⟨high, low⟩ ⟨high, low⟩ .nil

def generation {tag : GenerationTag} : Decoder (Generation tag) := do
  let value ← u64
  accept (value ≠ 0) .malformedInput ⟨value⟩ ⟨value⟩ .unset

/- The reader is good and these bytes are still unread. -/
structure Holds (reader : Reader) (bytes : List UInt8) : Prop where
  good : reader.failCode = .ok
  inside : reader.offset ≤ reader.data.length
  unread : reader.data.drop reader.offset = bytes

variable {reader : Reader} {bytes rest : List UInt8}

/- A new reader holds everything that fits its limit. -/
theorem holds_create (data : List UInt8) (limit : Nat) (hFits : data.length ≤ limit) :
    (create data limit).Holds data := by
  unfold create
  rw [if_neg (Nat.not_lt.mpr hFits)]
  exact ⟨rfl, Nat.zero_le _, drop_zero⟩

theorem fetch_of_holds (hHolds : reader.Holds (bytes ++ rest)) :
    reader.fetch bytes.length = (bytes, { reader with
            offset := reader.offset + bytes.length }) ∧
      { reader with
        offset := reader.offset + bytes.length }.Holds
        rest := by
  rcases hHolds with ⟨hGood, hInside, hUnread⟩
  have hLength : reader.data.length - reader.offset = bytes.length + rest.length := by
    rw [← length_drop, hUnread, length_append]
  have hGuard :
      ¬ (reader.data.length < bytes.length ∨
        reader.data.length - bytes.length < reader.offset) := by
    omega
  refine ⟨?_, hGood, ?_, ?_⟩
  · unfold fetch require
    rw [if_neg (not_not.mpr hGood), if_neg hGuard]
    simp only [hUnread, take_left]
  · change reader.offset + bytes.length ≤ reader.data.length
    omega
  · rw [← drop_drop, hUnread, drop_left]

/- A reader with nothing left is finished. -/
theorem finish_of_holds (hHolds : reader.Holds []) : reader.finish = .ok () := by
  rcases hHolds with ⟨hGood, hInside, hUnread⟩
  have hLength : reader.data.length - reader.offset = 0 := by
    rw [← length_drop, hUnread, length_nil]
  have hEnd : reader.offset = reader.data.length := by omega
  unfold finish
  rw [if_neg (not_not.mpr hGood), if_neg (not_not.mpr hEnd)]

theorem good_of_finish (hFinish : reader.finish = .ok ()) : reader.failCode = .ok := by
  unfold finish at hFinish
  split at hFinish
  · cases hFinish
  · rename_i hGood
    exact not_not.mp hGood

end Reader

namespace Decoder

variable {α β : Type}

/- The bytes decode to the value, whatever follows them. -/
def Decodes (decoder : Decoder α) (bytes : List UInt8) (value : α) : Prop :=
  ∀ reader rest,
    Reader.Holds reader (bytes ++ rest) →
    ∃ after : Reader, decoder reader = (.ok value, after) ∧ after.Holds rest

variable {decoder : Decoder α} {rest : α → Decoder β} {bytes more : List UInt8}
variable {reader after : Reader}

/- A first part that succeeds is followed by the next. -/
theorem bind_of_ok {value : α} (hDecoder : decoder reader = (.ok value, after)) :
    (decoder >>= rest) reader = rest value after := by
  change (match decoder reader with
    | (Except.error status, after) => (Except.error status, after)
    | (Except.ok value, after) => rest value after) = _
  rw [hDecoder]

namespace Decodes

theorem pure (value : α) : Decodes (Pure.pure value) [] value := by
  intro reader rest hHolds
  exact ⟨reader, rfl, hHolds⟩

/- Parts that are decoded one after the other. -/
theorem bind {value : α} {final : β} (hFirst : Decodes decoder bytes value)
    (hNext : Decodes (rest value) more final) :
    Decodes (decoder >>= rest) (bytes ++ more) final := by
  intro reader rest hHolds
  rw [append_assoc] at hHolds
  rcases hFirst reader (more ++ rest) hHolds with ⟨middle, hDecoder, hMiddle⟩
  rcases hNext middle rest hMiddle with ⟨after, hAfter, hRest⟩
  refine ⟨after, ?_, hRest⟩
  rw [bind_of_ok hDecoder]
  exact hAfter

/- The first field of a record and then its other fields. -/
theorem field {fields : List (List UInt8)} {value : α} {final : β}
    (hField : Decodes decoder bytes value) (hFields : Decodes (rest value) fields.flatten final) :
    Decodes (decoder >>= rest) (bytes :: fields).flatten final :=
  hField.bind hFields

/- A first part that reads nothing. -/
theorem check {value : α} {final : β} (hFirst : Decodes decoder [] value)
    (hNext : Decodes (rest value) more final) : Decodes (decoder >>= rest) more final :=
  hFirst.bind hNext

/- A last part that reads nothing. -/
theorem last {value : α} {final : β} (hFirst : Decodes decoder bytes value)
    (hNext : Decodes (rest value) [] final) : Decodes (decoder >>= rest) bytes final := by
  have hBoth := hFirst.bind hNext
  rw [append_nil] at hBoth
  exact hBoth

theorem checkOk (message : String) : Decodes (Decoder.checkOk message) [] () := by
  intro reader rest hHolds
  refine ⟨reader, ?_, hHolds⟩
  unfold Decoder.checkOk
  rw [if_pos hHolds.good]

theorem refuseIf {refused : Bool} (hPasses : refused = false) (code : StatusCode)
    (message : String) : Decodes (Decoder.refuseIf refused code message) [] () := by
  intro reader rest hHolds
  refine ⟨reader, ?_, hHolds⟩
  rw [hPasses]
  rfl

/- The end of a decoder that checks the value it read. -/
theorem checked {valid : Bool} (hValid : valid = true) (late : String) (code : StatusCode)
    (message : String) (value : α) :
    Decodes (do Decoder.checkOk late; Decoder.refuseIf (!valid) code message; Pure.pure value) []
      value := by
  have hPasses : (!valid) = false := by
    rw [hValid]
    rfl
  apply (checkOk _).check
  apply (refuseIf hPasses _ _).check
  exact Decodes.pure value

theorem accept {inRange : Bool} (hRange : inRange = true)
    (code : StatusCode) (value refused zero : α) :
    Decodes (Reader.accept inRange code value refused zero) [] value := by
  intro reader rest hHolds
  refine ⟨reader, ?_, hHolds⟩
  unfold Reader.accept
  rw [if_neg (not_not.mpr hHolds.good), if_pos hRange]

/- As many entries as the loop counts. -/
theorem times {entry : Decoder α} {layout : α → List UInt8} (values : List α)
    (hEntry : ∀ value ∈ values, Decodes entry (layout value) value) :
    Decodes (Decoder.times entry values.length) (each layout values) values := by
  induction values with
  | nil => exact Decodes.pure []
  | cons value rest ih =>
    have hHead := hEntry value mem_cons_self
    have hTail := ih (fun other hOther => hEntry other (mem_cons_of_mem value hOther))
    exact hHead.bind (hTail.last (Decodes.pure _))

/- A number of fixed width is read back. -/
theorem fixed (width value : Nat) (hFits : value < 256 ^ width) (make : Nat → α) :
    Decodes (fun reader =>
        let (bytes, after) := reader.fetch width
        (.ok (make (ofLittleEndian bytes)), after))
      (littleEndian width value) (make value) := by
  intro reader rest hHolds
  rcases Reader.fetch_of_holds hHolds with ⟨hFetch, hRest⟩
  rw [length_littleEndian] at hFetch hRest
  refine ⟨_, ?_, hRest⟩
  simp only [hFetch, ofLittleEndian_of_lt width value hFits]

theorem u8 (value : UInt8) : Decodes Reader.u8 (u8 value) value := by
  have hFixed := fixed 1 value.toNat value.toNat_lt UInt8.ofNat
  rw [UInt8.ofNat_toNat] at hFixed
  exact hFixed

theorem u16 (value : UInt16) : Decodes Reader.u16 (u16 value) value := by
  have hFixed := fixed 2 value.toNat value.toNat_lt UInt16.ofNat
  rw [UInt16.ofNat_toNat] at hFixed
  exact hFixed

theorem u32 (value : UInt32) : Decodes Reader.u32 (u32 value) value := by
  have hFixed := fixed 4 value.toNat value.toNat_lt UInt32.ofNat
  rw [UInt32.ofNat_toNat] at hFixed
  exact hFixed

theorem u64 (value : UInt64) : Decodes Reader.u64 (u64 value) value := by
  have hFixed := fixed 8 value.toNat value.toNat_lt UInt64.ofNat
  rw [UInt64.ofNat_toNat] at hFixed
  exact hFixed

theorem i64 (value : Int64) : Decodes Reader.i64 (i64 value) value :=
  (u64 value.toUInt64).last (Decodes.pure value)

theorem boolean (value : Bool) : Decodes Reader.boolean (boolean value) value := by
  cases value with
  | false => exact (u8 0).last (accept rfl .malformedInput false false false)
  | true => exact (u8 1).last (accept rfl .malformedInput true false false)

theorem count (maxEntries : Nat) (value : UInt32) (hBound : value.toNat ≤ maxEntries) :
    Decodes (Reader.count maxEntries) (Layout.u32 value) value :=
  (u32 value).last (accept (decide_eq_true hBound) .boundsExceeded value 0 0)

theorem enumeration {E : Type} [DecidableEq E] [Enumeration E] [Inhabited E] (value : E) :
    Decodes Reader.enumeration (enumeration value) value := by
  have hCode := ofCode?_code value
  have hSome : (ofCode? (code value) : Option E).isSome = true := by
    rw [hCode]
    rfl
  have hValue : (ofCode? (code value)).getD default = value := by
    rw [hCode]
    rfl
  have hAccept := accept hSome .malformedInput
    ((ofCode? (code value)).getD default) (default : E) default
  refine (u16 (code value)).last ?_
  simpa only [hValue] using hAccept

/- An identity that is not nil. -/
theorem id {tag : IdTag} (value : Id128 tag) (hSet : value ≠ .nil) :
    Decodes Reader.id (id value) value := by
  have hParts : (decide (value.high ≠ 0) ||
        decide (value.low ≠ 0)) = true := by
    by_contra hZero
    apply hSet
    rcases value with ⟨high, low⟩
    simp only [ne_eq, decide_not, Bool.or_eq_true, Bool.not_eq_true', decide_eq_false_iff_not,
      not_or, not_not] at hZero
    rw [hZero.1, hZero.2]
    rfl
  exact (u64 value.high).bind
    ((u64 value.low).last (accept hParts .malformedInput value value .nil))

theorem generation {tag : GenerationTag} (value : Generation tag) (hSet : value ≠ .unset) :
    Decodes Reader.generation (generation value) value := by
  have hValue : decide (value.value ≠ 0) = true := by
    apply decide_eq_true
    intro hZero
    apply hSet
    exact congrArg Generation.mk hZero
  exact (u64 value.value).last (accept hValue .malformedInput value value .unset)

end Decodes

---
-- Accepted Values
---

/-
  A decoder that leaves its reader good was given a good
  reader, and its value has the property.
-/
def Ensures (decoder : Decoder α) (P : α → Prop) : Prop :=
  ∀ reader value after,
    decoder reader = (.ok value, after) → after.failCode = .ok → reader.failCode = .ok ∧ P value

variable {P : α → Prop} {Q : β → Prop}

/- A success went through both parts. -/
theorem bind_eq_ok {final : β} (hBind : (decoder >>= rest) reader = (.ok final, after)) :
    ∃ value middle,
      decoder reader = (.ok value, middle) ∧ rest value middle = (.ok final, after) := by
  change (match decoder reader with
    | (Except.error status, after) => (Except.error status, after)
    | (Except.ok value, after) => rest value after) = _
    at hBind
  cases hDecoder : decoder reader with
  | mk result middle =>
    rw [hDecoder] at hBind
    cases result with
    | error status => cases hBind
    | ok value => exact ⟨value, middle, rfl, hBind⟩

namespace Ensures

theorem result {value : α} (hEnsures : Ensures decoder P)
    (hDecoder : decoder reader = (.ok value, after)) (hGood : after.failCode = .ok) : P value :=
  (hEnsures reader value after hDecoder hGood).2

theorem pure {value : α} (hValue : P value) : Ensures (Pure.pure value) P := by
  intro reader found after hDecoder hGood
  cases hDecoder
  exact ⟨hGood, hValue⟩

/- What the first part ensures may be used of the second. -/
theorem bind (hFirst : Ensures decoder P)
    (hNext : ∀ value, Ensures (rest value) (fun final => P value → Q final)) :
    Ensures (decoder >>= rest) Q := by
  intro reader final after hBind hGood
  rcases bind_eq_ok hBind with ⟨value, middle, hDecoder, hRest⟩
  rcases hNext value middle final after hRest hGood with ⟨hMiddle, hFinal⟩
  rcases hFirst reader value middle hDecoder hMiddle with ⟨hReader, hValue⟩
  exact ⟨hReader, hFinal hValue⟩

/- A part nothing is needed of. -/
theorem skip (hFirst : Ensures decoder P) (hNext : ∀ value, Ensures (rest value) Q) :
    Ensures (decoder >>= rest) Q := by
  apply hFirst.bind
  intro value reader final after hRest hGood
  rcases hNext value reader final after hRest hGood with ⟨hReader, hFinal⟩
  exact ⟨hReader, fun _ => hFinal⟩

theorem checkOk (message : String) : Ensures (Decoder.checkOk message) (fun _ => True) := by
  intro reader value after hDecoder hGood
  unfold Decoder.checkOk at hDecoder
  split at hDecoder
  · rename_i hReader
    exact ⟨hReader, trivial⟩
  · cases hDecoder

theorem refuseIf (refused : Bool) (code : StatusCode) (message : String) :
    Ensures (Decoder.refuseIf refused code message) (fun _ => refused = false) := by
  intro reader value after hDecoder hGood
  cases refused with
  | true => cases hDecoder
  | false =>
    cases hDecoder
    exact ⟨hGood, rfl⟩

/- A good reader is left only by the accepted value. -/
theorem accept (inRange : Bool) {code : StatusCode} (hCode : code ≠ .ok) (value refused zero : α) :
    Ensures (Reader.accept inRange code value refused zero)
      (fun found => inRange = true ∧ found = value) := by
  intro reader found after hDecoder hGood
  unfold Reader.accept at hDecoder
  split at hDecoder
  · rename_i hBad
    cases hDecoder
    exact (hBad hGood).elim
  · rename_i hReader
    rw [not_not] at hReader
    cases inRange with
    | true =>
      cases hDecoder
      exact ⟨hReader, rfl, rfl⟩
    | false =>
      cases hDecoder
      unfold Reader.fail at hGood
      rw [if_pos hReader] at hGood
      exact (hCode hGood).elim

/- Each entry of a loop has the property. -/
theorem times (hEntry : Ensures decoder P) (count : Nat) :
    Ensures (Decoder.times decoder count)
      (fun values => values.length = count ∧ ∀ value ∈ values, P value) := by
  induction count with
  | zero => exact Ensures.pure ⟨rfl, fun value hMem => (not_mem_nil hMem).elim⟩
  | succ count ih =>
    apply hEntry.bind
    intro first
    apply ih.bind
    intro rest
    apply Ensures.pure
    rintro ⟨hLength, hRest⟩ hFirst
    refine ⟨congrArg (· + 1) hLength, ?_⟩
    intro value hMem
    rcases mem_cons.mp hMem with rfl | hLater
    · exact hFirst
    · exact hRest value hLater

/- A fixed-width read leaves a failed reader failed. -/
theorem fixed (width : Nat) (make : Nat → α) :
    Ensures (fun reader =>
        let (bytes, after) := reader.fetch width
        (.ok (make (ofLittleEndian bytes)), after))
      (fun _ => True) := by
  intro reader value after hDecoder hGood
  refine ⟨?_, trivial⟩
  by_contra hBad
  have hFetch : reader.fetch width = ([], reader) := by
    unfold Reader.fetch Reader.require
    rw [if_pos hBad]
  simp only [hFetch, Prod.mk.injEq] at hDecoder
  rw [← hDecoder.2] at hGood
  exact hBad hGood

theorem u8 : Ensures Reader.u8 (fun _ => True) := fixed 1 UInt8.ofNat

theorem u16 : Ensures Reader.u16 (fun _ => True) := fixed 2 UInt16.ofNat

theorem u32 : Ensures Reader.u32 (fun _ => True) := fixed 4 UInt32.ofNat

theorem u64 : Ensures Reader.u64 (fun _ => True) := fixed 8 UInt64.ofNat

theorem i64 : Ensures Reader.i64 (fun _ => True) := u64.skip (fun _ => Ensures.pure trivial)

theorem boolean : Ensures Reader.boolean (fun _ => True) := by
  apply u8.skip
  intro value reader found after hDecoder hGood
  rcases accept _ (by decide) _ _ _ reader found after hDecoder hGood with ⟨hReader, -⟩
  exact ⟨hReader, trivial⟩

/- A count is within its bound. -/
theorem count (maxEntries : Nat) :
    Ensures (Reader.count maxEntries) (fun value => value.toNat ≤ maxEntries) := by
  apply u32.skip
  intro value reader found after hDecoder hGood
  rcases accept _ (by decide) _ _ _ reader found after hDecoder hGood with ⟨hReader, hRange, rfl⟩
  exact ⟨hReader, of_decide_eq_true hRange⟩

theorem enumeration {E : Type} [DecidableEq E] [Enumeration E] [Inhabited E] :
    Ensures (Reader.enumeration : Decoder E) (fun _ => True) := by
  apply u16.skip
  intro value reader found after hDecoder hGood
  rcases accept _ (by decide) _ _ _ reader found after hDecoder hGood with ⟨hReader, -⟩
  exact ⟨hReader, trivial⟩

/- An identity that is not nil. -/
theorem id {tag : IdTag} :
    Ensures (Reader.id : Decoder (Id128 tag)) (fun value => value ≠ .nil) := by
  apply u64.skip
  intro high
  apply u64.skip
  intro low reader found after hDecoder hGood
  rcases accept _ (by decide) _ _ _ reader found after hDecoder hGood with ⟨hReader, hRange, rfl⟩
  refine ⟨hReader, ?_⟩
  intro hNil
  cases hNil
  cases hRange

/- A generation that is set. -/
theorem generation {tag : GenerationTag} :
    Ensures (Reader.generation : Decoder (Generation tag)) (fun value => value ≠ .unset) := by
  apply u64.skip
  intro value reader found after hDecoder hGood
  rcases accept _ (by decide) _ _ _ reader found after hDecoder hGood with ⟨hReader, hRange, rfl⟩
  refine ⟨hReader, ?_⟩
  intro hUnset
  cases hUnset
  cases hRange

end Ensures

/- A decoder that reads back every value from its layout. -/
class Readable {α : Type} (decoder : Decoder α) (layout : outParam (α → List UInt8)) : Prop where
  decodes : ∀ value, decoder.Decodes (layout value) value
  ensures : decoder.Ensures (fun _ => True)

instance : Readable Reader.u8 u8 := ⟨.u8, .u8⟩

instance : Readable Reader.u16 u16 := ⟨.u16, .u16⟩

instance : Readable Reader.u32 u32 := ⟨.u32, .u32⟩

instance : Readable Reader.u64 u64 := ⟨.u64, .u64⟩

instance : Readable Reader.i64 i64 := ⟨.i64, .i64⟩

instance : Readable Reader.boolean boolean := ⟨.boolean, .boolean⟩

instance {E : Type} [DecidableEq E] [Enumeration E] [Inhabited E] :
    Readable (Reader.enumeration : Decoder E) enumeration :=
  ⟨.enumeration, .enumeration⟩

variable {layout : α → List UInt8}

/- The first field of a record is a plain one. -/
theorem Decodes.next [hPlain : Readable decoder layout] {value : α} {final : β}
    {fields : List (List UInt8)} (hFields : (rest value).Decodes fields.flatten final) :
    (decoder >>= rest).Decodes (layout value :: fields).flatten final :=
  (hPlain.decodes value).field hFields

theorem Ensures.next [hPlain : Readable decoder layout] (hRest : ∀ value, (rest value).Ensures Q) :
    (decoder >>= rest).Ensures Q :=
  hPlain.ensures.skip hRest

end Decoder

end TrafficFabric
