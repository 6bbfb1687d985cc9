import PackedRecords.Proofs.Bytes
import PackedRecords.Proofs.Guards
import PackedRecords.Proofs.Store.Following

/-! # Guarded calls of a device

The calls of a device and the shift of its tail, with a guard before every sum and
difference of positions and before every slice, both of the buffer and of the bytes in
memory. Numbers are of eight bytes. On a device that holds few enough bytes every guard
holds, whichever calls are refused.
-/

namespace PackedRecords

/-- Numbers of eight bytes stay below this. -/
def wordRange : Nat := 2 ^ 64

namespace Guarded

variable {δ : Type} [ByteDevice δ] [FaithfulDevice δ]

/-! ## Calls -/

/-- Reading `length` bytes from `size` bytes in memory. The end of what is asked for goes
no further than the largest number; unless it is refused, it ends a slice as long as the
bytes are asked for. -/
def readFault? (size offset length : Nat) : Option Fault :=
  let last := min (offset + length) (wordRange - 1)
  if size < offset ∨ size < last then none
  else if offset ≤ last ∧ last ≤ size ∧ last - offset = length then none
  else some .outOfRange

/-- Writing `length` bytes over `size` bytes in memory, which grow to hold them. -/
def writeFault? (size offset length : Nat) : Option Fault :=
  if size < offset then none
  else if offset + length < wordRange then
    let last := offset + length
    let grown := if size < last then last else size
    if offset ≤ last ∧ last ≤ grown ∧ last - offset = length then none else some .outOfRange
  else some .overflow

def extendFault? (size additional : Nat) : Option Fault :=
  if size + additional < wordRange then none else some .overflow

def held (device : δ) : Nat :=
  (FaithfulDevice.contents device).size

def readAt (offset length : Nat) : Guarded DeviceError δ ByteArray := do
  stopAt fun device => readFault? (held device) offset length
  plainly (ByteDevice.readAt offset length)

def readInto (offset length : Nat) : Guarded DeviceError δ ByteArray := do
  stopAt fun device => readFault? (held device) offset length
  plainly (ByteDevice.readInto offset length)

def writeAt (offset : Nat) (data : ByteArray) : Guarded DeviceError δ Unit := do
  stopAt fun device => writeFault? (held device) offset data.size
  plainly (ByteDevice.writeAt offset data)

def extend (additional : Nat) : Guarded DeviceError δ Unit := do
  stopAt fun device => extendFault? (held device) additional
  plainly (ByteDevice.extend additional)

/-! ## Shifting the tail -/

/-- Copies up the `remaining` bytes that end at `back`, highest chunk first. -/
def copyUp (buffer : Nat) (positive : 0 < buffer) (back distance remaining : Nat) :
    Guarded DeviceError δ Unit :=
  if remaining = 0 then pure ()
  else do
    let chunk := min remaining buffer
    assure (chunk ≤ back) .underflow
    let front := back - chunk
    assure (chunk ≤ buffer) .outOfRange
    let bytes ← readInto front chunk
    assure (front + distance < wordRange) .overflow
    writeAt (front + distance) bytes
    assure (chunk ≤ remaining) .underflow
    copyUp buffer positive front distance (remaining - chunk)
termination_by remaining

/-- Copies down the `remaining` bytes from `front` on, lowest chunk first. -/
def copyDown (buffer : Nat) (positive : 0 < buffer) (front distance remaining : Nat) :
    Guarded DeviceError δ Unit :=
  if remaining = 0 then pure ()
  else do
    let chunk := min remaining buffer
    assure (chunk ≤ buffer) .outOfRange
    let bytes ← readInto front chunk
    assure (distance ≤ front) .underflow
    writeAt (front - distance) bytes
    assure (front + chunk < wordRange) .overflow
    assure (chunk ≤ remaining) .underflow
    copyDown buffer positive (front + chunk) distance (remaining - chunk)
termination_by remaining

/-- Moves the bytes from `source` to the end by `delta`. -/
def shiftTail (buffer : Nat) (positive : 0 < buffer) (source : Nat) (delta : Int) :
    Guarded DeviceError δ Nat := do
  let size ← plainly ByteDevice.size
  if size < source then
    plainly (throw (.readPastEnd source 0 size))
  let length := size - source
  match delta with
  | .ofNat 0 => pure ()
  | .ofNat distance =>
      extend distance
      assure (source + length < wordRange) .overflow
      copyUp buffer positive (source + length) distance length
  | .negSucc below =>
      copyDown buffer positive source (below + 1) length
      assure (below + 1 ≤ size) .underflow
      plainly (ByteDevice.truncate (size - (below + 1)))
  return length

end Guarded

/-! ## Every guard holds -/

namespace FaithfulDevice

variable {δ : Type} [ByteDevice δ] [FaithfulDevice δ]

/-- The device holds no more bytes than the limit. -/
structure Bounded (limit : Nat) (device : δ) : Prop where
  sound : Sound device
  size : Guarded.held device ≤ limit

theorem Bounded.mono {limit larger : Nat} {device : δ} (bounded : Bounded limit device)
    (le : limit ≤ larger) : Bounded larger device :=
  ⟨bounded.sound, Nat.le_trans bounded.size le⟩

variable {α : Type} {limit : Nat}

/-- It is enough to look at what a call does in memory when it succeeds. -/
theorem unfaulted_call {call : DeviceM δ α} {reference : DeviceM Memory α}
    {answers : α → Prop} {larger : Nat} (follows : Follows call reference)
    (inMemory : ∀ bytes value after, bytes.size ≤ limit →
      reference ⟨bytes⟩ = .ok value ⟨after⟩ → answers value ∧ after.size ≤ larger) :
    Unfaulted (Bounded limit) (Guarded.plainly call) call answers (Bounded larger) := by
  refine unfaulted_plainly ?_
  intro device ⟨sound, size⟩ value after ran
  rcases follows.ok sound ran with ⟨afterSound, memoryRan⟩
  rcases inMemory _ value _ size memoryRan with ⟨known, afterSize⟩
  exact ⟨known, afterSound, afterSize⟩

theorem unfaulted_size :
    Unfaulted (Bounded (δ := δ) limit) (Guarded.plainly ByteDevice.size) ByteDevice.size
      (· ≤ limit) (Bounded limit) := by
  refine unfaulted_call follows_size ?_
  intro bytes value after size ran
  cases ran
  exact ⟨size, size⟩

theorem unfaulted_truncate (newSize : Nat) :
    Unfaulted (Bounded (δ := δ) limit) (Guarded.plainly (ByteDevice.truncate newSize))
      (ByteDevice.truncate newSize) (fun _ => True) (Bounded limit) := by
  refine unfaulted_call (follows_truncate newSize) ?_
  intro bytes value after size ran
  change Memory.truncate newSize ⟨bytes⟩ = _ at ran
  simp only [Memory.truncate] at ran
  split at ran <;> cases ran
  rw [size_resize]
  exact ⟨trivial, by omega⟩

theorem unfaulted_extend {additional : Nat} (small : limit + additional < wordRange) :
    Unfaulted (Bounded (δ := δ) limit) (Guarded.extend additional) (ByteDevice.extend additional)
      (fun _ => True) (Bounded (limit + additional)) := by
  refine Unfaulted.stopAt ?_ (unfaulted_call (follows_extend additional) ?_)
  · intro device ⟨_, size⟩
    exact if_pos (by omega)
  · intro bytes value after size ran
    cases ran
    rw [size_resize]
    exact ⟨trivial, by omega⟩

theorem memory_read_size {bytes value after : ByteArray} {offset length : Nat}
    (ran : Memory.read offset length ⟨bytes⟩ = .ok value ⟨after⟩) :
    value.size = length ∧ after = bytes := by
  simp only [Memory.read] at ran
  split at ran <;> cases ran
  rw [ByteArray.size_extract]
  exact ⟨by omega, rfl⟩

section Small

variable (small : limit < wordRange - 1)
include small

theorem readFault?_eq_none {size : Nat} (bound : size ≤ limit) (offset length : Nat) :
    Guarded.readFault? size offset length = none := by
  simp only [Guarded.readFault?]
  split
  · rfl
  · rw [if_pos (by omega)]

theorem unfaulted_readAt (offset length : Nat) :
    Unfaulted (Bounded (δ := δ) limit) (Guarded.readAt offset length)
      (ByteDevice.readAt offset length) (fun _ => True) (Bounded limit) := by
  refine Unfaulted.stopAt ?_ (unfaulted_call (follows_readAt offset length) ?_)
  · intro device ⟨_, size⟩
    exact readFault?_eq_none small size offset length
  · intro bytes value after size ran
    rcases memory_read_size ran with ⟨_, same⟩
    rw [same]
    exact ⟨trivial, size⟩

theorem unfaulted_readInto (offset length : Nat) :
    Unfaulted (Bounded (δ := δ) limit) (Guarded.readInto offset length)
      (ByteDevice.readInto offset length) (·.size = length) (Bounded limit) := by
  refine Unfaulted.stopAt ?_ (unfaulted_call (follows_readInto offset length) ?_)
  · intro device ⟨_, size⟩
    exact readFault?_eq_none small size offset length
  · intro bytes value after size ran
    rcases memory_read_size ran with ⟨length, same⟩
    rw [same]
    exact ⟨length, size⟩

theorem unfaulted_writeAt {offset : Nat} {data : ByteArray} (fits : offset + data.size ≤ limit) :
    Unfaulted (Bounded (δ := δ) limit) (Guarded.writeAt offset data)
      (ByteDevice.writeAt offset data) (fun _ => True) (Bounded limit) := by
  refine Unfaulted.stopAt ?_ (unfaulted_call (follows_writeAt offset data) ?_)
  · intro device ⟨_, size⟩
    simp only [Guarded.writeFault?]
    split
    · rfl
    · rw [if_pos (by omega), if_pos]
      split <;> omega
  · intro bytes value after size ran
    change Memory.writeAt offset data ⟨bytes⟩ = _ at ran
    simp only [Memory.writeAt] at ran
    split at ran
    · next inside =>
        cases ran
        rw [size_overwrite data inside]
        exact ⟨trivial, by omega⟩
    · cases ran

/-! ## Shifting the tail -/

theorem unfaulted_copyUp (buffer : Nat) (positive : 0 < buffer) {source distance remaining : Nat}
    (fits : source + remaining + distance ≤ limit) :
    Unfaulted (Bounded (δ := δ) limit)
      (Guarded.copyUp buffer positive (source + remaining) distance remaining)
      (copyUp buffer positive source distance remaining) (fun _ => True) (Bounded limit) := by
  induction remaining using Nat.strongRecOn with
  | ind remaining induction =>
      rw [Guarded.copyUp, copyUp]
      by_cases done : remaining = 0
      · rw [if_pos done, if_pos done]
        exact unfaulted_pure trivial
      · rw [if_neg done, if_neg done]
        simp only [copyChunk, bind_assoc]
        let chunk := min remaining buffer
        have front : source + remaining - chunk = source + (remaining - chunk) := by omega
        refine Unfaulted.assure (by omega) (Unfaulted.assure (by omega) ?_)
        rw [front]
        refine (unfaulted_readInto small _ _).bind fun bytes size => ?_
        refine Unfaulted.assure (by omega) ?_
        refine (unfaulted_writeAt small (by omega)).bind fun _ _ => ?_
        exact Unfaulted.assure (by omega) (induction _ (by omega) (by omega))

theorem unfaulted_copyDown (buffer : Nat) (positive : 0 < buffer)
    {source distance remaining : Nat} (above : distance ≤ source)
    (fits : source + remaining ≤ limit) :
    Unfaulted (Bounded (δ := δ) limit)
      (Guarded.copyDown buffer positive source distance remaining)
      (copyDown buffer positive source distance remaining) (fun _ => True) (Bounded limit) := by
  induction remaining using Nat.strongRecOn generalizing source with
  | ind remaining induction =>
      rw [Guarded.copyDown, copyDown]
      by_cases done : remaining = 0
      · rw [if_pos done, if_pos done]
        exact unfaulted_pure trivial
      · rw [if_neg done, if_neg done]
        simp only [copyChunk, bind_assoc]
        refine Unfaulted.assure (by omega) ?_
        refine (unfaulted_readInto small _ _).bind fun bytes size => ?_
        refine Unfaulted.assure above ?_
        refine (unfaulted_writeAt small (by omega)).bind fun _ _ => ?_
        refine Unfaulted.assure (by omega) (Unfaulted.assure (by omega) ?_)
        exact induction _ (by omega) (by omega) (by omega)

end Small

/-- The bytes may be moved down as far as their start allows, and up as far as numbers
go. -/
theorem unfaulted_shiftTail (buffer : Nat) (positive : 0 < buffer) {source : Nat} {delta : Int}
    (start : 0 ≤ source + delta) (small : limit + delta.toNat < wordRange - 1) :
    Unfaulted (Bounded (δ := δ) limit) (Guarded.shiftTail buffer positive source delta)
      (shiftTail buffer positive source delta) (fun _ => True)
      (Bounded (limit + delta.toNat)) := by
  rw [Guarded.shiftTail, shiftTail]
  refine unfaulted_size.bind fun size bound => ?_
  by_cases past : size < source
  · simp only [if_pos past]
    exact unfaulted_throw_bind _ _ _
  · simp only [if_neg past]
    cases delta with
    | ofNat distance =>
        cases distance with
        | zero => exact unfaulted_pure trivial
        | succ distance =>
            have room : limit + (distance + 1) < wordRange - 1 := small
            refine (unfaulted_extend (by omega)).bind fun _ _ => ?_
            refine Unfaulted.assure (by omega) ?_
            refine Unfaulted.bind (unfaulted_copyUp room buffer positive (by omega)) fun _ _ => ?_
            exact unfaulted_pure trivial
    | negSucc below =>
        have above : below + 1 ≤ source := by omega
        have room : limit < wordRange - 1 := by omega
        refine Unfaulted.bind (unfaulted_copyDown room buffer positive above (by omega))
          fun _ _ => ?_
        refine Unfaulted.assure (by omega) ?_
        refine (unfaulted_truncate _).bind fun _ _ => ?_
        exact unfaulted_pure trivial

end FaithfulDevice

end PackedRecords
